import Mainboard.Binary64.Nearest
import Mainboard.Document.Token

/-!
# Numbers of a document

A number without a point or an exponent is whole as long as it fits 64 bits;
every other number, minus zero among them, is floating.  A floating number
beyond the largest finite value of 64 bits is malformed.
-/

namespace Mainboard.Document

/-- A number as its characters are written. -/
structure Numeral where
  negative : Bool
  whole : List Char
  fraction : Option (List Char)
  exponent : Option Int

namespace Numeral

def exponentOf : List Char → Option Int
  | [] => none
  | '+' :: digits => some (Nat.ofDigitChars 10 digits 0)
  | '-' :: digits => some (-(Nat.ofDigitChars 10 digits 0 : Int))
  | digits => some (Nat.ofDigitChars 10 digits 0)

def ofLexeme (lexeme : List Char) : Numeral :=
  let negative := lexeme.head? == some '-'
  let unsigned := if negative then lexeme.drop 1 else lexeme
  let whole := unsigned.takeWhile Char.isDigit
  let rest := unsigned.dropWhile Char.isDigit
  if rest.head? == some '.' then
    let decimals := rest.drop 1
    { negative, whole
      fraction := some (decimals.takeWhile Char.isDigit)
      exponent := exponentOf ((decimals.dropWhile Char.isDigit).drop 1) }
  else
    { negative, whole, fraction := none, exponent := exponentOf (rest.drop 1) }

/-- The leading digits of a number as far as they fit 64 bits, with the power
of ten they are multiplied by. -/
structure Leading where
  significand : Nat := 0
  power : Int := 0
  full : Bool := false

/-- Takes one digit before the point.  From the first that does not fit, digits
only count. -/
def Leading.takeWhole (leading : Leading) (digit : Char) : Leading :=
  let next := 10 * leading.significand + (digit.toNat - '0'.toNat)
  if leading.full || UInt64.size ≤ next then
    { leading with power := leading.power + 1, full := true }
  else { leading with significand := next }

/-- Takes one digit after the point.  From the first that does not fit, digits
are dropped. -/
def Leading.takeDecimal (leading : Leading) (digit : Char) : Leading :=
  let next := 10 * leading.significand + (digit.toNat - '0'.toNat)
  if leading.full || UInt64.size ≤ next then { leading with full := true }
  else { leading with significand := next, power := leading.power - 1 }

def leading (numeral : Numeral) : Leading :=
  let whole := numeral.whole.foldl Leading.takeWhole {}
  let all := (numeral.fraction.getD []).foldl Leading.takeDecimal { whole with full := false }
  { all with power := all.power + numeral.exponent.getD 0 }

/-- The least number that rounds beyond the largest finite value of 64 bits: one half
of the last place above it, `(2 ^ 54 - 1) * 2 ^ 970`. -/
def finiteLimit : Nat := 18014398509481983 <<< 970

/-- Whether the number is beyond the largest finite value: the leading digits
and the power of ten are rounded, then multiplied. -/
def isBeyondFinite (numeral : Numeral) : Bool :=
  let leading := numeral.leading
  if leading.significand = 0 ∨ leading.power < 0 then false
  else if 308 < leading.power then true
  else
    let digits := Binary64.nearest leading.significand 1
    let power := Binary64.nearest (Nat.pow 10 leading.power.toNat) 1
    let product : Binary64 :=
      ⟨digits.mantissa * power.mantissa, digits.exponent + power.exponent⟩
    finiteLimit * product.toFraction.2 ≤ product.toFraction.1

end Numeral

/-- What a reader can do with a number. -/
inductive Amount
  | whole (value : Nat)
  | negative (magnitude : Nat)
  | floating
  deriving DecidableEq

def Amount.found : Amount → Found
  | whole value => .integer value
  | negative magnitude => .integer (-(magnitude : Int))
  | floating => .floating

/-- The amount that a number stands for; none if it is beyond the largest
finite value. -/
def Amount.ofLexeme? (lexeme : List Char) : Option Amount :=
  let numeral := Numeral.ofLexeme lexeme
  let magnitude := Nat.ofDigitChars 10 numeral.whole 0
  let isWhole := numeral.fraction.isNone && numeral.exponent.isNone
  if isWhole && !numeral.negative && magnitude < UInt64.size then some (whole magnitude)
  else if isWhole && numeral.negative && 0 < magnitude && 2 * magnitude ≤ UInt64.size then
    some (negative magnitude)
  else if numeral.isBeyondFinite then none
  else some floating

end Mainboard.Document
