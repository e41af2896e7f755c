import Mainboard.Document.Number
import Mainboard.Document.Value

/-!
# Reading values

A reader takes a value and gives what it means, or the first problem it meets.
It is told how many lists and maps are open around the value.  Values of
unknown members are not read: they are skipped, which checks their grammar
only, or set aside for later, which also checks their text, their numbers and
how deep they nest.
-/

namespace Mainboard.Document

/-- A reader of values. -/
abbrev Reader (α : Type) := Nat → Value → Except Problem α

/-- Whether a unit is the first of the two that one character is written with. -/
def isLeading (unit : Nat) : Bool := 0xd800 ≤ unit && unit ≤ 0xdbff

/-- Whether a unit is the second of the two that one character is written with. -/
def isTrailing (unit : Nat) : Bool := 0xdc00 ≤ unit && unit ≤ 0xdfff

/-- The characters of quoted text.  Units from the surrogate range come in
pairs, and a text that breaks off has a problem after its pieces. -/
def readPieces (broken : Option Break) : List Piece → Except Problem (List Char)
  | [] =>
      match broken with
      | none => .ok []
      | some how => .error how.problem
  | .character value :: pieces => (readPieces broken pieces).map (value :: ·)
  | .unit first :: .unit second :: pieces =>
      if isTrailing first then .error .malformed
      else if isLeading first then
        if isTrailing second then
          (readPieces broken pieces).map
            (Char.ofNat (0x10000 + 0x400 * (first - 0xd800) + (second - 0xdc00)) :: ·)
        else .error .malformed
      else (readPieces broken (.unit second :: pieces)).map (Char.ofNat first :: ·)
  | .unit first :: pieces =>
      if isTrailing first then .error .malformed
      else if isLeading first then
        match pieces, broken with
        | [], some how => .error how.problem
        | _, _ => .error .malformed
      else (readPieces broken pieces).map (Char.ofNat first :: ·)

def Quote.read (quote : Quote) : Except Problem String :=
  (readPieces quote.broken quote.pieces).map String.ofList

def checkClosed : Option Break → Except Problem Unit
  | none => .ok ()
  | some broken => .error broken.problem

/-- The problem of a value of another kind than expected.  Words, numbers and
text are read to their end before they are refused; lists and maps are not
looked into. -/
def wrongType (expected : String) (value : Value) : Problem :=
  let refuse (found : Found) : Problem := .refused (.wrongType found expected)
  match value with
  | .null => refuse .null
  | .boolean value => refuse (.boolean value)
  | .number lexeme =>
      match Amount.ofLexeme? lexeme with
      | some amount => refuse amount.found
      | none => .malformed
  | .quote quote =>
      match quote.read with
      | .ok text => refuse (.text text)
      | .error problem => problem
  | .list .. => refuse .sequence
  | .map .. => refuse .map
  | .brokenWord broken | .brokenNumber broken | .hole broken => broken.problem

def readBoolean : Reader Bool
  | _, .boolean value => .ok value
  | _, value => .error (wrongType "a boolean" value)

def readWhole (limit : Nat) (expected : String) : Reader Nat
  | _, .number lexeme =>
      match Amount.ofLexeme? lexeme with
      | none => .error .malformed
      | some (.whole value) =>
          if value < limit then .ok value
          else .error (.refused (.wrongValue (.integer value) expected))
      | some (.negative magnitude) =>
          .error (.refused (.wrongValue (.integer (-(magnitude : Int))) expected))
      | some .floating => .error (.refused (.wrongType .floating expected))
  | _, value => .error (wrongType expected value)

def readUInt8 : Reader UInt8 := fun depth value =>
  (readWhole UInt8.size "u8" depth value).map UInt8.ofNat

def readUInt32 : Reader UInt32 := fun depth value =>
  (readWhole UInt32.size "u32" depth value).map UInt32.ofNat

def readUInt64 : Reader UInt64 := fun depth value =>
  (readWhole UInt64.size "u64" depth value).map UInt64.ofNat

def readCount : Reader Nat := readWhole UInt64.size "usize"

def readTextAs (expected : String) : Reader String
  | _, .quote quote => quote.read
  | _, value => .error (wrongType expected value)

def readText : Reader String := readTextAs "a string"

def readPath : Reader String := readTextAs "path string"

/-- Reads a value that may be `null`. -/
def readOptional {α : Type} (reader : Reader α) : Reader (Option α)
  | _, .null => .ok none
  | depth, value => (reader depth value).map some

def readItems {α : Type} (reader : Reader α) (depth : Nat) :
    List Value → Except Problem (List α)
  | [] => .ok []
  | item :: items => do
      let first ← reader depth item
      let rest ← readItems reader depth items
      return first :: rest

def readList {α : Type} (reader : Reader α) : Reader (List α)
  | depth, .list items broken => do
      let values ← readItems reader (depth + 1) items
      checkClosed broken
      return values
  | _, value => .error (wrongType "a sequence" value)

def resolveName {α : Type} (spellings : List (String × α)) (name : String) :
    Except Problem α :=
  match spellings.lookup name with
  | some meaning => .ok meaning
  | none => .error (.refused (.unknownName name (spellings.map Prod.fst)))

/-- Reads a name out of a list of spellings.  A map from the name to `null`
stands for the name; any other value breaks the grammar. -/
def readName {α : Type} (spellings : List (String × α)) : Reader α
  | depth, .quote quote => do resolveName spellings (← readText depth (.quote quote))
  | _, .map [] none => .error .malformed
  | _, .map [] (some broken) => .error broken.problem
  | _, .map ((key, value) :: members) broken => do
      let meaning ← resolveName spellings (← key.read)
      match value with
      | .null => pure ()
      | value => throw (wrongType "unit" value)
      if members.isEmpty then
        checkClosed broken
        return meaning
      else throw .malformed
  | _, .hole broken => .error broken.problem
  | _, _ => .error .malformed

/-- How an amount with a unit is read: from its text or from a whole number. -/
structure AmountForm (α : Type) where
  noun : String
  expected : String
  ofText? : String → Option α
  ofWhole? : UInt64 → Option α

def readAmount {α : Type} (form : AmountForm α) : Reader α
  | _, .quote quote => do
      let text ← quote.read
      match form.ofText? text with
      | some amount => return amount
      | none => throw (.refused (.unreadable form.noun text))
  | _, .number lexeme =>
      match Amount.ofLexeme? lexeme with
      | none => .error .malformed
      | some (.whole value) =>
          match form.ofWhole? (UInt64.ofNat value) with
          | some amount => .ok amount
          | none => .error (.refused (.outOfRange value))
      | some (.negative _) => .error (.refused .negative)
      | some .floating => .error (.refused (.wrongType .floating form.expected))
  | _, value => .error (wrongType form.expected value)

mutual

def skip : Value → Except Problem Unit
  | .null | .boolean _ | .number _ => .ok ()
  | .quote quote => checkClosed quote.broken
  | .list items broken => do
      skipItems items
      checkClosed broken
  | .map members broken => do
      skipMembers members
      checkClosed broken
  | .brokenNumber _ => .error .malformed
  | .brokenWord broken | .hole broken => .error broken.problem

def skipItems : List Value → Except Problem Unit
  | [] => .ok ()
  | item :: items => do
      skip item
      skipItems items

def skipMembers : List (Quote × Value) → Except Problem Unit
  | [] => .ok ()
  | (key, value) :: members => do
      checkClosed key.broken
      skip value
      skipMembers members

end

/-- How many lists and maps may be open at once around a value set aside. -/
def nestingLimit : Nat := 127

def checkNesting (depth : Nat) : Except Problem Unit :=
  if depth < nestingLimit then .ok () else .error .malformed

mutual

/-- Checks a value that is set aside. -/
def setAside (depth : Nat) : Value → Except Problem Unit
  | .null | .boolean _ => .ok ()
  | .number lexeme =>
      if (Amount.ofLexeme? lexeme).isSome then .ok () else .error .malformed
  | .quote quote => do
      let _ ← quote.read
  | .list items broken => do
      checkNesting depth
      setItemsAside (depth + 1) items
      checkClosed broken
  | .map members broken => do
      checkNesting depth
      setMembersAside (depth + 1) members
      checkClosed broken
  | .brokenNumber broken | .brokenWord broken | .hole broken => .error broken.problem

/-- Checks the items of a list that is set aside. -/
def setItemsAside (depth : Nat) : List Value → Except Problem Unit
  | [] => .ok ()
  | item :: items => do
      setAside depth item
      setItemsAside depth items

/-- Checks the members of a map that is set aside. -/
def setMembersAside (depth : Nat) : List (Quote × Value) → Except Problem Unit
  | [] => .ok ()
  | (key, value) :: members => do
      let _ ← key.read
      setAside depth value
      setMembersAside depth members

end

/-- Reads a whole document.  Nothing may stand after its value. -/
def readDocument {α : Type} (reader : Reader α) (text : String) : Except Problem α := do
  let source := Source.ofText text
  let value ← reader 0 source.root
  if source.trailing then throw .malformed
  return value

end Mainboard.Document
