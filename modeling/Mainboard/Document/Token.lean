import Mainboard.Document.Problem

/-!
# Tokens of a document

The characters of a document are grouped into tokens in one pass.  White space
between tokens is dropped.  Text that fits no token ends the tokens with one
that says what is wrong there: such a token becomes a problem only when the
reader gets to it.
-/

namespace Mainboard.Document

/-- How a text breaks off: it ends too early, or a character does not fit. -/
inductive Break
  | malformed
  | ended
  deriving DecidableEq

def Break.problem : Break → Problem
  | malformed => .malformed
  | ended => .ended

/-- A piece of quoted text: a character, or a 16-bit unit written by its number. -/
inductive Piece
  | character (value : Char)
  | unit (number : Nat)
  deriving DecidableEq

/-- Quoted text in pieces, and how it breaks off if it is not closed. -/
structure Quote where
  pieces : List Piece
  broken : Option Break := none
  deriving DecidableEq

def Quote.missing (broken : Break) : Quote := ⟨[], some broken⟩

/-- The tokens. -/
inductive Token
  | openBrace
  | closeBrace
  | openBracket
  | closeBracket
  | colon
  | comma
  | null
  | boolean (value : Bool)
  | number (lexeme : List Char)
  | quote (quote : Quote)
  /-- The first letters of a word, and not the rest. -/
  | brokenWord (broken : Break)
  /-- The first characters of a number that does not end as one. -/
  | brokenNumber (broken : Break)
  /-- A character that starts no token. -/
  | junk
  deriving DecidableEq

/-- Where a number stands after some of its characters. -/
inductive Stage
  | sign
  | zero
  | whole
  | point
  | fraction
  | mark
  | exponentSign
  | exponent
  deriving DecidableEq

namespace Stage

def isComplete : Stage → Bool
  | zero | whole | fraction | exponent => true
  | sign | point | mark | exponentSign => false

/-- The stage after one more character of the number; none if the character
belongs to no number that goes on from here. -/
def next? (stage : Stage) (character : Char) : Option Stage :=
  let isMark := character = 'e' || character = 'E'
  let isSign := character = '+' || character = '-'
  match stage with
  | sign =>
      if character = '0' then some zero else if character.isDigit then some whole else none
  | zero => if character = '.' then some point else if isMark then some mark else none
  | whole =>
      if character.isDigit then some whole
      else if character = '.' then some point
      else if isMark then some mark
      else none
  | point => if character.isDigit then some fraction else none
  | fraction =>
      if character.isDigit then some fraction else if isMark then some mark else none
  | mark =>
      if character.isDigit then some exponent else if isSign then some exponentSign else none
  | exponentSign | exponent => if character.isDigit then some exponent else none

/-- Whether a number breaks off at a character that does not continue it: it
is not complete, or a digit follows a leading zero. -/
def breaksAt (stage : Stage) (character : Char) : Bool :=
  !stage.isComplete || (stage == zero && character.isDigit)

end Stage

/-- Where the scan stands.  What was read of the current token is kept in reverse. -/
inductive Mode
  | between
  | word (missing : List Char) (token : Token)
  | number (stage : Stage) (lexeme : List Char)
  | quote (pieces : List Piece)
  | escape (pieces : List Piece)
  /-- In a number of four hexadecimal digits, of which some bytes are read;
  its value so far, unless a character was no such digit. -/
  | unit (pieces : List Piece) (bytes : Nat) (value : Option Nat)
  | stopped

/-- A scan: the tokens found, in reverse, and where it stands. -/
structure Scan where
  tokens : List Token := []
  mode : Mode := .between

def isSpace (character : Char) : Bool :=
  character = ' ' || character = '\n' || character = '\r' || character = '\t'

def hexDigit? (character : Char) : Option Nat :=
  if character.isDigit then some (character.toNat - '0'.toNat)
  else if 'a' ≤ character ∧ character ≤ 'f' then some (character.toNat - 'a'.toNat + 10)
  else if 'A' ≤ character ∧ character ≤ 'F' then some (character.toNat - 'A'.toNat + 10)
  else none

/-- The character that stands behind a backslash, for those that are not numbers. -/
def escaped? (character : Char) : Option Char :=
  if character = '"' ∨ character = '\\' ∨ character = '/' then some character
  else if character = 'b' then some '\x08'
  else if character = 'f' then some '\x0c'
  else if character = 'n' then some '\n'
  else if character = 'r' then some '\r'
  else if character = 't' then some '\t'
  else none

namespace Scan

def emit (scan : Scan) (token : Token) : Scan := ⟨token :: scan.tokens, .between⟩

def stop (scan : Scan) (token : Token) : Scan := ⟨token :: scan.tokens, .stopped⟩

/-- The character that starts a token, or stands between two. -/
def start (scan : Scan) (character : Char) : Scan :=
  if isSpace character then { scan with mode := .between }
  else if character = '\x7b' then scan.emit .openBrace
  else if character = '\x7d' then scan.emit .closeBrace
  else if character = '[' then scan.emit .openBracket
  else if character = ']' then scan.emit .closeBracket
  else if character = ':' then scan.emit .colon
  else if character = ',' then scan.emit .comma
  else if character = '"' then { scan with mode := .quote [] }
  else if character = '-' then { scan with mode := .number .sign [character] }
  else if character = '0' then { scan with mode := .number .zero [character] }
  else if character.isDigit then { scan with mode := .number .whole [character] }
  else if character = 'n' then { scan with mode := .word "ull".toList .null }
  else if character = 't' then { scan with mode := .word "rue".toList (.boolean true) }
  else if character = 'f' then { scan with mode := .word "alse".toList (.boolean false) }
  else scan.stop .junk

def inQuote (scan : Scan) (pieces : List Piece) (character : Char) : Scan :=
  if character = '"' then scan.emit (.quote ⟨pieces.reverse, none⟩)
  else if character = '\\' then { scan with mode := .escape pieces }
  else if character.toNat < 0x20 then scan.stop (.quote ⟨pieces.reverse, some .malformed⟩)
  else { scan with mode := .quote (.character character :: pieces) }

/-- The character after a backslash. -/
def inEscape (scan : Scan) (pieces : List Piece) (character : Char) : Scan :=
  if character = 'u' then { scan with mode := .unit pieces 0 (some 0) }
  else
    match escaped? character with
    | some value => { scan with mode := .quote (.character value :: pieces) }
    | none => scan.stop (.quote ⟨pieces.reverse, some .malformed⟩)

/-- One character of a number of four hexadecimal digits.  Four bytes are
taken before they are looked at. -/
def inUnit (scan : Scan) (pieces : List Piece) (bytes : Nat) (value : Option Nat)
    (character : Char) : Scan :=
  let read := bytes + character.utf8Size
  let value := value.bind fun high => (hexDigit? character).map fun low => 16 * high + low
  if read < 4 then { scan with mode := .unit pieces read value }
  else
    match value with
    | some number => { scan with mode := .quote (.unit number :: pieces) }
    | none => scan.stop (.quote ⟨pieces.reverse, some .malformed⟩)

/-- One character of a number, or the one after it. -/
def inNumber (scan : Scan) (stage : Stage) (lexeme : List Char) (character : Char) : Scan :=
  match stage.next? character with
  | some next => { scan with mode := .number next (character :: lexeme) }
  | none =>
      if stage.breaksAt character then scan.stop (.brokenNumber .malformed)
      else (scan.emit (.number lexeme.reverse)).start character

def step (scan : Scan) (character : Char) : Scan :=
  match scan.mode with
  | .between => scan.start character
  | .word [] token => (scan.emit token).start character
  | .word (letter :: missing) token =>
      if character = letter then
        if missing.isEmpty then scan.emit token
        else { scan with mode := .word missing token }
      else scan.stop (.brokenWord .malformed)
  | .number stage lexeme => scan.inNumber stage lexeme character
  | .quote pieces => scan.inQuote pieces character
  | .escape pieces => scan.inEscape pieces character
  | .unit pieces bytes value => scan.inUnit pieces bytes value character
  | .stopped => scan

theorem step_of_isSpace (found : List Token) {character : Char} (space : isSpace character) :
    step ⟨found, .between⟩ character = ⟨found, .between⟩ := by
  simp [step, start, space]

def finish (scan : Scan) : List Token :=
  match scan.mode with
  | .between | .stopped => scan.tokens.reverse
  | .word .. => (scan.stop (.brokenWord .ended)).tokens.reverse
  | .number stage lexeme =>
      if stage.isComplete then (scan.emit (.number lexeme.reverse)).tokens.reverse
      else (scan.stop (.brokenNumber .ended)).tokens.reverse
  | .quote pieces | .escape pieces | .unit pieces _ _ =>
      (scan.stop (.quote ⟨pieces.reverse, some .ended⟩)).tokens.reverse

end Scan

def tokens (characters : List Char) : List Token :=
  (characters.foldl Scan.step {}).finish

end Mainboard.Document
