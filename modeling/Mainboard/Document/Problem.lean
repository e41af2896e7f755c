import Mainboard.Text.Quoted

/-!
# What can be wrong with a document

A document is read once, from left to right, and the first problem ends the
reading.  The text may end too early, it may break the grammar, or it may hold
well-formed text that the reader of a field has no use for.
-/

namespace Mainboard.Document

/-- What stands in a document where something else was expected. -/
inductive Found
  | null
  | boolean (value : Bool)
  | integer (value : Int)
  | floating
  | text (value : String)
  | sequence
  | map

def Found.toText : Found → String
  | null => "null"
  | boolean value => "boolean `" ++ (if value then "true" else "false") ++ "`"
  | integer value => "integer `" ++ toString value ++ "`"
  | floating => "floating point"
  | text value => "string " ++ Text.quoted value
  | sequence => "sequence"
  | map => "map"

/-- Well-formed text that a reader refuses. -/
inductive Mismatch
  /-- Another kind of value than the reader takes. -/
  | wrongType (found : Found) (expected : String)
  /-- A value of the right kind outside the reader's bounds. -/
  | wrongValue (found : Found) (expected : String)
  /-- A name that stands for nothing. -/
  | unknownName (name : String) (accepted : List String)
  /-- A field without a default that is not given. -/
  | missingField (field : String)
  /-- A field given twice. -/
  | duplicateField (field : String)
  /-- A list of fields that ends before the last required one. -/
  | wrongLength (count : Nat) (record : String) (fields : Nat)
  /-- An amount whose text cannot be read. -/
  | unreadable (noun : String) (text : String)
  /-- A whole number that no amount has. -/
  | outOfRange (value : Nat)
  /-- A whole number below zero for an amount. -/
  | negative

/-- The names a reader accepts, as a message lists them. -/
def acceptedText : List String → String
  | [first, second] => "expected `" ++ first ++ "` or `" ++ second ++ "`"
  | names => "expected one of " ++ ", ".intercalate (names.map fun name => "`" ++ name ++ "`")

def Mismatch.message : Mismatch → String
  | wrongType found expected => "invalid type: " ++ found.toText ++ ", expected " ++ expected
  | wrongValue found expected => "invalid value: " ++ found.toText ++ ", expected " ++ expected
  | unknownName name accepted => "unknown variant `" ++ name ++ "`, " ++ acceptedText accepted
  | missingField field => "missing field `" ++ field ++ "`"
  | duplicateField field => "duplicate field `" ++ field ++ "`"
  | wrongLength count record fields =>
      "invalid length " ++ toString count ++ ", expected struct " ++ record ++ " with " ++
        toString fields ++ (if fields = 1 then " element" else " elements")
  | unreadable noun text => "invalid " ++ noun ++ " `" ++ text ++ "`"
  | outOfRange value => toString value ++ " is out of range"
  | negative => "negative values are not allowed"

/-- The first problem met in a document. -/
inductive Problem
  /-- The text breaks the grammar. -/
  | malformed
  /-- The text ends too early. -/
  | ended
  /-- The text is well formed so far and its content is refused. -/
  | refused (mismatch : Mismatch)

end Mainboard.Document
