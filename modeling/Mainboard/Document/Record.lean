import Mainboard.Document.Reader

/-!
# Reading records

A record starts as its default and each field that a document gives replaces
one part of it.  A record is written as a map, whose unknown members are
skipped, or as the list of its fields in order, of which the last ones may be
left out if they have defaults.
-/

namespace Mainboard.Document

/-- A field of a record: how it is read and what it replaces. -/
structure RecordField (α : Type) where
  name : String
  required : Bool
  read : Nat → Value → Except Problem (α → α)

def RecordField.optional {α β : Type} (name : String) (reader : Reader β) (set : β → α → α) :
    RecordField α :=
  ⟨name, false, fun depth value => (reader depth value).map set⟩

def RecordField.mandatory {α β : Type} (name : String) (reader : Reader β) (set : β → α → α) :
    RecordField α :=
  ⟨name, true, fun depth value => (reader depth value).map set⟩

/-- A record: its name, its default and its fields in order. -/
structure Record (α : Type) where
  name : String
  default : α
  fields : List (RecordField α)

/-- A record so far: the fields that were given and the value they make. -/
structure Partial (α : Type) where
  given : List String
  value : α

namespace Partial

variable {α : Type}

/-- Reads a field, which may be given once. -/
def take (record : Partial α) (depth : Nat) (field : RecordField α) (value : Value) :
    Except Problem (Partial α) :=
  if record.given.contains field.name then
    .error (.refused (.duplicateField field.name))
  else
    (field.read depth value).map fun set => ⟨field.name :: record.given, set record.value⟩

/-- The value, if every field without a default was given. -/
def complete (record : Partial α) (fields : List (RecordField α)) : Except Problem α :=
  match fields.find? fun field => field.required && !record.given.contains field.name with
  | some field => .error (.refused (.missingField field.name))
  | none => .ok record.value

end Partial

/-- Reads members, skipping those that are no fields. -/
def readMembers {α : Type} (fields : List (RecordField α)) (depth : Nat) :
    Partial α → List (Quote × Value) → Except Problem (Partial α)
  | record, [] => .ok record
  | record, (key, value) :: members => do
      let name ← key.read
      match fields.find? (·.name = name) with
      | some field => readMembers fields depth (← record.take depth field value) members
      | none => do
          skip value
          readMembers fields depth record members

def readPositional {α : Type} (name : String) (total depth : Nat) (broken : Option Break) :
    List (RecordField α) → List Value → α → Except Problem α
  | [], [], value => do
      checkClosed broken
      return value
  | [], _ :: _, _ => .error .malformed
  | field :: fields, [], value => do
      checkClosed broken
      if field.required then
        throw (.refused (.wrongLength (total - (fields.length + 1)) name total))
      readPositional name total depth broken fields [] value
  | field :: fields, item :: items, value => do
      let set ← field.read depth item
      readPositional name total depth broken fields items (set value)

def Record.expected {α : Type} (record : Record α) : String := "struct " ++ record.name

def readRecord {α : Type} (record : Record α) : Reader α
  | depth, .list items broken =>
      readPositional record.name record.fields.length (depth + 1) broken record.fields items
        record.default
  | depth, .map members broken => do
      let given ← readMembers record.fields (depth + 1) ⟨[], record.default⟩ members
      checkClosed broken
      given.complete record.fields
  | _, value => .error (wrongType record.expected value)

/-- Reads members of a record with an inner record.  Members that are no
fields of the outer one are set aside, in order. -/
def readOuterMembers {α : Type} (fields : List (RecordField α)) (depth : Nat) :
    Partial α → List (Quote × Value) → List (Quote × Value) →
      Except Problem (Partial α × List (Quote × Value))
  | record, aside, [] => .ok (record, aside.reverse)
  | record, aside, (key, value) :: members => do
      let name ← key.read
      match fields.find? (·.name = name) with
      | some field =>
          readOuterMembers fields depth (← record.take depth field value) aside members
      | none => do
          setAside depth value
          readOuterMembers fields depth record ((key, value) :: aside) members

/-- Reads a record whose inner fields stand among its own.  It is written as a
map; the inner fields are read once the map is closed. -/
def readNested {α : Type} (record : Record α) (inner : List (RecordField α)) : Reader α
  | depth, .map members broken => do
      let (given, aside) ←
        readOuterMembers record.fields (depth + 1) ⟨[], record.default⟩ [] members
      checkClosed broken
      let value ← given.complete record.fields
      let all ← readMembers inner (depth + 1) ⟨[], value⟩ aside
      all.complete inner
  | _, value => .error (wrongType record.expected value)

end Mainboard.Document
