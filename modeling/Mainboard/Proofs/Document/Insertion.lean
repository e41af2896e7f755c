import Mainboard.Proofs.Document.Regularity

/-!
# Documents with members that name no field

A record skips a member that names none of its fields, whatever its value, as long
as the value is whole.  A record with an inner one keeps the member aside at first,
and for that its texts have to be texts, its numbers not too large, and not too many
lists and maps open around them.
-/

namespace Mainboard.Document

/-- A member that names no field is put into a map from which a reader reads a record, wherever
this is in what it reads. -/
inductive Inserts : {β : Type} → Reader β → Nat → Value → Value → Prop
  | member {α : Type} {whole : Record α} {depth : Nat} {before after : List (Quote × Value)}
      {broken : Option Break} {key : Quote} {name : String} {value : Value}
      (named : key.read = .ok name) (unknown : ∀ field ∈ whole.fields, field.name ≠ name)
      (isWhole : value.IsWhole) :
      Inserts (readRecord whole) depth (.map (before ++ after) broken)
        (.map (before ++ (key, value) :: after) broken)
  | nested {α : Type} {whole : Record α} {fields : List (RecordField α)} {depth : Nat}
      {before after : List (Quote × Value)} {broken : Option Break} {key : Quote} {name : String}
      {value : Value} (named : key.read = .ok name)
      (unknown : ∀ field ∈ whole.fields ++ fields, field.name ≠ name)
      (isSmall : value.IsSmall (nestingLimit - (depth + 1))) :
      Inserts (readNested whole fields) depth (.map (before ++ after) broken)
        (.map (before ++ (key, value) :: after) broken)
  | inField {α : Type} {whole : Record α} {field : RecordField α} {depth : Nat}
      {before after : List (Quote × Value)} {broken : Option Break} {key : Quote} {name : String}
      {value other : Value} (named : key.read = .ok name)
      (found : whole.fields.find? (·.name = name) = some field)
      (inner : Inserts field.read (depth + 1) value other) :
      Inserts (readRecord whole) depth (.map (before ++ (key, value) :: after) broken)
        (.map (before ++ (key, other) :: after) broken)
  | inPlace {α : Type} {whole : Record α} {field : RecordField α} {depth : Nat}
      {before after : List Value} {broken : Option Break} {item other : Value}
      (placed : whole.fields[before.length]? = some field)
      (inner : Inserts field.read (depth + 1) item other) :
      Inserts (readRecord whole) depth (.list (before ++ item :: after) broken)
        (.list (before ++ other :: after) broken)
  | inItem {β : Type} {reader : Reader β} {depth : Nat} {before after : List Value}
      {broken : Option Break} {item other : Value} (inner : Inserts reader (depth + 1) item other) :
      Inserts (readList reader) depth (.list (before ++ item :: after) broken)
        (.list (before ++ other :: after) broken)
  | inOptional {β : Type} {reader : Reader β} {depth : Nat} {value other : Value}
      (inner : Inserts reader depth value other) : Inserts (readOptional reader) depth value other
  | mapped {β γ : Type} {reader : Reader β} {depth : Nat} {value other : Value} (change : β → γ)
      (inner : Inserts reader depth value other) :
      Inserts (fun depth value => (reader depth value).map change) depth value other

section Members

variable {α : Type} {fields : List (RecordField α)} {depth : Nat} {check : Value → Prop}
variable {record final : Partial α} {before after aside : List (Quote × Value)} {key : Quote}
variable {name : String} {value : Value}

/-- A member that names no field is put aside. -/
theorem Takes.insert (named : key.read = .ok name)
    (unknown : ∀ field ∈ fields, field.name ≠ name) (checked : check value)
    (takes : Takes fields depth check record (before ++ after) final aside) :
    ∃ front back, aside = front ++ back ∧ Takes fields depth check record
      (before ++ (key, value) :: after) final (front ++ (key, value) :: back) := by
  have stranger : fields.find? (·.name = name) = none := by
    simpa using unknown
  induction before generalizing record aside with
  | nil => exact ⟨[], aside, rfl, .other named stranger checked takes⟩
  | cons member before ih =>
      cases takes with
      | field namedToo found fresh read later =>
          obtain ⟨front, back, rfl, takes⟩ := ih later
          exact ⟨front, back, rfl, .field namedToo found fresh read takes⟩
      | other namedToo unknownToo checkedToo later =>
          obtain ⟨front, back, rfl, takes⟩ := ih later
          exact ⟨_ :: front, back, rfl, .other namedToo unknownToo checkedToo takes⟩

end Members

theorem Inserts.ne_null {β : Type} {reader : Reader β} {depth : Nat} {value other : Value}
    (inserts : Inserts reader depth value other) : value ≠ .null ∧ other ≠ .null := by
  induction inserts with
  | inOptional inner ih => exact ih
  | mapped change inner ih => exact ih
  | _ => simp

/-- Members that name no field change nothing. -/
theorem Inserts.reads {β : Type} {reader : Reader β} {depth : Nat} {value other : Value}
    {result : β} (inserts : Inserts reader depth value other)
    (reads : Reads reader depth value result) : Reads reader depth other result := by
  induction inserts with
  | member named unknown isWhole =>
      obtain ⟨closed, final, aside, takes, every, rfl⟩ := readRecord_map_eq_ok_iff.mp reads
      obtain ⟨front, back, -, inserted⟩ := takes.insert named unknown isWhole
      exact readRecord_map_eq_ok_iff.mpr ⟨closed, final, _, inserted, every, rfl⟩
  | nested named unknown isSmall =>
      obtain ⟨unknown, unknownToo⟩ := List.forall_mem_append.mp unknown
      obtain ⟨members, given, aside, final, others, equal, takes, every, inner, everyToo, rfl⟩ :=
        readNested_eq_ok_iff.mp reads
      obtain ⟨rfl, rfl⟩ := Value.map.inj equal
      obtain ⟨front, back, rfl, inserted⟩ := takes.insert named unknown isSmall
      obtain ⟨left, right, -, insertedToo⟩ := inner.insert named unknownToo isSmall.isWhole
      exact readNested_eq_ok_iff.mpr
        ⟨_, given, _, final, _, rfl, inserted, every, insertedToo, everyToo, rfl⟩
  | @inField α whole field depth before after broken key name value other named found inner ih =>
      obtain ⟨closed, final, aside, takes, every, rfl⟩ := readRecord_map_eq_ok_iff.mp reads
      have alike : ∀ second, whole.fields.find? (·.name = second.name) = some second →
          key.read = .ok second.name → ∀ set, second.read (depth + 1) value = .ok set →
            second.read (depth + 1) other = .ok set := by
        intro second foundToo namedToo set read
        have same := Except.ok.inj (named.symm.trans namedToo)
        rw [← same, found] at foundToo
        obtain rfl := Option.some.inj foundToo
        exact ih read
      have known : ∀ name, key.read = .ok name → whole.fields.find? (·.name = name) = none →
          value.IsWhole → other.IsWhole := by
        intro name namedToo unknown
        rw [← Except.ok.inj (named.symm.trans namedToo), found] at unknown
        cases unknown
      obtain ⟨left, replaced, -⟩ := takes.replace alike known
      exact readRecord_map_eq_ok_iff.mpr ⟨closed, final, left, replaced, every, rfl⟩
  | inPlace placed inner ih =>
      obtain ⟨closed, fills⟩ := readPositional_eq_ok_iff.mp reads
      refine readPositional_eq_ok_iff.mpr
        ⟨closed, fills.replace fun second placedToo set read => ?_⟩
      obtain rfl := Option.some.inj (placed.symm.trans placedToo)
      exact ih read
  | inItem inner ih =>
      obtain ⟨items, equal, each⟩ := readList_eq_ok_iff.mp reads
      obtain ⟨rfl, rfl⟩ := Value.list.inj equal
      exact readList_eq_ok_iff.mpr ⟨_, rfl, forall₂_replace each fun result => ih⟩
  | inOptional inner ih =>
      rw [reads_readOptional_iff inner.ne_null.1] at reads
      obtain ⟨origin, read, rfl⟩ := Except.map_eq_ok_iff.mp reads
      exact (reads_readOptional_iff inner.ne_null.2).mpr
        (Except.map_eq_ok_iff.mpr ⟨origin, ih read, rfl⟩)
  | mapped change inner ih =>
      obtain ⟨origin, read, rfl⟩ := Except.map_eq_ok_iff.mp reads
      exact Except.map_eq_ok_iff.mpr ⟨origin, ih read, rfl⟩

end Mainboard.Document
