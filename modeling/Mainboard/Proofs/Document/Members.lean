import Mainboard.Document.Record
import Mainboard.Proofs.Document.Whole

/-!
# What reading a record does

The members of a map are taken into a record one by one: one that names a field
sets it, and one that names none is put aside.  The items of a list are taken by
the order of the fields.  These two relations say all that the readers of records
do when they succeed.
-/

namespace Mainboard.Document

variable {α : Type}

/-- Members are taken into a record: those that name a field set it, and the others, which pass a
check, are put aside. -/
inductive Takes (fields : List (RecordField α)) (depth : Nat) (check : Value → Prop) :
    Partial α → List (Quote × Value) → Partial α → List (Quote × Value) → Prop
  | nil {record : Partial α} : Takes fields depth check record [] record []
  | field {record final : Partial α} {members aside : List (Quote × Value)} {key : Quote}
      {value : Value} {field : RecordField α} {set : α → α} (named : key.read = .ok field.name)
      (found : fields.find? (·.name = field.name) = some field)
      (fresh : field.name ∉ record.given) (read : field.read depth value = .ok set)
      (later : Takes fields depth check ⟨field.name :: record.given, set record.value⟩ members
        final aside) :
      Takes fields depth check record ((key, value) :: members) final aside
  | other {record final : Partial α} {members aside : List (Quote × Value)} {key : Quote}
      {value : Value} {name : String} (named : key.read = .ok name)
      (unknown : fields.find? (·.name = name) = none) (checked : check value)
      (later : Takes fields depth check record members final aside) :
      Takes fields depth check record ((key, value) :: members) final ((key, value) :: aside)

/-- Items are taken into a record, one for each field until they end, when no field is required
any more. -/
inductive Fills (depth : Nat) : List (RecordField α) → List Value → α → α → Prop
  | done {value : α} : Fills depth [] [] value value
  | absent {field : RecordField α} {fields : List (RecordField α)} {value result : α}
      (optional : field.required = false) (later : Fills depth fields [] value result) :
      Fills depth (field :: fields) [] value result
  | item {field : RecordField α} {fields : List (RecordField α)} {item : Value}
      {items : List Value} {set : α → α} {value result : α}
      (read : field.read depth item = .ok set)
      (later : Fills depth fields items (set value) result) :
      Fills depth (field :: fields) (item :: items) value result

section Bridges

variable {fields : List (RecordField α)} {depth : Nat} {record final : Partial α}

theorem Partial.take_eq_ok_iff {field : RecordField α} {value : Value} {next : Partial α} :
    record.take depth field value = .ok next ↔ field.name ∉ record.given ∧
      ∃ set, field.read depth value = .ok set ∧
        next = ⟨field.name :: record.given, set record.value⟩ := by
  rw [take]
  split
  next taken =>
    simp only [reduceCtorEq, false_iff, not_and]
    exact fun fresh => absurd (by simpa using taken) fresh
  next fresh =>
    rw [Except.map_eq_ok_iff]
    simp only [List.contains_iff_mem] at fresh
    simp only [fresh, not_false_eq_true, true_and, eq_comm]

theorem name_of_find? {name : String} {field : RecordField α}
    (found : fields.find? (·.name = name) = some field) : field.name = name := by
  simpa using List.find?_some found

theorem readMembers_eq_ok_iff {members : List (Quote × Value)} :
    readMembers fields depth record members = .ok final ↔
      ∃ aside, Takes fields depth Value.IsWhole record members final aside := by
  induction members generalizing record with
  | nil =>
      rw [readMembers, Except.ok.injEq]
      constructor
      · rintro rfl
        exact ⟨[], .nil⟩
      · rintro ⟨aside, taken⟩
        cases taken
        rfl
  | cons member members ih =>
      obtain ⟨key, value⟩ := member
      rw [readMembers, Except.bind_eq_ok_iff]
      constructor
      · rintro ⟨name, named, rest⟩
        split at rest
        next field found =>
          obtain rfl := name_of_find? found
          obtain ⟨next, taken, later⟩ := Except.bind_eq_ok_iff.mp rest
          obtain ⟨fresh, set, read, rfl⟩ := Partial.take_eq_ok_iff.mp taken
          obtain ⟨aside, taken⟩ := ih.mp later
          exact ⟨aside, .field named found fresh read taken⟩
        next unknown =>
          obtain ⟨checked, later⟩ := Except.andThen_eq_ok_iff.mp rest
          obtain ⟨aside, taken⟩ := ih.mp later
          exact ⟨_, .other named unknown (skip_eq_ok_iff.mp checked) taken⟩
      · rintro ⟨aside, taken⟩
        cases taken with
        | @field _ _ _ _ _ _ field _ named found fresh read later =>
            refine ⟨field.name, named, ?_⟩
            rw [found]
            exact Except.bind_eq_ok_iff.mpr ⟨_, Partial.take_eq_ok_iff.mpr ⟨fresh, _, read, rfl⟩,
              ih.mpr ⟨aside, later⟩⟩
        | @other _ _ _ _ _ _ name named unknown checked later =>
            refine ⟨name, named, ?_⟩
            rw [unknown]
            exact Except.andThen_eq_ok_iff.mpr ⟨skip_eq_ok_iff.mpr checked, ih.mpr ⟨_, later⟩⟩

theorem readOuterMembers_eq_ok_iff {members before all : List (Quote × Value)} :
    readOuterMembers fields depth record before members = .ok (final, all) ↔
      ∃ aside, Takes fields depth (Value.IsSmall (nestingLimit - depth)) record members final
          aside ∧ all = before.reverse ++ aside := by
  induction members generalizing record before with
  | nil =>
      rw [readOuterMembers, Except.ok.injEq, Prod.mk.injEq]
      constructor
      · rintro ⟨rfl, rfl⟩
        exact ⟨[], .nil, (List.append_nil _).symm⟩
      · rintro ⟨aside, taken, rfl⟩
        cases taken
        exact ⟨rfl, (List.append_nil _).symm⟩
  | cons member members ih =>
      obtain ⟨key, value⟩ := member
      rw [readOuterMembers, Except.bind_eq_ok_iff]
      constructor
      · rintro ⟨name, named, rest⟩
        split at rest
        next field found =>
          obtain rfl := name_of_find? found
          obtain ⟨next, taken, later⟩ := Except.bind_eq_ok_iff.mp rest
          obtain ⟨fresh, set, read, rfl⟩ := Partial.take_eq_ok_iff.mp taken
          obtain ⟨aside, taken, rfl⟩ := ih.mp later
          exact ⟨aside, .field named found fresh read taken, rfl⟩
        next unknown =>
          obtain ⟨checked, later⟩ := Except.andThen_eq_ok_iff.mp rest
          obtain ⟨aside, taken, rfl⟩ := ih.mp later
          refine ⟨_, .other named unknown (setAside_eq_ok_iff.mp checked) taken, ?_⟩
          rw [List.reverse_cons, List.append_assoc]
          rfl
      · rintro ⟨aside, taken, rfl⟩
        cases taken with
        | @field _ _ _ _ _ _ field _ named found fresh read later =>
            refine ⟨field.name, named, ?_⟩
            rw [found]
            exact Except.bind_eq_ok_iff.mpr ⟨_, Partial.take_eq_ok_iff.mpr ⟨fresh, _, read, rfl⟩,
              ih.mpr ⟨aside, later, rfl⟩⟩
        | @other _ _ _ aside _ _ name named unknown checked later =>
            refine ⟨name, named, ?_⟩
            rw [unknown]
            refine Except.andThen_eq_ok_iff.mpr
              ⟨setAside_eq_ok_iff.mpr checked, ih.mpr ⟨aside, later, ?_⟩⟩
            rw [List.reverse_cons, List.append_assoc]
            rfl

theorem Partial.complete_eq_ok_iff {value : α} : record.complete fields = .ok value ↔
    (∀ field ∈ fields, field.required → field.name ∈ record.given) ∧ record.value = value := by
  rw [complete]
  split
  next field found =>
    refine iff_of_false (by simp) ?_
    rintro ⟨every, -⟩
    have missing := List.find?_some found
    simp only [Bool.and_eq_true, Bool.not_eq_true', List.contains_eq_mem,
      decide_eq_false_iff_not] at missing
    exact missing.2 (every field (List.mem_of_find?_eq_some found) missing.1)
  next none =>
    rw [Except.ok.injEq, iff_and_self]
    intro _ field member required
    have given := List.find?_eq_none.mp none field member
    simpa [required] using given

theorem readPositional_eq_ok_iff {name : String} {total : Nat} {broken : Option Break}
    {items : List Value} {value result : α} :
    readPositional name total depth broken fields items value = .ok result ↔
      broken = none ∧ Fills depth fields items value result := by
  induction fields generalizing items value with
  | nil =>
      cases items with
      | nil =>
          rw [readPositional, Except.andThen_eq_ok_iff, checkClosed_eq_ok_iff]
          refine and_congr_right fun _ => ⟨fun done => ?_, fun filled => ?_⟩
          · obtain rfl := Except.ok.inj done
            exact .done
          · cases filled
            rfl
      | cons item items =>
          refine iff_of_false (by simp [readPositional]) ?_
          rintro ⟨-, filled⟩
          cases filled
  | cons field fields ih =>
      cases items with
      | nil =>
          rw [readPositional, Except.andThen_eq_ok_iff, checkClosed_eq_ok_iff]
          refine and_congr_right fun closed => ⟨fun rest => ?_, fun filled => ?_⟩
          · split at rest
            next required => cases rest
            next optional =>
              exact .absent (Bool.eq_false_iff.mpr optional) (ih.mp rest).2
          · cases filled with
            | absent optional later =>
                rw [optional]
                exact ih.mpr ⟨closed, later⟩
      | cons item items =>
          rw [readPositional, Except.bind_eq_ok_iff]
          constructor
          · rintro ⟨set, read, rest⟩
            obtain ⟨closed, filled⟩ := ih.mp rest
            exact ⟨closed, .item read filled⟩
          · rintro ⟨closed, filled⟩
            cases filled with
            | item read later => exact ⟨_, read, ih.mpr ⟨closed, later⟩⟩

variable {whole : Record α} {inner : List (RecordField α)} {members : List (Quote × Value)}
variable {broken : Option Break} {result : α}

theorem readRecord_map_eq_ok_iff :
    readRecord whole depth (.map members broken) = .ok result ↔ broken = none ∧
      ∃ final aside, Takes whole.fields (depth + 1) Value.IsWhole ⟨[], whole.default⟩ members final
          aside ∧
        (∀ field ∈ whole.fields, field.required → field.name ∈ final.given) ∧
        final.value = result := by
  rw [readRecord, Except.bind_eq_ok_iff]
  constructor
  · rintro ⟨final, taken, rest⟩
    obtain ⟨closed, completed⟩ := Except.andThen_eq_ok_iff.mp rest
    obtain ⟨aside, takes⟩ := readMembers_eq_ok_iff.mp taken
    exact ⟨checkClosed_eq_ok_iff.mp closed, final, aside, takes,
      Partial.complete_eq_ok_iff.mp completed⟩
  · rintro ⟨rfl, final, aside, takes, completed⟩
    exact ⟨final, readMembers_eq_ok_iff.mpr ⟨aside, takes⟩,
      Partial.complete_eq_ok_iff.mpr completed⟩

theorem readNested_eq_ok_iff {document : Value} :
    readNested whole inner depth document = .ok result ↔
      ∃ members given aside final others, document = .map members none ∧
        Takes whole.fields (depth + 1) (Value.IsSmall (nestingLimit - (depth + 1)))
          ⟨[], whole.default⟩ members given aside ∧
        (∀ field ∈ whole.fields, field.required → field.name ∈ given.given) ∧
        Takes inner (depth + 1) Value.IsWhole ⟨[], given.value⟩ aside final others ∧
        (∀ field ∈ inner, field.required → field.name ∈ final.given) ∧ final.value = result := by
  constructor
  · intro read
    cases document with
    | map members broken =>
        obtain ⟨⟨given, aside⟩, taken, rest⟩ := Except.bind_eq_ok_iff.mp read
        obtain ⟨closed, rest⟩ := Except.andThen_eq_ok_iff.mp rest
        obtain ⟨value, completed, rest⟩ := Except.bind_eq_ok_iff.mp rest
        obtain ⟨final, inside, finished⟩ := Except.bind_eq_ok_iff.mp rest
        obtain ⟨_, takes, rfl⟩ := readOuterMembers_eq_ok_iff.mp taken
        obtain ⟨every, rfl⟩ := Partial.complete_eq_ok_iff.mp completed
        obtain ⟨others, takesInner⟩ := readMembers_eq_ok_iff.mp inside
        obtain rfl := checkClosed_eq_ok_iff.mp closed
        exact ⟨members, given, aside, final, others, rfl, takes, every, takesInner,
          Partial.complete_eq_ok_iff.mp finished⟩
    | _ => cases read
  · rintro ⟨members, given, aside, final, others, rfl, takes, every, takesInner, finished⟩
    refine Except.bind_eq_ok_iff.mpr
      ⟨(given, aside), readOuterMembers_eq_ok_iff.mpr ⟨aside, takes, rfl⟩, ?_⟩
    refine Except.bind_eq_ok_iff.mpr ⟨(), rfl, ?_⟩
    refine Except.bind_eq_ok_iff.mpr
      ⟨given.value, Partial.complete_eq_ok_iff.mpr ⟨every, rfl⟩, ?_⟩
    exact Except.bind_eq_ok_iff.mpr ⟨final, readMembers_eq_ok_iff.mpr ⟨others, takesInner⟩,
      Partial.complete_eq_ok_iff.mpr finished⟩

end Bridges

end Mainboard.Document
