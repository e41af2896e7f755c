import Mathlib.Data.List.Pairwise
import Mathlib.Data.List.Perm.Basic
import Mainboard.Proofs.Document.Overlays

/-!
# Documents with their members in another order

Fields set different parts of a record, so that it does not matter in which order
they come.  Nor does the order of members matter to whether a value is whole, or
small.
-/

namespace Mainboard.Document

variable {α : Type}

/-- The members of one map, anywhere in a value, in another order. -/
inductive Reorders : Value → Value → Prop
  | here {members others : List (Quote × Value)} {broken : Option Break}
      (perm : members.Perm others) : Reorders (.map members broken) (.map others broken)
  | item {before after : List Value} {item other : Value} {broken : Option Break}
      (inner : Reorders item other) :
      Reorders (.list (before ++ item :: after) broken) (.list (before ++ other :: after) broken)
  | member {before after : List (Quote × Value)} {key : Quote} {value other : Value}
      {broken : Option Break} (inner : Reorders value other) :
      Reorders (.map (before ++ (key, value) :: after) broken)
        (.map (before ++ (key, other) :: after) broken)

/-- A property of all members of a list is kept when one of them keeps it. -/
theorem forall_mem_replace {γ : Type} {before after : List γ} {item other : γ} {holds : γ → Prop}
    (each : ∀ some ∈ before ++ item :: after, holds some) (keeps : holds item → holds other) :
    ∀ some ∈ before ++ other :: after, holds some := by
  rw [List.forall_mem_append, List.forall_mem_cons] at each ⊢
  exact ⟨each.1, keeps each.2.1, each.2.2⟩

theorem Reorders.isWhole {value other : Value} (reorders : Reorders value other)
    (isWhole : value.IsWhole) : other.IsWhole := by
  induction reorders with
  | here perm =>
      cases isWhole with
      | map keys each =>
          exact .map (fun member among => keys member (perm.mem_iff.mpr among))
            fun member among => each member (perm.mem_iff.mpr among)
  | item inner ih =>
      cases isWhole with
      | list each => exact .list (forall_mem_replace each ih)
  | member inner ih =>
      cases isWhole with
      | map keys each => exact .map (forall_mem_replace keys id) (forall_mem_replace each ih)

theorem Reorders.isSmall {room : Nat} {value other : Value} (reorders : Reorders value other)
    (isSmall : value.IsSmall room) : other.IsSmall room := by
  induction reorders generalizing room with
  | here perm =>
      cases isSmall with
      | map keys each =>
          exact .map (fun member among => keys member (perm.mem_iff.mpr among))
            fun member among => each member (perm.mem_iff.mpr among)
  | item inner ih =>
      cases isSmall with
      | list each => exact .list (forall_mem_replace each ih)
  | member inner ih =>
      cases isSmall with
      | map keys each => exact .map (forall_mem_replace keys id) (forall_mem_replace each ih)

namespace RecordField

/-- It does not matter which of two fields is set first. -/
def Commutes (first second : RecordField α) : Prop :=
  ∀ depth value set level other change, first.read depth value = .ok set →
    second.read level other = .ok change → ∀ whole, set (change whole) = change (set whole)

theorem Commutes.symm {first second : RecordField α} (commutes : first.Commutes second) :
    second.Commutes first :=
  fun depth value set level other change read readToo whole =>
    (commutes level other change depth value set readToo read whole).symm

instance : Std.Symm (@RecordField.Commutes α) :=
  ⟨fun _ _ => Commutes.symm⟩

@[simp]
theorem commutes_mk {β γ : Type} {name other : String} {required optional : Bool}
    {reader : Reader β} {second : Reader γ} {set : β → α → α} {change : γ → α → α}
    (independent : ∀ value result whole,
      set value (change result whole) = change result (set value whole)) :
    Commutes ⟨name, required, fun depth value => (reader depth value).map set⟩
      ⟨other, optional, fun depth value => (second depth value).map change⟩ := by
  intro depth value replace level document alter read readToo
  obtain ⟨result, -, rfl⟩ := Except.map_eq_ok_iff.mp read
  obtain ⟨outcome, -, rfl⟩ := Except.map_eq_ok_iff.mp readToo
  exact independent result outcome

end RecordField

/-- Fields may be set in any order. -/
def Commuting (fields : List (RecordField α)) : Prop := fields.Pairwise RecordField.Commutes

theorem Commuting.of_mem {fields : List (RecordField α)} (commuting : Commuting fields)
    {first second : RecordField α} (member : first ∈ fields) (memberToo : second ∈ fields)
    (differ : first.name ≠ second.name) : first.Commutes second :=
  List.Pairwise.forall commuting member memberToo
    fun same => differ (congrArg RecordField.name same)

/-- Two records so far have the same fields and make the same value. -/
structure Partial.Same (first second : Partial α) : Prop where
  given : ∀ name, name ∈ first.given ↔ name ∈ second.given
  value : first.value = second.value

section Members

variable {fields : List (RecordField α)} {depth : Nat} {check : Value → Prop}
variable {record other final : Partial α} {members others aside : List (Quote × Value)}

theorem Takes.congr (same : record.Same other)
    (takes : Takes fields depth check record members final aside) :
    ∃ finish, Takes fields depth check other members finish aside ∧ final.Same finish := by
  induction takes generalizing other with
  | nil => exact ⟨other, .nil, same⟩
  | @field record final members aside key value field set named found fresh read later ih =>
      have next : Partial.Same ⟨field.name :: record.given, set record.value⟩
          ⟨field.name :: other.given, set other.value⟩ := by
        refine ⟨fun name => ?_, congrArg set same.value⟩
        rw [List.mem_cons, List.mem_cons, same.given]
      obtain ⟨finish, takes, alike⟩ := ih next
      exact ⟨finish, .field named found (mt (same.given _).mpr fresh) read takes, alike⟩
  | other named unknown checked later ih =>
      obtain ⟨finish, takes, alike⟩ := ih same
      exact ⟨finish, .other named unknown checked takes, alike⟩

theorem Partial.Same.refl (record : Partial α) : record.Same record :=
  ⟨fun _ => Iff.rfl, rfl⟩

theorem Partial.Same.trans {third : Partial α} (first : record.Same other)
    (second : other.Same third) : record.Same third :=
  ⟨fun name => (first.given name).trans (second.given name), first.value.trans second.value⟩

/-- Members in another order make the same record, and the same ones are put aside. -/
theorem Takes.perm (commuting : Commuting fields) (perm : members.Perm others)
    (takes : Takes fields depth check record members final aside) :
    ∃ finish left, Takes fields depth check record others finish left ∧ final.Same finish ∧
      aside.Perm left := by
  induction perm generalizing record final aside with
  | nil => exact ⟨final, aside, takes, .refl final, .refl aside⟩
  | cons member perm ih =>
      cases takes with
      | field named found fresh read later =>
          obtain ⟨finish, left, takes, same, perm⟩ := ih later
          exact ⟨finish, left, .field named found fresh read takes, same, perm⟩
      | other named unknown checked later =>
          obtain ⟨finish, left, takes, same, perm⟩ := ih later
          exact ⟨finish, _, .other named unknown checked takes, same, perm.cons _⟩
  | swap first second members =>
      cases takes with
      | @field _ _ _ _ _ _ field set named found fresh read later =>
          cases later with
          | @field _ _ _ _ _ _ another change namedToo foundToo freshToo readToo later =>
              simp only [List.mem_cons, not_or] at freshToo
              obtain ⟨differ, freshToo⟩ := freshToo
              have commutes := commuting.of_mem (List.mem_of_find?_eq_some foundToo)
                (List.mem_of_find?_eq_some found) differ
              have same : Partial.Same
                  ⟨another.name :: field.name :: record.given, change (set record.value)⟩
                  ⟨field.name :: another.name :: record.given, set (change record.value)⟩ := by
                refine ⟨fun name => ?_, commutes _ _ _ _ _ _ readToo read _⟩
                rw [List.mem_cons, List.mem_cons, List.mem_cons, List.mem_cons, or_left_comm]
              obtain ⟨finish, takes, alike⟩ := later.congr same
              have freshStill : field.name ∉ another.name :: record.given :=
                List.not_mem_cons_of_ne_of_not_mem (Ne.symm differ) fresh
              exact ⟨finish, _, .field namedToo foundToo freshToo readToo
                (.field named found freshStill read takes), alike, .refl _⟩
          | other namedToo unknown checked later =>
              exact ⟨final, _,
                .other namedToo unknown checked (.field named found fresh read later),
                .refl final, .refl _⟩
      | other named unknown checked later =>
          cases later with
          | field namedToo found fresh read later =>
              exact ⟨final, _,
                .field namedToo found fresh read (.other named unknown checked later),
                .refl final, .refl _⟩
          | other namedToo unknownToo checkedToo later =>
              exact ⟨final, _, .other namedToo unknownToo checkedToo
                (.other named unknown checked later), .refl final, .swap _ _ _⟩
  | trans first second ih ihToo =>
      obtain ⟨middle, between, takes, same, perm⟩ := ih takes
      obtain ⟨finish, left, takes, sameToo, permToo⟩ := ihToo takes
      exact ⟨finish, left, takes, same.trans sameToo, perm.trans permToo⟩

/-- A value in place of another changes nothing if it is read alike, and checked alike. -/
theorem Takes.replace {before after : List (Quote × Value)} {key : Quote} {value instead : Value}
    (alike : ∀ field, fields.find? (·.name = field.name) = some field →
      key.read = .ok field.name → ∀ set, field.read depth value = .ok set →
        field.read depth instead = .ok set)
    (checks : ∀ name, key.read = .ok name → fields.find? (·.name = name) = none → check value →
      check instead)
    (takes : Takes fields depth check record (before ++ (key, value) :: after) final aside) :
    ∃ left, Takes fields depth check record (before ++ (key, instead) :: after) final left ∧
      (left = aside ∨ ∃ front back, aside = front ++ (key, value) :: back ∧
        left = front ++ (key, instead) :: back) := by
  induction before generalizing record aside with
  | nil =>
      cases takes with
      | field named found fresh read later =>
          exact ⟨aside, .field named found fresh
            (alike _ found named _ read) later, .inl rfl⟩
      | @other _ _ _ aside _ _ _ named unknown checked later =>
          exact ⟨_, .other named unknown (checks _ named unknown checked) later,
            .inr ⟨[], aside, rfl, rfl⟩⟩
  | cons member before ih =>
      cases takes with
      | field named found fresh read later =>
          obtain ⟨left, takes, either⟩ := ih later
          exact ⟨left, .field named found fresh read takes, either⟩
      | other named unknown checked later =>
          obtain ⟨left, takes, either⟩ := ih later
          refine ⟨_, .other named unknown checked takes, ?_⟩
          rcases either with rfl | ⟨front, back, rfl, rfl⟩
          · exact .inl rfl
          · exact .inr ⟨_ :: front, back, rfl, rfl⟩

theorem Fills.replace {before after : List Value} {item instead : Value} {value result : α}
    (alike : ∀ field, fields[before.length]? = some field → ∀ set,
      field.read depth item = .ok set → field.read depth instead = .ok set)
    (fills : Fills depth fields (before ++ item :: after) value result) :
    Fills depth fields (before ++ instead :: after) value result := by
  induction before generalizing fields value with
  | nil =>
      cases fills with
      | item read later => exact .item (alike _ rfl _ read) later
  | cons first before ih =>
      cases fills with
      | item read later =>
          exact .item read (ih alike later)

end Members

end Mainboard.Document
