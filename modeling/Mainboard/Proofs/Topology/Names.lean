import Mathlib.Data.List.Nodup
import Mainboard.Topology.Wiring

/-!
# Names of objects

Clusters, and the cores of a cluster, have names that end with their number.
What is inside of one has its name, a dot, and a name of its own.  Digits are
not dots, so the first dot tells where the number ends: the name says what it
is inside of, and nothing of cluster 1 is taken for something of cluster 10.
-/

namespace Mainboard

/-- A name is that of something inside of an owner. -/
def Inside (owner name : String) : Prop := ∃ rest, name = owner ++ "." ++ rest

/-- The names of owners end with a number. -/
def Numbered (base owner : String) : Prop := ∃ number : Nat, owner = base ++ toString number

theorem inside_append (owner rest : String) : Inside owner (owner ++ "." ++ rest) :=
  ⟨rest, rfl⟩

theorem Inside.append {owner name : String} (inside : Inside owner name) (more : String) :
    Inside owner (name ++ more) := by
  obtain ⟨rest, rfl⟩ := inside
  exact ⟨rest ++ more, by rw [String.append_assoc]⟩

theorem Inside.trans {owner middle name : String} (outer : Inside owner middle)
    (inner : Inside middle name) : Inside owner name := by
  obtain ⟨rest, rfl⟩ := inner
  rw [String.append_assoc]
  exact outer.append _

theorem dot_notMem_toString (number : Nat) : '.' ∉ (toString number).toList := by
  intro member
  rw [Nat.toString_eq_ofList_toDigits, String.toList_ofList] at member
  exact absurd (Nat.isDigit_of_mem_toDigits (by decide) (by decide) member) (by decide)

theorem toString_injective : Function.Injective (toString : Nat → String) := by
  intro number other same
  have digits : Nat.toDigits 10 number = Nat.toDigits 10 other := by
    simpa [Nat.toString_eq_ofList_toDigits] using congrArg String.toList same
  rw [← Nat.ofDigitChars_ten_toDigits (n := number), digits, Nat.ofDigitChars_ten_toDigits]

/-- A list is cut in one way at the first of a mark. -/
theorem append_mark_inj {mark : Char} {first second rest other : List Char}
    (unmarked : mark ∉ first) (unmarkedToo : mark ∉ second)
    (same : first ++ mark :: rest = second ++ mark :: other) : first = second ∧ rest = other := by
  obtain ⟨middle, rfl, after⟩ | ⟨middle, rfl, after⟩ := List.append_eq_append_iff.mp same
  all_goals
    cases middle with
    | nil => simpa [eq_comm] using after
    | cons char middle =>
        obtain ⟨rfl, -⟩ := List.cons.inj after
        simp at unmarked unmarkedToo

/-- What is inside of numbered owners says in which of them it is. -/
theorem Numbered.inside_inj {base owner other rest more : String} (numbered : Numbered base owner)
    (numberedToo : Numbered base other) (same : owner ++ "." ++ rest = other ++ "." ++ more) :
    owner = other ∧ rest = more := by
  obtain ⟨number, rfl⟩ := numbered
  obtain ⟨second, rfl⟩ := numberedToo
  simp only [String.append_assoc, String.append_right_inj] at same
  -- Past the base both names go on with digits, and their first dot ends them.
  have lists := congrArg String.toList same
  rw [String.toList_append, String.toList_append, String.toList_append, String.toList_append]
    at lists
  obtain ⟨digits, restEq⟩ :=
    append_mark_inj (dot_notMem_toString number) (dot_notMem_toString second) lists
  exact ⟨congrArg (base ++ ·) (String.toList_inj.mp digits), String.toList_inj.mp restEq⟩

theorem Numbered.eq_of_inside {base owner other name : String} (numbered : Numbered base owner)
    (numberedToo : Numbered base other) (inside : Inside owner name)
    (insideToo : Inside other name) : owner = other := by
  obtain ⟨rest, rfl⟩ := inside
  obtain ⟨more, same⟩ := insideToo
  exact (numbered.inside_inj numberedToo same).1

/-- Names are distinct if owners are, and within each owner the names inside of it are. -/
theorem nodup_flatMap_inside {α : Type} {base : String} {items : List α} {owner : α → String}
    {names : α → List String} (numbered : ∀ item ∈ items, Numbered base (owner item))
    (apart : (items.map owner).Nodup)
    (inside : ∀ item ∈ items, ∀ name ∈ names item, Inside (owner item) name)
    (each : ∀ item ∈ items, (names item).Nodup) : (items.flatMap names).Nodup := by
  refine List.nodup_flatMap.mpr ⟨each, ?_⟩
  refine (List.pairwise_map.mp apart).imp_of_mem ?_
  intro first second firstMem secondMem different name firstHas secondHas
  exact different ((numbered first firstMem).eq_of_inside (numbered second secondMem)
    (inside first firstMem name firstHas) (inside second secondMem name secondHas))

/-- The last character of a name. -/
def lastChar? (name : String) : Option Char := name.toList.getLast?

/-- The first character of a name. -/
def firstChar? (name : String) : Option Char := name.toList.head?

theorem lastChar?_append {ending : String} {char : Char} (name : String)
    (last : lastChar? ending = some char) : lastChar? (name ++ ending) = some char := by
  rw [lastChar?, String.toList_append, List.getLast?_append, ← lastChar?, last]
  rfl

theorem firstChar?_append {name : String} {char : Char} (ending : String)
    (first : firstChar? name = some char) : firstChar? (name ++ ending) = some char := by
  rw [firstChar?, String.toList_append, List.head?_append, ← firstChar?, first]
  rfl

namespace Cluster

theorem numbered_nameAt (index : Nat) : Numbered "cpu_cluster" (nameAt index) :=
  ⟨index, rfl⟩

theorem numbered_corePath (index place : Nat) :
    Numbered (nameAt index ++ ".cpus") (corePath index place) :=
  ⟨place, rfl⟩

theorem nameAt_injective : Function.Injective nameAt := by
  intro index other same
  exact toString_injective ((String.append_right_inj _).mp same)

theorem corePath_injective (index : Nat) : Function.Injective (corePath index) := by
  intro place other same
  exact toString_injective ((String.append_right_inj _).mp same)

theorem corePath_eq (index place : Nat) :
    corePath index place = nameAt index ++ "." ++ ("cpus" ++ toString place) := by
  rw [corePath, String.append_assoc, String.append_assoc, ← @String.append_assoc "."]
  rfl

theorem inside_corePath (index place : Nat) : Inside (nameAt index) (corePath index place) :=
  ⟨_, corePath_eq index place⟩

/-- What is inside of a core goes on with a certain letter after the name of the cluster. -/
theorem firstChar?_of_inside_corePath {index place : Nat} {rest : String}
    (inside : Inside (corePath index place) (nameAt index ++ "." ++ rest)) :
    firstChar? rest = some 'c' := by
  obtain ⟨more, same⟩ := inside
  rw [corePath_eq, String.append_assoc, String.append_assoc, String.append_assoc,
    String.append_assoc, String.append_right_inj, String.append_right_inj] at same
  rw [same]
  exact firstChar?_append _ (firstChar?_append _ rfl)

end Cluster

namespace Stream

theorem mem_all (stream : Stream) : stream ∈ all := by cases stream <;> decide

theorem nodup_all : all.Nodup := by decide

theorem cacheName_injective : Function.Injective cacheName := by
  intro first second same
  cases first <;> cases second <;> first | rfl | exact absurd same (by decide)

theorem outlet_injective : Function.Injective outlet := by
  intro first second same
  cases first <;> cases second <;> first | rfl | exact absurd same (by decide)

end Stream

end Mainboard
