import Mainboard.Text.Blank
import Mathlib.Data.List.DropRight

/-!
# Texts and the blanks in them

Blanks at either end of a text are dropped, and no others.  Words are parted by
blanks; which blanks part them is left open, as long as the space is one.
-/

namespace Mainboard.Text

/-- The text has no blanks. -/
def IsSolid (characters : List Char) : Prop := ∀ character ∈ characters, isBlank character = false

instance (characters : List Char) : Decidable (IsSolid characters) :=
  List.decidableBAll _ characters

theorem trim_eq_rdropWhile (characters : List Char) :
    trim characters = (characters.dropWhile isBlank).rdropWhile isBlank :=
  rfl

section Trimming

variable {before body after : List Char}

theorem rdropWhile_append_blanks (blanks : ∀ character ∈ after, isBlank character) :
    (body ++ after).rdropWhile isBlank = body.rdropWhile isBlank := by
  rw [List.rdropWhile, List.reverse_append,
    List.dropWhile_append_of_pos (by simpa using blanks), List.rdropWhile]

/-- Blanks around a text do not count. -/
theorem trim_append_blanks (body : List Char)
    (blanksBefore : ∀ character ∈ before, isBlank character)
    (blanksAfter : ∀ character ∈ after, isBlank character) :
    trim (before ++ body ++ after) = trim body := by
  rw [trim_eq_rdropWhile, trim_eq_rdropWhile, List.append_assoc,
    List.dropWhile_append_of_pos blanksBefore, List.dropWhile_append]
  split
  next nothing =>
    rw [List.isEmpty_iff.mp nothing, List.dropWhile_eq_nil_iff.mpr blanksAfter]
  next => exact rdropWhile_append_blanks blanksAfter

/-- Blanks between the ends of a text count. -/
theorem trim_eq_self_of_ends {first last : Char} {middle : List Char}
    (solidFirst : isBlank first = false) (solidLast : isBlank last = false) :
    trim (first :: middle ++ [last]) = first :: middle ++ [last] := by
  rw [trim_eq_rdropWhile, List.cons_append, List.dropWhile_cons_of_neg (by simp [solidFirst]),
    ← List.cons_append, List.rdropWhile_concat_neg _ _ _ (by simp [solidLast])]

end Trimming

section Words

variable {separator : Char → Bool}

/-- Some of the blanks part words, and the space does. -/
structure PartsWords (separator : Char → Bool) : Prop where
  space : separator ' '
  isBlank : ∀ character, separator character → isBlank character

theorem partsWords_isBlank : PartsWords isBlank :=
  ⟨by decide, fun _ blank => blank⟩

theorem PartsWords.unparted (parts : PartsWords separator) {characters : List Char}
    (solid : IsSolid characters) : ∀ character ∈ characters, separator character = false := by
  intro character member
  rw [Bool.eq_false_iff]
  intro separates
  have blank := parts.isBlank character separates
  rw [solid character member] at blank
  cases blank

/-- The words of a text, the longest pieces without a separator. -/
def words (separator : Char → Bool) (text : String) : List String :=
  ((text.toList.splitOnP separator).filter (· ≠ [])).map String.ofList

/-- A text without separators that is not empty. -/
structure IsWord (separator : Char → Bool) (text : String) : Prop where
  ne_nil : text.toList ≠ []
  unparted : ∀ character ∈ text.toList, separator character = false

theorem PartsWords.isWord (parts : PartsWords separator) {text : String}
    (ne_nil : text.toList ≠ []) (solid : IsSolid text.toList) : IsWord separator text :=
  ⟨ne_nil, parts.unparted solid⟩

theorem PartsWords.isWord_append (parts : PartsWords separator) {front rest : String}
    (ne_nil : front.toList ≠ []) (solid : IsSolid front.toList)
    (unparted : ∀ character ∈ rest.toList, separator character = false) :
    IsWord separator (front ++ rest) := by
  refine ⟨?_, ?_⟩
  · rw [String.toList_append]
    exact List.append_ne_nil_of_left_ne_nil ne_nil _
  · rw [String.toList_append, List.forall_mem_append]
    exact ⟨parts.unparted solid, unparted⟩

theorem words_of_isWord {word : String} (isWord : IsWord separator word) :
    words separator word = [word] := by
  rw [words, List.splitOnP_eq_singleton isWord.unparted]
  simp [isWord.ne_nil]

theorem words_cons (space : separator ' ') {word : String} (isWord : IsWord separator word)
    (rest : String) : words separator (word ++ " " ++ rest) = word :: words separator rest := by
  have spaced : (word ++ " " ++ rest).toList = word.toList ++ ' ' :: rest.toList := by simp
  rw [words, spaced, List.splitOnP_append_cons_of_forall_mem isWord.unparted _ space, words]
  simp [isWord.ne_nil]

/-- Words with a space between any two are the first words of what is written so. -/
theorem exists_words_intercalate (space : separator ' ') {front : List String}
    (areWords : ∀ word ∈ front, IsWord separator word) (rest : List String) :
    ∃ others, words separator (" ".intercalate (front ++ rest)) = front ++ others := by
  induction front with
  | nil => exact ⟨_, rfl⟩
  | cons word front induction =>
      obtain ⟨isWord, areWords⟩ := List.forall_mem_cons.mp areWords
      rcases eq_or_ne (front ++ rest) [] with nothing | more
      · rw [List.cons_append, nothing, String.intercalate_singleton, words_of_isWord isWord]
        exact ⟨[], by simp [(List.append_eq_nil_iff.mp nothing).1]⟩
      · obtain ⟨others, parted⟩ := induction areWords
        rw [List.cons_append, String.intercalate_cons_of_ne_nil more, words_cons space isWord,
          parted]
        exact ⟨others, rfl⟩

end Words

end Mainboard.Text
