/-!
# Blanks around written values

The characters with the Unicode property `White_Space`, and the text that is
left when those at either end are dropped.  Quantities may be written with
blanks around the number and around the unit.
-/

namespace Mainboard.Text

/-- The characters with the property `White_Space`. -/
def isBlank (character : Char) : Bool :=
  let code := character.toNat
  (0x09 ≤ code && code ≤ 0x0d) || code == 0x20 || code == 0x85 || code == 0xa0 ||
    code == 0x1680 || (0x2000 ≤ code && code ≤ 0x200a) || code == 0x2028 ||
    code == 0x2029 || code == 0x202f || code == 0x205f || code == 0x3000

def trim (characters : List Char) : List Char :=
  ((characters.dropWhile isBlank).reverse.dropWhile isBlank).reverse

theorem trim_eq_self {characters : List Char}
    (solid : ∀ character ∈ characters, isBlank character = false) :
    trim characters = characters := by
  have keeps : ∀ letters : List Char,
      (∀ letter ∈ letters, isBlank letter = false) →
        letters.dropWhile isBlank = letters := by
    intro letters clear
    cases letters with
    | nil => rfl
    | cons letter rest =>
        simp [clear letter (by simp)]
  rw [trim, keeps characters solid, keeps _ (by simpa using solid), List.reverse_reverse]

end Mainboard.Text
