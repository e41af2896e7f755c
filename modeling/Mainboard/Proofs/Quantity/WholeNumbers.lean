import Mainboard.Proofs.Binary64.Rounding
import Mainboard.Proofs.Text.Blanks
import Mainboard.Quantity.ByteSize
import Mainboard.Quantity.Frequency
import Mainboard.Quantity.Voltage

/-!
# Whole numbers of a unit

A whole number of a unit is read exactly, or refused if it does not fit, as
long as its digits fit a word.  Digits beyond a word are rounded first, and then
numbers from `2 ^ 64` up to half a spacing above it pass for the largest word
when the unit is one.  Voltages keep fewer bits and refuse these too.
-/

namespace Mainboard

namespace Measure

/-- A whole number of a unit as it may be written: digits and a suffix, with blanks about either. -/
structure WholeNumber (measure : Measure) where
  before : List Char
  digits : List Char
  between : List Char
  suffix : String
  after : List Char
  multiplier : Nat
  digits_ne_nil : digits ≠ []
  areDigits : ∀ digit ∈ digits, digit.isDigit
  areBlanks : ∀ character ∈ before ++ between ++ after, Text.isBlank character
  mem_suffixes : (suffix, multiplier) ∈ measure.suffixes

namespace WholeNumber

variable {measure : Measure} (number : measure.WholeNumber)

def text : String :=
  String.ofList
    (number.before ++ number.digits ++ number.between ++ number.suffix.toList ++ number.after)

def value : Nat := Nat.ofDigitChars 10 number.digits 0

/-- The amount that is meant. -/
def amount : Nat := number.value * number.multiplier

section Printing

variable {suffix : String} {multiplier : Nat}

/-- A number as it is printed, with its suffix right behind it. -/
def printed (count : Nat) (mem_suffixes : (suffix, multiplier) ∈ measure.suffixes) :
    measure.WholeNumber where
  before := []
  digits := Nat.toDigits 10 count
  between := []
  suffix := suffix
  after := []
  multiplier := multiplier
  digits_ne_nil := Nat.toDigits_ne_nil
  areDigits := fun _ => Nat.isDigit_of_mem_toDigits (by decide) (by decide)
  areBlanks := List.forall_mem_nil _
  mem_suffixes := mem_suffixes

variable (count : Nat) (mem_suffixes : (suffix, multiplier) ∈ measure.suffixes)

@[simp]
theorem text_printed : (printed count mem_suffixes).text = toString count ++ suffix := by
  rw [← String.toList_inj, String.toList_append, Nat.toString_eq_ofList_toDigits]
  simp [text, printed]

@[simp]
theorem amount_printed : (printed count mem_suffixes).amount = count * multiplier := by
  rw [amount, value, printed, Nat.ofDigitChars_ten_toDigits]

end Printing

end WholeNumber

/-- Suffixes that can be told from one another and from a number. -/
structure IsLegible (measure : Measure) : Prop where
  lookup_eq : ∀ suffix ∈ measure.suffixes, measure.suffixes.lookup suffix.1 = some suffix.2
  positive : ∀ suffix ∈ measure.suffixes, 0 < suffix.2
  isSolid : ∀ suffix ∈ measure.suffixes, Text.IsSolid suffix.1.toList
  any_isNumeric : ∀ suffix ∈ measure.suffixes, suffix.1.toList.any isNumeric = false

section Splitting

variable {before digits between suffix after : List Char} {character : Char}

theorem isNumeric_of_isDigit (digit : character.isDigit) : isNumeric character := by
  rw [isNumeric, digit, Bool.true_or]

/-- Digits and the point stand apart from every blank. -/
theorem isBlank_of_isNumeric (numeric : isNumeric character) :
    Text.isBlank character = false := by
  have range : 46 ≤ character.toNat ∧ character.toNat ≤ 57 := by
    simp only [isNumeric, Char.isDigit, Bool.or_eq_true, Bool.and_eq_true, decide_eq_true_eq,
      beq_iff_eq, ge_iff_le, UInt32.le_iff_toNat_le] at numeric
    rcases numeric with ⟨least, most⟩ | rfl
    · exact ⟨Nat.le_trans (by decide) least, most⟩
    · decide
  simp only [Text.isBlank, Bool.or_eq_false_iff, Bool.and_eq_false_iff, decide_eq_false_iff_not,
    beq_eq_false_iff_ne]
  omega

theorem isNumeric_of_isBlank (blank : Text.isBlank character) : isNumeric character = false := by
  rw [Bool.eq_false_iff]
  intro numeric
  rw [isBlank_of_isNumeric numeric] at blank
  cases blank

/-- A run of digits ends where nothing numeric follows. -/
theorem takeWhile_isNumeric {rest : List Char} (areDigits : ∀ digit ∈ digits, digit.isDigit)
    (ends : ∀ character ∈ rest, isNumeric character = false) :
    (digits ++ rest).takeWhile isNumeric = digits ∧
      (digits ++ rest).dropWhile isNumeric = rest := by
  have numeric : ∀ digit ∈ digits, isNumeric digit :=
    fun digit member => isNumeric_of_isDigit (areDigits digit member)
  rw [List.takeWhile_append_of_pos numeric, List.dropWhile_append_of_pos numeric]
  cases rest with
  | nil => simp
  | cons first rest =>
      have stops : isNumeric first = false := ends first List.mem_cons_self
      rw [List.takeWhile_cons_of_neg (by simp [stops]), List.append_nil,
        List.dropWhile_cons_of_neg (by simp [stops])]
      exact ⟨rfl, rfl⟩

/-- Of a number with its suffix only the blanks at its ends are dropped, or all blanks behind it if
the suffix is empty. -/
theorem exists_trim_written (digits_ne_nil : digits ≠ []) (solid : Text.IsSolid digits)
    (blanksBefore : ∀ character ∈ before, Text.isBlank character)
    (blanksBetween : ∀ character ∈ between, Text.isBlank character)
    (blanksAfter : ∀ character ∈ after, Text.isBlank character)
    (isSolid : Text.IsSolid suffix) (letters : suffix.any isNumeric = false) :
    ∃ rest, Text.trim (before ++ digits ++ between ++ suffix ++ after) = digits ++ rest ∧
      Text.trim rest = suffix ∧ ∀ character ∈ rest, isNumeric character = false := by
  -- Without a suffix the blanks between are at the end of the text, and are dropped with the rest.
  rcases suffix.eq_nil_or_concat with rfl | ⟨front, last, written⟩
  · have blanksEnd : ∀ character ∈ between ++ after, Text.isBlank character :=
      List.forall_mem_append.mpr ⟨blanksBetween, blanksAfter⟩
    refine ⟨[], ?_, rfl, List.forall_mem_nil _⟩
    rw [List.append_nil, List.append_nil, List.append_assoc,
      Text.trim_append_blanks digits blanksBefore blanksEnd, Text.trim_eq_self solid]
  · obtain rfl : suffix = front ++ [last] := written.trans List.concat_eq_append
    obtain ⟨first, others, rfl⟩ := List.exists_cons_of_ne_nil digits_ne_nil
    refine ⟨between ++ (front ++ [last]), ?_, ?_, List.forall_mem_append.mpr
      ⟨fun character member => isNumeric_of_isBlank (blanksBetween character member),
        fun letter member => Bool.eq_false_iff.mpr (List.any_eq_false.mp letters letter member)⟩⟩
    · have around := Text.trim_append_blanks (first :: (others ++ between ++ front) ++ [last])
        blanksBefore blanksAfter
      rw [Text.trim_eq_self_of_ends (solid first (by simp)) (isSolid last (by simp))] at around
      simpa using around
    · have around := Text.trim_append_blanks (front ++ [last]) blanksBetween
        (List.forall_mem_nil _)
      rwa [List.append_nil, Text.trim_eq_self isSolid] at around

/-- A number with its suffix is split where the digits end, whatever blanks there are. -/
theorem split_written (digits_ne_nil : digits ≠ []) (areDigits : ∀ digit ∈ digits, digit.isDigit)
    (blanks : ∀ character ∈ before ++ between ++ after, Text.isBlank character)
    (isSolid : Text.IsSolid suffix) (letters : suffix.any isNumeric = false) :
    split (before ++ digits ++ between ++ suffix ++ after) = (digits, suffix) := by
  have solid : Text.IsSolid digits :=
    fun digit member => isBlank_of_isNumeric (isNumeric_of_isDigit (areDigits digit member))
  obtain ⟨⟨blanksBefore, blanksBetween⟩, blanksAfter⟩ :
      ((∀ character ∈ before, Text.isBlank character) ∧
        ∀ character ∈ between, Text.isBlank character) ∧
        ∀ character ∈ after, Text.isBlank character := by
    simpa only [List.forall_mem_append] using blanks
  obtain ⟨rest, written, trimmed, ends⟩ := exists_trim_written digits_ne_nil solid blanksBefore
    blanksBetween blanksAfter isSolid letters
  obtain ⟨taken, dropped⟩ := takeWhile_isNumeric areDigits ends
  simp only [split, written, taken, dropped, trimmed]

end Splitting

section Scaling

variable {digits : List Char} {multiplier : Nat}

theorem digits?_of_areDigits (digits_ne_nil : digits ≠ [])
    (areDigits : ∀ digit ∈ digits, digit.isDigit) : digits? digits = some (digits, []) := by
  have all : digits.takeWhile Char.isDigit = digits ∧ digits.dropWhile Char.isDigit = [] :=
    ⟨List.takeWhile_eq_self_iff.mpr areDigits, List.dropWhile_eq_nil_iff.mpr areDigits⟩
  simp [digits?, all, digits_ne_nil]

/-- Digits that fit a word are scaled exactly, as long as the product fits as well. -/
theorem scale_of_le (digits_ne_nil : digits ≠ []) (areDigits : ∀ digit ∈ digits, digit.isDigit)
    (fits : Nat.ofDigitChars 10 digits 0 ≤ largest) :
    scale digits multiplier =
      if Nat.ofDigitChars 10 digits 0 * multiplier ≤ largest then
        some (UInt64.ofNat (Nat.ofDigitChars 10 digits 0 * multiplier)) else none := by
  have all : digits.all Char.isDigit := List.all_eq_true.mpr areDigits
  simp [scale, digits_ne_nil, all, fits]

/-- Digits beyond a word are rounded, and only just beyond it they pass for the largest word. -/
theorem scale_of_lt (digits_ne_nil : digits ≠ []) (areDigits : ∀ digit ∈ digits, digit.isDigit)
    (positive : 0 < multiplier) (beyond : largest < Nat.ofDigitChars 10 digits 0) :
    scale digits multiplier =
      if multiplier = 1 ∧ Nat.ofDigitChars 10 digits 0 ≤ 2 ^ 64 + 2 ^ 11 then
        some (UInt64.ofNat largest) else none := by
  have reaches : 2 ^ 64 ≤ Nat.ofDigitChars 10 digits 0 := beyond
  obtain ⟨nonneg, least, most⟩ := Binary64.whole_times_nearest (by decide) reaches positive
  have rounded : scale digits multiplier = scaleRounded digits multiplier := by
    simp [scale, digits_ne_nil, Nat.not_le.mpr beyond]
  have unscaled : Nat.pow 10 ([] : List Char).length = 1 := rfl
  rw [rounded, scaleRounded, digits?_of_areDigits digits_ne_nil areDigits]
  simp only [Option.bind_eq_bind, Option.bind_some, List.append_nil, unscaled,
    Binary64.exceeds_of_nonneg nonneg, Binary64.round_of_nonneg nonneg, decide_eq_true_eq]
  -- Products are refused above `2 ^ 64` only, so one that comes out there is held at the largest.
  have size : UInt64.size = 2 ^ 64 := rfl
  have held : min ((Binary64.nearest (Nat.ofDigitChars 10 digits 0) 1).times multiplier).whole
      largest = largest := Nat.min_eq_right ((show largest ≤ 2 ^ 64 by decide).trans least)
  rw [held, size]
  split
  next exceeds => rw [if_neg fun passes => (Nat.not_le.mpr exceeds) (most.mpr passes)]
  next passes => rw [if_pos (most.mp (Nat.not_lt.mp passes))]

end Scaling

namespace WholeNumber

variable {measure : Measure} (number : measure.WholeNumber)

/-- The number is beyond a word, but is rounded to a word and kept by its unit. -/
def PassesForLargest : Prop :=
  number.multiplier = 1 ∧ 2 ^ 64 ≤ number.value ∧ number.value ≤ 2 ^ 64 + 2 ^ 11

instance : Decidable number.PassesForLargest :=
  inferInstanceAs (Decidable (_ ∧ _ ∧ _))

theorem read?_eq_scale (isLegible : measure.IsLegible) :
    measure.read? number.text = scale number.digits number.multiplier := by
  have written := split_written number.digits_ne_nil number.areDigits number.areBlanks
    (isLegible.isSolid _ number.mem_suffixes) (isLegible.any_isNumeric _ number.mem_suffixes)
  have looked := isLegible.lookup_eq _ number.mem_suffixes
  simp only [read?, text, String.toList_ofList, written, String.ofList_toList, looked,
    Option.bind_eq_bind, Option.bind_some]

/-- Whole numbers are read exactly if they fit, and are refused otherwise unless they pass for the
largest word. -/
theorem read?_eq (isLegible : measure.IsLegible) :
    measure.read? number.text =
      if number.amount < 2 ^ 64 then some (UInt64.ofNat number.amount)
      else if number.PassesForLargest then some (UInt64.ofNat largest) else none := by
  have positive : 0 < number.multiplier := isLegible.positive _ number.mem_suffixes
  have size : largest = 2 ^ 64 - 1 := rfl
  rw [read?_eq_scale number isLegible]
  rcases Nat.lt_or_ge largest number.value with beyond | fits
  · have amount_ge : number.value ≤ number.amount := Nat.le_mul_of_pos_right _ positive
    have reaches : 2 ^ 64 ≤ number.value := beyond
    have tooLarge : ¬ number.amount < 2 ^ 64 := Nat.not_lt.mpr (reaches.trans amount_ge)
    rw [if_neg tooLarge, scale_of_lt number.digits_ne_nil number.areDigits positive beyond]
    simp only [PassesForLargest, reaches, true_and]
    rfl
  · have short : ¬ number.PassesForLargest := fun passes => by have := passes.2.1; omega
    have bound : number.amount < 2 ^ 64 ↔ number.amount ≤ largest := by omega
    rw [if_neg short, scale_of_le number.digits_ne_nil number.areDigits fits]
    simp only [bound]
    rfl

end WholeNumber

end Measure

theorem ByteSize.isLegible_measure : ByteSize.measure.IsLegible :=
  ⟨by decide, by decide, by decide, by decide⟩

theorem Frequency.isLegible_measure : Frequency.measure.IsLegible :=
  ⟨by decide, by decide, by decide, by decide⟩

theorem Voltage.isLegible_measure : Voltage.measure.IsLegible :=
  ⟨by decide, by decide, by decide, by decide⟩

/-- Sizes, rates and voltages are read exactly or refused.  Only sizes and rates that are written
in their smallest unit and pass for the largest word are kept as that word. -/
theorem Measure.reads_whole_numbers (size : ByteSize.measure.WholeNumber)
    (rate : Frequency.measure.WholeNumber) (voltage : Voltage.measure.WholeNumber) :
    ByteSize.read? size.text =
      (if size.amount < 2 ^ 64 then some ⟨UInt64.ofNat size.amount⟩
      else if size.PassesForLargest then some ⟨UInt64.ofNat largest⟩ else none) ∧
    Frequency.read? rate.text =
      (if rate.amount = 0 then none
      else if rate.amount < 2 ^ 64 then some ⟨UInt64.ofNat rate.amount⟩
      else if rate.PassesForLargest then some ⟨UInt64.ofNat largest⟩ else none) ∧
    Voltage.read? voltage.text =
      (if voltage.amount < 2 ^ 32 then some ⟨UInt32.ofNat voltage.amount⟩ else none) := by
  refine ⟨?_, ?_, ?_⟩
  · rw [ByteSize.read?, size.read?_eq ByteSize.isLegible_measure]
    split
    · rfl
    · split <;> rfl
  · rw [Frequency.read?, rate.read?_eq Frequency.isLegible_measure]
    rcases Nat.eq_zero_or_pos rate.amount with zero | positive
    · rw [zero]
      rfl
    · rw [if_neg positive.ne']
      split
      next fits =>
        have kept : UInt64.ofNat rate.amount ≠ 0 := by
          rw [Ne, ← UInt64.toNat_inj, UInt64.toNat_ofNat_of_lt' fits]
          exact positive.ne'
        simp only [Option.bind_eq_bind, Option.bind_some, if_neg kept]
      next => split <;> rfl
  · rw [Voltage.read?, voltage.read?_eq Voltage.isLegible_measure]
    split
    next fits =>
      simp only [Option.bind_eq_bind, Option.bind_some, Voltage.ofMillivolts?,
        UInt64.toNat_ofNat_of_lt' fits, UInt64.toUInt32_ofNat']
      rfl
    next beyond =>
      have tooLarge : ¬ voltage.amount < 2 ^ 32 := by omega
      rw [if_neg tooLarge]
      split <;> rfl

/-- The least number beyond a word is read as the largest word. -/
theorem ByteSize.keeps_number_beyond_word :
    ∃ number : ByteSize.measure.WholeNumber, number.text = "18446744073709551616" ∧
      number.amount = 2 ^ 64 ∧ ByteSize.read? number.text = some ⟨18446744073709551615⟩ := by
  have unsuffixed : ("", 1) ∈ ByteSize.measure.suffixes := by decide
  have text := Measure.WholeNumber.text_printed (2 ^ 64) unsuffixed
  refine ⟨.printed (2 ^ 64) unsuffixed, text, by simp, ?_⟩
  rw [text]
  decide +kernel

end Mainboard
