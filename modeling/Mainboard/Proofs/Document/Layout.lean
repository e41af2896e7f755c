import Mainboard.Document.Token

/-!
# Tokens laid out as text

Every token is spelled by some characters, and white space may stand in front of
any token and at the end.  However tokens are laid out, they are what the text is
scanned into.  A number has no mark at its end: it is over when a character
follows that it cannot go on with.
-/

namespace Mainboard.Document

/-- One digit or more. -/
def AreDigits (characters : List Char) : Prop :=
  characters ≠ [] ∧ ∀ character ∈ characters, character.isDigit

/-- The digits of a number before the point, without a leading zero. -/
inductive IsWhole : List Char → Prop
  | zero : IsWhole ['0']
  | digits {first : Char} {rest : List Char} (digits : AreDigits (first :: rest))
      (leads : first ≠ '0') : IsWhole (first :: rest)

inductive IsFraction : List Char → Prop
  | none : IsFraction []
  | digits {decimals : List Char} (digits : AreDigits decimals) : IsFraction ('.' :: decimals)

inductive IsExponent : List Char → Prop
  | none : IsExponent []
  | digits {mark : Char} {sign power : List Char} (marks : mark = 'e' ∨ mark = 'E')
      (signs : sign = [] ∨ sign = ['+'] ∨ sign = ['-']) (digits : AreDigits power) :
      IsExponent (mark :: (sign ++ power))

/-- The characters of a number. -/
inductive IsNumber : List Char → Prop
  | parts {sign whole fraction exponent : List Char} (signs : sign = [] ∨ sign = ['-'])
      (isWhole : IsWhole whole) (isFraction : IsFraction fraction)
      (isExponent : IsExponent exponent) : IsNumber (sign ++ (whole ++ (fraction ++ exponent)))

/-- The characters between the marks of quoted text. -/
inductive SpelledPieces : List Piece → List Char → Prop
  | nil : SpelledPieces [] []
  | plain {character : Char} {pieces : List Piece} {rest : List Char}
      (unmarked : character ≠ '"' ∧ character ≠ '\\') (printed : 0x20 ≤ character.toNat)
      (others : SpelledPieces pieces rest) :
      SpelledPieces (.character character :: pieces) (character :: rest)
  | escaped {letter character : Char} {pieces : List Piece} {rest : List Char}
      (stands : escaped? letter = some character) (others : SpelledPieces pieces rest) :
      SpelledPieces (.character character :: pieces) ('\\' :: letter :: rest)
  | unit {first second third fourth : Char} {high middle low last : Nat} {pieces : List Piece}
      {rest : List Char} (isFirst : hexDigit? first = some high)
      (isSecond : hexDigit? second = some middle) (isThird : hexDigit? third = some low)
      (isFourth : hexDigit? fourth = some last) (others : SpelledPieces pieces rest) :
      SpelledPieces (.unit (16 * (16 * (16 * high + middle) + low) + last) :: pieces)
        ('\\' :: 'u' :: first :: second :: third :: fourth :: rest)

/-- The characters of a token that is no number. -/
inductive Spelled : Token → List Char → Prop
  | openBrace : Spelled .openBrace ['\x7b']
  | closeBrace : Spelled .closeBrace ['\x7d']
  | openBracket : Spelled .openBracket ['[']
  | closeBracket : Spelled .closeBracket [']']
  | colon : Spelled .colon [':']
  | comma : Spelled .comma [',']
  | null : Spelled .null ['n', 'u', 'l', 'l']
  | true : Spelled (.boolean true) ['t', 'r', 'u', 'e']
  | false : Spelled (.boolean false) ['f', 'a', 'l', 's', 'e']
  | quote {pieces : List Piece} {characters : List Char}
      (spelled : SpelledPieces pieces characters) :
      Spelled (.quote ⟨pieces, none⟩) ('"' :: (characters ++ ['"']))

/-- A number that ends here does not go on. -/
def EndsNumber (rest : List Char) : Prop :=
  ∀ character ∈ rest.head?, character.isDigit = false ∧ character ∉ ['.', 'e', 'E']

/-- Tokens in order, with white space wherever it may stand. -/
inductive Layout : List Token → List Char → Prop
  | nil : Layout [] []
  | space {character : Char} {tokens : List Token} {rest : List Char}
      (isSpace : isSpace character) (others : Layout tokens rest) :
      Layout tokens (character :: rest)
  | token {token : Token} {characters rest : List Char} {tokens : List Token}
      (spelled : Spelled token characters) (others : Layout tokens rest) :
      Layout (token :: tokens) (characters ++ rest)
  | number {lexeme rest : List Char} {tokens : List Token} (isNumber : IsNumber lexeme)
      (ends : EndsNumber rest) (others : Layout tokens rest) :
      Layout (.number lexeme :: tokens) (lexeme ++ rest)

section Numbers

variable {stage : Stage} {characters lexeme : List Char}

theorem Stage.foldlM_digits
    (stays : ∀ character : Char, character.isDigit → stage.next? character = some stage)
    (digits : ∀ character ∈ characters, character.isDigit) :
    characters.foldlM Stage.next? stage = some stage := by
  induction characters with
  | nil => rfl
  | cons character characters ih =>
      obtain ⟨digit, others⟩ := List.forall_mem_cons.mp digits
      rw [List.foldlM_cons, stays character digit]
      exact ih others

/-- A stage that takes a digit into one that takes digits takes one digit or more. -/
theorem AreDigits.foldlM_next? {first : Stage} (digits : AreDigits characters)
    (enters : ∀ character : Char, character.isDigit → first.next? character = some stage)
    (stays : ∀ character : Char, character.isDigit → stage.next? character = some stage) :
    characters.foldlM Stage.next? first = some stage := by
  obtain ⟨nonempty, each⟩ := digits
  obtain ⟨character, rest, rfl⟩ := List.exists_cons_of_ne_nil nonempty
  obtain ⟨digit, others⟩ := List.forall_mem_cons.mp each
  rw [List.foldlM_cons, enters character digit]
  exact Stage.foldlM_digits stays others

theorem IsWhole.exists_cons (isWhole : IsWhole characters) :
    ∃ first rest, characters = first :: rest ∧ first.isDigit := by
  cases isWhole with
  | zero => exact ⟨_, _, rfl, rfl⟩
  | digits digits leads => exact ⟨_, _, rfl, digits.2 _ List.mem_cons_self⟩

theorem IsWhole.foldlM_next? (isWhole : IsWhole characters) : ∃ stage,
    (stage = .zero ∨ stage = .whole) ∧ characters.foldlM Stage.next? .sign = some stage := by
  cases isWhole with
  | zero => exact ⟨.zero, .inl rfl, rfl⟩
  | @digits first rest digits leads =>
      refine ⟨.whole, .inr rfl, ?_⟩
      obtain ⟨digit, others⟩ := List.forall_mem_cons.mp digits.2
      have enters : Stage.next? .sign first = some .whole := by simp [Stage.next?, leads, digit]
      rw [List.foldlM_cons, enters]
      exact Stage.foldlM_digits (fun _ digit => by simp [Stage.next?, digit]) others

theorem IsFraction.foldlM_next? (isFraction : IsFraction characters)
    (start : stage = .zero ∨ stage = .whole) : ∃ next,
      (next = .zero ∨ next = .whole ∨ next = .fraction) ∧
        characters.foldlM Stage.next? stage = some next := by
  cases isFraction with
  | none => exact ⟨stage, start.imp_right .inl, rfl⟩
  | digits digits =>
      have point : stage.next? '.' = some .point := by
        rcases start with rfl | rfl <;> rfl
      refine ⟨.fraction, .inr (.inr rfl), ?_⟩
      rw [List.foldlM_cons, point]
      exact digits.foldlM_next? (fun _ digit => by simp [Stage.next?, digit])
        fun _ digit => by simp [Stage.next?, digit]

theorem IsExponent.foldlM_next? (isExponent : IsExponent characters)
    (start : stage = .zero ∨ stage = .whole ∨ stage = .fraction) : ∃ next : Stage,
      next.isComplete ∧ characters.foldlM Stage.next? stage = some next := by
  cases isExponent with
  | none =>
      refine ⟨stage, ?_, rfl⟩
      rcases start with rfl | rfl | rfl <;> rfl
  | @digits mark sign power marks signs digits =>
      have marked : stage.next? mark = some .mark := by
        rcases start with rfl | rfl | rfl <;> rcases marks with rfl | rfl <;> rfl
      have powers : ∀ first : Stage, first = .mark ∨ first = .exponentSign →
          power.foldlM Stage.next? first = some .exponent := by
        intro first either
        refine digits.foldlM_next? ?_ fun _ digit => by simp [Stage.next?, digit]
        intro character digit
        rcases either with rfl | rfl <;> simp [Stage.next?, digit]
      refine ⟨.exponent, rfl, ?_⟩
      rw [List.foldlM_cons, marked]
      rcases signs with rfl | rfl | rfl
      · exact powers .mark (.inl rfl)
      · exact powers .exponentSign (.inr rfl)
      · exact powers .exponentSign (.inr rfl)

/-- The characters of a number lead to a stage in which it is complete. -/
theorem IsNumber.foldlM_next? (isNumber : IsNumber lexeme) : ∃ sign first rest final,
    lexeme = sign ++ first :: rest ∧ (sign = [] ∨ sign = ['-']) ∧ first.isDigit ∧
      final.isComplete ∧ (first :: rest).foldlM Stage.next? .sign = some final := by
  obtain ⟨signs, isWhole, isFraction, isExponent⟩ := isNumber
  obtain ⟨stage, wholes, throughWhole⟩ := isWhole.foldlM_next?
  obtain ⟨next, fractions, throughFraction⟩ := isFraction.foldlM_next? wholes
  obtain ⟨final, complete, throughExponent⟩ := isExponent.foldlM_next? fractions
  obtain ⟨first, rest, rfl, digit⟩ := isWhole.exists_cons
  refine ⟨_, first, rest ++ _, final, rfl, signs, digit, complete, ?_⟩
  rw [← List.cons_append, List.foldlM_append, throughWhole, Option.bind_eq_bind, Option.bind_some,
    List.foldlM_append, throughFraction, Option.bind_eq_bind, Option.bind_some, throughExponent]

end Numbers

namespace Scan

variable {found : List Token}

section Numbers

variable {stage final : Stage} {characters lexeme : List Char}

/-- A scan goes through the characters of a number as its stages do. -/
theorem foldl_step_number (stages : characters.foldlM Stage.next? stage = some final) :
    characters.foldl step ⟨found, .number stage lexeme⟩ =
      ⟨found, .number final (characters.reverse ++ lexeme)⟩ := by
  induction characters generalizing stage lexeme with
  | nil =>
      obtain rfl := Option.some.inj stages
      rfl
  | cons character characters ih =>
      obtain ⟨next, goesOn, later⟩ := Option.bind_eq_some_iff.mp stages
      have stepped : step ⟨found, .number stage lexeme⟩ character =
          ⟨found, .number next (character :: lexeme)⟩ := by
        simp [step, inNumber, goesOn]
      rw [List.foldl_cons, stepped, ih later, List.reverse_cons, List.append_assoc]
      rfl

/-- A digit starts a number as it would go on with one after the sign. -/
theorem step_between_of_isDigit {character : Char} (digit : character.isDigit) :
    step ⟨found, .between⟩ character = step ⟨found, .number .sign []⟩ character := by
  have apart : ∀ other : Char, other.isDigit = false → character ≠ other := by
    rintro other none rfl
    rw [none] at digit
    cases digit
  by_cases zero : character = '0'
  · subst zero
    rfl
  · simp [step, start, inNumber, isSpace, Stage.next?, digit, zero, apart ' ' rfl, apart '\n' rfl,
      apart '\r' rfl, apart '\t' rfl, apart '\x7b' rfl, apart '\x7d' rfl, apart '[' rfl,
      apart ']' rfl, apart ':' rfl, apart ',' rfl, apart '"' rfl, apart '-' rfl]

theorem foldl_step_isNumber (isNumber : IsNumber lexeme) : ∃ final, final.isComplete ∧
    lexeme.foldl step ⟨found, .between⟩ = ⟨found, .number final lexeme.reverse⟩ := by
  obtain ⟨sign, first, rest, final, rfl, signs, digit, complete, stages⟩ :=
    isNumber.foldlM_next?
  refine ⟨final, complete, ?_⟩
  rcases signs with rfl | rfl
  · rw [List.nil_append, List.foldl_cons, step_between_of_isDigit digit, ← List.foldl_cons,
      foldl_step_number stages, List.append_nil]
  · rw [List.singleton_append, List.foldl_cons]
    change List.foldl step ⟨found, .number .sign ['-']⟩ (first :: rest) = _
    rw [foldl_step_number stages]
    simp

/-- A number that is complete is over when a character follows that it cannot go on with. -/
theorem finish_of_endsNumber {rest : List Char} (complete : stage.isComplete)
    (ends : EndsNumber rest) : (rest.foldl step ⟨found, .number stage lexeme⟩).finish =
      (rest.foldl step ⟨.number lexeme.reverse :: found, .between⟩).finish := by
  cases rest with
  | nil => simp [finish, complete, emit]
  | cons character rest =>
      obtain ⟨digit, mark⟩ := ends character rfl
      simp only [List.mem_cons, List.not_mem_nil, or_false, not_or] at mark
      obtain ⟨point, small, large⟩ := mark
      have finished : stage.next? character = none := by
        cases stage <;> simp_all [Stage.next?, Stage.isComplete]
      have breaks : stage.breaksAt character = false := by
        simp [Stage.breaksAt, complete, digit]
      rw [List.foldl_cons, List.foldl_cons, step, step]
      simp only [inNumber, finished, breaks, Bool.false_eq_true, ↓reduceIte, emit]

end Numbers

section Quotes

variable {pieces : List Piece} {characters : List Char}

theorem utf8Size_of_hexDigit? {character : Char} {number : Nat}
    (digit : hexDigit? character = some number) : character.utf8Size = 1 := by
  have small : character.val ≤ 'f'.val := by
    unfold hexDigit? at digit
    split at digit
    next isDigit =>
      simp only [Char.isDigit, Bool.and_eq_true, decide_eq_true_eq, ge_iff_le] at isDigit
      exact UInt32.le_trans isDigit.2 (by decide)
    next =>
      split at digit
      next lower => exact lower.2
      next =>
        split at digit
        next upper => exact UInt32.le_trans upper.2 (by decide)
        next => cases digit
  exact Char.utf8Size_eq_one_iff.mpr (UInt32.le_trans small (by decide))

theorem step_unit {before : List Piece} {bytes value digit : Nat} {character : Char}
    (isDigit : hexDigit? character = some digit) (room : bytes < 3) :
    step ⟨found, .unit before bytes (some value)⟩ character =
      ⟨found, .unit before (bytes + 1) (some (16 * value + digit))⟩ := by
  have short : bytes + 1 < 4 := by omega
  simp [step, inUnit, utf8Size_of_hexDigit? isDigit, isDigit, short]

theorem step_unit_last {before : List Piece} {value digit : Nat} {character : Char}
    (isDigit : hexDigit? character = some digit) :
    step ⟨found, .unit before 3 (some value)⟩ character =
      ⟨found, .quote (.unit (16 * value + digit) :: before)⟩ := by
  simp [step, inUnit, utf8Size_of_hexDigit? isDigit, isDigit]

theorem foldl_step_spelledPieces (spelled : SpelledPieces pieces characters)
    (before : List Piece) : characters.foldl step ⟨found, .quote before⟩ =
      ⟨found, .quote (pieces.reverse ++ before)⟩ := by
  induction spelled generalizing before with
  | nil => rfl
  | @plain character pieces rest unmarked printed others ih =>
      have stepped : step ⟨found, .quote before⟩ character =
          ⟨found, .quote (.character character :: before)⟩ := by
        simp [step, inQuote, unmarked, Nat.not_lt.mpr printed]
      rw [List.foldl_cons, stepped, ih, List.reverse_cons, List.append_assoc]
      rfl
  | @escaped letter character pieces rest stands others ih =>
      have unmarked : letter ≠ 'u' := by
        rintro rfl
        cases stands
      have stepped : step ⟨found, .escape before⟩ letter =
          ⟨found, .quote (.character character :: before)⟩ := by
        simp [step, inEscape, unmarked, stands]
      rw [List.foldl_cons, List.foldl_cons]
      change rest.foldl step (step ⟨found, .escape before⟩ letter) = _
      rw [stepped, ih, List.reverse_cons, List.append_assoc]
      rfl
  | @unit first second third fourth high middle low last pieces rest isFirst isSecond isThird
      isFourth others ih =>
      simp only [List.foldl_cons]
      change rest.foldl step (step (step (step (step ⟨found, .unit before 0 (some 0)⟩ first)
        second) third) fourth) = _
      rw [step_unit isFirst (by omega), step_unit isSecond (by omega),
        step_unit isThird (by omega), step_unit_last isFourth, ih, List.reverse_cons,
        List.append_assoc, Nat.mul_zero, Nat.zero_add]
      rfl

theorem foldl_step_spelled {token : Token} (spelled : Spelled token characters) :
    characters.foldl step ⟨found, .between⟩ = ⟨token :: found, .between⟩ := by
  cases spelled with
  | @quote pieces characters spelled =>
      rw [List.foldl_cons, List.foldl_append]
      change List.foldl step (characters.foldl step ⟨found, .quote []⟩) ['"'] = _
      rw [foldl_step_spelledPieces spelled, List.append_nil]
      simp [step, inQuote, emit]
  | _ => rfl

end Quotes

end Scan

/-- A text is scanned into the tokens that it is laid out from. -/
theorem Layout.tokens_eq {found : List Token} {characters : List Char}
    (layout : Layout found characters) : tokens characters = found := by
  have scanned : ∀ before : List Token, (characters.foldl Scan.step ⟨before, .between⟩).finish =
      before.reverse ++ found := by
    induction layout with
    | nil => simp [Scan.finish]
    | space isSpace others ih =>
        intro before
        rw [List.foldl_cons, Scan.step_of_isSpace before isSpace]
        exact ih before
    | @token token characters rest tokens spelled others ih =>
        intro before
        rw [List.foldl_append, Scan.foldl_step_spelled spelled, ih, List.reverse_cons,
          List.append_assoc]
        rfl
    | @number lexeme rest tokens isNumber ends others ih =>
        intro before
        obtain ⟨final, complete, stages⟩ := Scan.foldl_step_isNumber isNumber
        rw [List.foldl_append, stages, Scan.finish_of_endsNumber complete ends,
          List.reverse_reverse, ih, List.reverse_cons, List.append_assoc]
        rfl
  exact scanned []

end Mainboard.Document
