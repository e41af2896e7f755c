import Mathlib.Data.List.Basic
import Mainboard.Proofs.Document.Layout

/-!
# Texts that tokens are scanned from

The converse of laying tokens out: if nothing is missing from the tokens that a text
is scanned into, the text is a layout of them.  The characters that are left to scan
are what the scan still expects where it stands.
-/

namespace Mainboard.Document

/-- Nothing of a token is missing. -/
def Token.IsWhole : Token → Prop
  | .brokenWord _ | .brokenNumber _ | .junk => False
  | .quote text => text.broken = none
  | _ => True

theorem Token.not_isWhole_quote {pieces : List Piece} {broken : Break} :
    ¬ (Token.quote ⟨pieces, some broken⟩).IsWhole :=
  Option.some_ne_none broken

namespace Stage

/-- The characters that end a number which stands at a stage. -/
def Ends : Stage → List Char → Prop
  | sign, rest => ∃ whole fraction exponent, rest = whole ++ (fraction ++ exponent) ∧
      IsWhole whole ∧ IsFraction fraction ∧ IsExponent exponent
  | zero, rest => ∃ fraction exponent, rest = fraction ++ exponent ∧ IsFraction fraction ∧
      IsExponent exponent
  | whole, rest => ∃ digits fraction exponent, rest = digits ++ (fraction ++ exponent) ∧
      (∀ digit ∈ digits, digit.isDigit) ∧ IsFraction fraction ∧ IsExponent exponent
  | point, rest => ∃ digits exponent, rest = digits ++ exponent ∧ AreDigits digits ∧
      IsExponent exponent
  | fraction, rest => ∃ digits exponent, rest = digits ++ exponent ∧
      (∀ digit ∈ digits, digit.isDigit) ∧ IsExponent exponent
  | mark, rest => ∃ sign power, rest = sign ++ power ∧
      (sign = [] ∨ sign = ['+'] ∨ sign = ['-']) ∧ AreDigits power
  | exponentSign, rest => AreDigits rest
  | exponent, rest => ∀ digit ∈ rest, digit.isDigit

theorem areDigits_cons {character : Char} {rest : List Char} (digit : character.isDigit)
    (others : ∀ digit ∈ rest, digit.isDigit) : AreDigits (character :: rest) :=
  ⟨List.cons_ne_nil _ _, List.forall_mem_cons.mpr ⟨digit, others⟩⟩

/-- A number that is complete may end. -/
theorem ends_nil {stage : Stage} (complete : stage.isComplete) : stage.Ends [] := by
  cases stage with
  | zero => exact ⟨[], [], rfl, .none, .none⟩
  | whole => exact ⟨[], [], [], rfl, List.forall_mem_nil _, .none, .none⟩
  | fraction => exact ⟨[], [], rfl, List.forall_mem_nil _, .none⟩
  | exponent => exact List.forall_mem_nil _
  | _ => cases complete

/-- A point and what ends a number there are a fraction and an exponent. -/
theorem exists_isFraction_of_ends {rest : List Char} (ends : point.Ends rest) :
    ∃ fraction exponent, '.' :: rest = fraction ++ exponent ∧ IsFraction fraction ∧
      IsExponent exponent := by
  obtain ⟨digits, exponent, rfl, areDigits, isExponent⟩ := ends
  exact ⟨'.' :: digits, exponent, rfl, .digits areDigits, isExponent⟩

/-- A mark and what ends a number there are an exponent. -/
theorem isExponent_of_ends {character : Char} {rest : List Char}
    (marks : character = 'e' ∨ character = 'E') (ends : mark.Ends rest) :
    IsExponent (character :: rest) := by
  obtain ⟨sign, power, rfl, signs, digits⟩ := ends
  exact .digits marks signs digits

/-- If a number goes on with a character, it ends with that and with what ends it from there. -/
theorem ends_cons {stage next : Stage} {character : Char} {rest : List Char}
    (goesOn : stage.next? character = some next) (ends : next.Ends rest) :
    stage.Ends (character :: rest) := by
  have isMark : (decide (character = 'e') || decide (character = 'E')) = true →
      character = 'e' ∨ character = 'E' := by simp
  have isSign : (decide (character = '+') || decide (character = '-')) = true →
      character = '+' ∨ character = '-' := by simp
  revert goesOn
  fun_cases next? stage character with
  | case1 isZero =>
      rintro ⟨⟩
      obtain ⟨fraction, exponent, rfl, isFraction, isExponent⟩ := ends
      rw [isZero]
      exact ⟨['0'], fraction, exponent, rfl, .zero, isFraction, isExponent⟩
  | case2 leads digit =>
      rintro ⟨⟩
      obtain ⟨digits, fraction, exponent, rfl, others, isFraction, isExponent⟩ := ends
      exact ⟨character :: digits, fraction, exponent, rfl,
        .digits (areDigits_cons digit others) leads, isFraction, isExponent⟩
  | case4 isPoint =>
      rintro ⟨⟩
      rw [isPoint]
      exact exists_isFraction_of_ends ends
  | case5 _ _ marks =>
      rintro ⟨⟩
      exact ⟨[], _, rfl, .none, isExponent_of_ends (isMark marks) ends⟩
  | case7 digit =>
      rintro ⟨⟩
      obtain ⟨digits, fraction, exponent, rfl, others, isFraction, isExponent⟩ := ends
      exact ⟨character :: digits, fraction, exponent, rfl,
        List.forall_mem_cons.mpr ⟨digit, others⟩, isFraction, isExponent⟩
  | case8 _ isPoint =>
      rintro ⟨⟩
      obtain ⟨fraction, exponent, parts, isFraction, isExponent⟩ := exists_isFraction_of_ends ends
      rw [isPoint, parts]
      exact ⟨[], fraction, exponent, rfl, List.forall_mem_nil _, isFraction, isExponent⟩
  | case9 _ _ _ marks =>
      rintro ⟨⟩
      exact ⟨[], [], _, rfl, List.forall_mem_nil _, .none, isExponent_of_ends (isMark marks) ends⟩
  | case11 digit =>
      rintro ⟨⟩
      obtain ⟨digits, exponent, rfl, others, isExponent⟩ := ends
      exact ⟨character :: digits, exponent, rfl, areDigits_cons digit others, isExponent⟩
  | case13 digit =>
      rintro ⟨⟩
      obtain ⟨digits, exponent, rfl, others, isExponent⟩ := ends
      exact ⟨character :: digits, exponent, rfl, List.forall_mem_cons.mpr ⟨digit, others⟩,
        isExponent⟩
  | case14 _ _ marks =>
      rintro ⟨⟩
      exact ⟨[], _, rfl, List.forall_mem_nil _, isExponent_of_ends (isMark marks) ends⟩
  | case16 digit =>
      rintro ⟨⟩
      exact ⟨[], _, rfl, .inl rfl, areDigits_cons digit ends⟩
  | case17 _ _ signs =>
      rintro ⟨⟩
      rcases isSign signs with rfl | rfl
      · exact ⟨['+'], rest, rfl, .inr (.inl rfl), ends⟩
      · exact ⟨['-'], rest, rfl, .inr (.inr rfl), ends⟩
  | case19 digit =>
      rintro ⟨⟩
      exact areDigits_cons digit ends
  | case21 digit =>
      rintro ⟨⟩
      exact List.forall_mem_cons.mpr ⟨digit, ends⟩
  | _ => rintro ⟨⟩

end Stage

theorem isNumber_of_ends {sign rest : List Char} (signs : sign = [] ∨ sign = ['-'])
    (ends : Stage.sign.Ends rest) : IsNumber (sign ++ rest) := by
  obtain ⟨whole, fraction, exponent, rfl, isWhole, isFraction, isExponent⟩ := ends
  exact .parts signs isWhole isFraction isExponent

/-- No token starts with a character that a number could go on with. -/
theorem Layout.notMem_of_cons {character : Char} {rest : List Char} {found : List Token}
    (layout : Layout found (character :: rest)) :
    character ∉ ['.', 'e', 'E'] := by
  generalize same : character :: rest = characters at layout
  cases layout with
  | nil => cases same
  | space space others =>
      obtain ⟨rfl, rfl⟩ := List.cons.inj same
      intro member
      simp only [List.mem_cons, List.not_mem_nil, or_false] at member
      rcases member with rfl | rfl | rfl <;> cases space
  | token spelled others =>
      cases spelled with
      | _ =>
          obtain ⟨rfl, -⟩ := List.cons.inj same
          decide
  | number isNumber ends others =>
      obtain ⟨sign, first, more, final, rfl, signs, digit, -⟩ := isNumber.foldlM_next?
      rcases signs with rfl | rfl
      · obtain ⟨rfl, -⟩ := List.cons.inj same
        intro member
        simp only [List.mem_cons, List.not_mem_nil, or_false] at member
        rcases member with rfl | rfl | rfl <;> cases digit
      · obtain ⟨rfl, -⟩ := List.cons.inj same
        decide

/-- The characters that end quoted text, after pieces of it. -/
def EndsQuote (pieces : List Piece) (found : List Token) (characters : List Char) : Prop :=
  ∃ others body rest later, characters = body ++ '"' :: rest ∧ SpelledPieces others body ∧
    found = .quote ⟨pieces.reverse ++ others, none⟩ :: later ∧ Layout later rest

/-- What characters are if a scan finds whole tokens in them from a mode on. -/
def Mode.Expects (found : List Token) (characters : List Char) : Mode → Prop
  | between => Layout found characters
  | word missing token => ∃ rest later, characters = missing ++ rest ∧ found = token :: later ∧
      Layout later rest
  | number stage lexeme => ∃ more rest later, characters = more ++ rest ∧ stage.Ends more ∧
      EndsNumber rest ∧ found = .number (lexeme.reverse ++ more) :: later ∧ Layout later rest
  | quote pieces => EndsQuote pieces found characters
  | escape pieces => EndsQuote pieces found ('\\' :: characters)
  | unit pieces bytes value => bytes < 4 → ∃ high digits low rest, value = some high ∧
      characters = digits ++ rest ∧ bytes + digits.length = 4 ∧
      digits.foldlM (fun number digit => (hexDigit? digit).map (16 * number + ·)) high = some low ∧
      EndsQuote (.unit low :: pieces) found rest
  | stopped => found = []

/-- A scan finds tokens after some that it had, and if they are whole, they are expected. -/
def Explains (scan : Scan) (before : List Token) (expects : List Token → Prop) : Prop :=
  ∃ found, scan.finish = before.reverse ++ found ∧
    ((∀ token ∈ found, token.IsWhole) → expects found)

section Explains

variable {scan : Scan} {before : List Token} {token : Token} {expects means : List Token → Prop}

theorem Explains.imp (explains : Explains scan before expects)
    (weaker : ∀ found, expects found → means found) : Explains scan before means := by
  obtain ⟨found, finish, expected⟩ := explains
  exact ⟨found, finish, fun isWhole => weaker found (expected isWhole)⟩

/-- A token that was found last is the first one that is found from there. -/
theorem Explains.emit (explains : Explains scan (token :: before) expects)
    (adds : ∀ found, token.IsWhole → expects found → means (token :: found)) :
    Explains scan before means := by
  obtain ⟨found, finish, expected⟩ := explains
  refine ⟨token :: found, ?_, fun isWhole => ?_⟩
  · rw [finish, List.reverse_cons, List.append_assoc]
    rfl
  · obtain ⟨first, others⟩ := List.forall_mem_cons.mp isWhole
    exact adds found first (expected others)

/-- A scan that ends with a token from which something is missing expects nothing. -/
theorem explains_broken (finish : scan.finish = before.reverse ++ [token])
    (broken : ¬ token.IsWhole) : Explains scan before expects :=
  ⟨[token], finish, fun isWhole => absurd (isWhole token List.mem_cons_self) broken⟩

theorem explains_stop {characters : List Char} {mode : Mode} (broken : ¬ token.IsWhole) :
    Explains (characters.foldl Scan.step (Scan.stop ⟨before, mode⟩ token)) before expects := by
  have stays : characters.foldl Scan.step ⟨token :: before, .stopped⟩ =
      ⟨token :: before, .stopped⟩ := List.foldl_fixed' (fun _ => rfl) characters
  refine explains_broken ?_ broken
  rw [Scan.stop, stays, Scan.finish, List.reverse_cons]

end Explains

section Scans

variable {character : Char} {rest : List Char} {before : List Token} {mode : Mode}
variable (ih : ∀ mode before, Explains (rest.foldl Scan.step ⟨before, mode⟩) before
  fun found => mode.Expects found rest)
include ih

theorem explains_emit {token : Token} (spelled : Spelled token [character]) :
    Explains (rest.foldl Scan.step (Scan.emit ⟨before, mode⟩ token)) before
      fun found => Layout found (character :: rest) :=
  (ih .between _).emit fun _ _ layout => .token spelled layout

theorem explains_firstLetter {missing : List Char} {token : Token}
    (spelled : Spelled token (character :: missing)) :
    Explains (rest.foldl Scan.step ⟨before, .word missing token⟩) before
      fun found => Layout found (character :: rest) := by
  refine (ih (.word missing token) before).imp ?_
  rintro found ⟨rest, later, rfl, rfl, layout⟩
  exact .token spelled layout

theorem explains_firstDigit {stage : Stage} (starts : Stage.sign.next? character = some stage) :
    Explains (rest.foldl Scan.step ⟨before, .number stage [character]⟩) before
      fun found => Layout found (character :: rest) := by
  refine (ih (.number stage [character]) before).imp ?_
  rintro found ⟨more, rest, later, rfl, ends, closes, rfl, layout⟩
  have isNumber : IsNumber (character :: more) :=
    isNumber_of_ends (.inl rfl) (Stage.ends_cons starts ends)
  exact .number isNumber closes layout

theorem explains_start :
    Explains (rest.foldl Scan.step (Scan.start ⟨before, mode⟩ character)) before
      fun found => Layout found (character :: rest) := by
  fun_cases Scan.start ⟨before, mode⟩ character with
  | case1 space => exact (ih .between before).imp fun found layout => .space space layout
  | case2 =>
      rename_i same
      subst same
      exact explains_emit ih .openBrace
  | case3 =>
      rename_i same
      subst same
      exact explains_emit ih .closeBrace
  | case4 =>
      rename_i same
      subst same
      exact explains_emit ih .openBracket
  | case5 =>
      rename_i same
      subst same
      exact explains_emit ih .closeBracket
  | case6 =>
      rename_i same
      subst same
      exact explains_emit ih .colon
  | case7 =>
      rename_i same
      subst same
      exact explains_emit ih .comma
  | case8 =>
      rename_i same
      subst same
      refine (ih (.quote []) before).imp ?_
      rintro found ⟨pieces, body, rest, later, rfl, spelled, rfl, layout⟩
      simpa using Layout.token (.quote spelled) layout
  | case9 =>
      rename_i same
      subst same
      refine (ih (.number .sign ['-']) before).imp ?_
      rintro found ⟨more, rest, later, rfl, ends, closes, rfl, layout⟩
      exact .number (isNumber_of_ends (.inr rfl) ends) closes layout
  | case10 =>
      rename_i same
      subst same
      exact explains_firstDigit ih rfl
  | case11 =>
      rename_i leads digit
      exact explains_firstDigit ih (by simp [Stage.next?, leads, digit])
  | case12 =>
      rename_i same
      subst same
      exact explains_firstLetter ih .null
  | case13 =>
      rename_i same
      subst same
      exact explains_firstLetter ih .true
  | case14 =>
      rename_i same
      subst same
      exact explains_firstLetter ih .false
  | case15 => exact explains_stop id

theorem explains_word {missing : List Char} {token : Token} :
    Explains (rest.foldl Scan.step (Scan.step ⟨before, .word missing token⟩ character)) before
      fun found => (Mode.word missing token).Expects found (character :: rest) := by
  cases missing with
  | nil =>
      refine (explains_start ih).emit fun found _ layout => ?_
      exact ⟨character :: rest, found, rfl, rfl, layout⟩
  | cons letter missing =>
      dsimp only [Scan.step]
      split
      next same =>
        subst same
        split
        next last =>
          obtain rfl := List.isEmpty_iff.mp last
          refine (ih .between _).emit fun found _ layout => ?_
          exact ⟨rest, found, rfl, rfl, layout⟩
        next =>
          refine (ih (.word missing token) before).imp ?_
          rintro found ⟨rest, later, rfl, rfl, layout⟩
          exact ⟨rest, later, rfl, rfl, layout⟩
      next => exact explains_stop id

theorem explains_number {stage : Stage} {lexeme : List Char} :
    Explains (rest.foldl Scan.step (Scan.step ⟨before, .number stage lexeme⟩ character)) before
      fun found => (Mode.number stage lexeme).Expects found (character :: rest) := by
  dsimp only [Scan.step, Scan.inNumber]
  split
  next next goesOn =>
    refine (ih (.number next (character :: lexeme)) before).imp ?_
    rintro found ⟨more, rest, later, rfl, ends, closes, rfl, layout⟩
    exact ⟨character :: more, rest, later, rfl, Stage.ends_cons goesOn ends, closes,
      by rw [List.reverse_cons, List.append_assoc]; rfl, layout⟩
  next none =>
    split
    next => exact explains_stop id
    next stops =>
      simp only [Stage.breaksAt, Bool.or_eq_true, Bool.not_eq_true', Bool.and_eq_true, not_or,
        Bool.not_eq_false] at stops
      obtain ⟨complete, fresh⟩ := stops
      refine (explains_start ih).emit fun found _ layout => ?_
      refine ⟨[], character :: rest, found, rfl, Stage.ends_nil complete, ?_,
        by rw [List.append_nil], layout⟩
      rintro other ⟨⟩
      -- The stage only says that the number does not go on; a point or a mark would start no token.
      refine ⟨?_, layout.notMem_of_cons⟩
      by_contra digit
      cases stage <;> simp_all [Stage.next?, Stage.isComplete]

theorem explains_quote {pieces : List Piece} :
    Explains (rest.foldl Scan.step (Scan.step ⟨before, .quote pieces⟩ character)) before
      fun found => (Mode.quote pieces).Expects found (character :: rest) := by
  dsimp only [Scan.step, Scan.inQuote]
  split
  next mark =>
    subst mark
    refine (ih .between _).emit fun found _ layout => ?_
    exact ⟨[], [], rest, found, rfl, .nil, by rw [List.append_nil], layout⟩
  next unmarked =>
    split
    next escape =>
      subst escape
      exact ih (.escape pieces) before
    next unescaped =>
      split
      next control => exact explains_stop Token.not_isWhole_quote
      next printed =>
        refine (ih (.quote (.character character :: pieces)) before).imp ?_
        rintro found ⟨others, body, rest, later, rfl, spelled, rfl, layout⟩
        exact ⟨.character character :: others, character :: body, rest, later, rfl,
          .plain ⟨unmarked, unescaped⟩ (Nat.le_of_not_lt printed) spelled,
          by rw [List.reverse_cons, List.append_assoc]; rfl, layout⟩

theorem explains_escape {pieces : List Piece} :
    Explains (rest.foldl Scan.step (Scan.step ⟨before, .escape pieces⟩ character)) before
      fun found => (Mode.escape pieces).Expects found (character :: rest) := by
  dsimp only [Scan.step, Scan.inEscape]
  split
  next unit =>
    subst unit
    refine (ih (.unit pieces 0 (some 0)) before).imp ?_
    intro found expected
    obtain ⟨high, digits, low, rest, ⟨⟩, rfl, four, reads, ends⟩ := expected (by omega)
    rw [Nat.zero_add] at four
    -- No digit is read yet, so that all four of the unit are left.
    obtain ⟨first, second, third, fourth, rfl⟩ := List.length_eq_four.mp four
    simp only [List.foldlM_cons, List.foldlM_nil, Option.bind_eq_bind, Option.bind_eq_some_iff,
      Option.map_eq_some_iff, Option.pure_def, Option.some.injEq] at reads
    obtain ⟨_, ⟨high, isFirst, rfl⟩, _, ⟨middle, isSecond, rfl⟩, _, ⟨low, isThird, rfl⟩, _,
      ⟨last, isFourth, rfl⟩, rfl⟩ := reads
    obtain ⟨others, body, rest, later, rfl, spelled, rfl, layout⟩ := ends
    refine ⟨_, _, rest, later, ?_, .unit isFirst isSecond isThird isFourth spelled, ?_, layout⟩
    · rfl
    · simp
  next plain =>
    split
    next value stands =>
      refine (ih (.quote (.character value :: pieces)) before).imp ?_
      rintro found ⟨others, body, rest, later, rfl, spelled, rfl, layout⟩
      exact ⟨.character value :: others, '\\' :: character :: body, rest, later, rfl,
        .escaped stands spelled, by rw [List.reverse_cons, List.append_assoc]; rfl, layout⟩
    next => exact explains_stop Token.not_isWhole_quote

theorem explains_unit {pieces : List Piece} {bytes : Nat} {value : Option Nat} :
    Explains (rest.foldl Scan.step (Scan.step ⟨before, .unit pieces bytes value⟩ character)) before
      fun found => (Mode.unit pieces bytes value).Expects found (character :: rest) := by
  dsimp only [Scan.step, Scan.inUnit]
  split
  next room =>
    refine (ih (.unit pieces _ _) before).imp ?_
    intro found expected
    obtain ⟨high, digits, low, rest, start, rfl, four, reads, ends⟩ := expected room
    obtain ⟨before, rfl, start⟩ := Option.bind_eq_some_iff.mp start
    obtain ⟨digit, isDigit, rfl⟩ := Option.map_eq_some_iff.mp start
    rw [Scan.utf8Size_of_hexDigit? isDigit] at four
    intro _
    refine ⟨before, character :: digits, low, rest, rfl, rfl, ?_, ?_, ends⟩
    · rw [List.length_cons]
      omega
    · rw [List.foldlM_cons, isDigit]
      exact reads
  next full =>
    split
    next number reads =>
      refine (ih (.quote (.unit number :: pieces)) before).imp fun found ends room => ?_
      obtain ⟨high, rfl, reads⟩ := Option.bind_eq_some_iff.mp reads
      obtain ⟨digit, isDigit, rfl⟩ := Option.map_eq_some_iff.mp reads
      rw [Scan.utf8Size_of_hexDigit? isDigit] at full
      refine ⟨high, [character], _, rest, rfl, rfl, ?_, ?_, ends⟩
      · rw [List.length_singleton]
        omega
      · rw [List.foldlM_cons, isDigit]
        rfl
    next => exact explains_stop Token.not_isWhole_quote

end Scans

/-- Only between tokens, or in a number that is complete, may a text end. -/
theorem explains_nil (mode : Mode) (before : List Token) :
    Explains ⟨before, mode⟩ before fun found => mode.Expects found [] := by
  cases mode with
  | between => exact ⟨[], (List.append_nil _).symm, fun _ => .nil⟩
  | word missing token => exact explains_broken List.reverse_cons id
  | number stage lexeme =>
      by_cases complete : stage.isComplete
      · refine ⟨[.number lexeme.reverse], ?_, fun _ => ?_⟩
        · simp [Scan.finish, complete, Scan.emit]
        · exact ⟨[], [], [], rfl, Stage.ends_nil complete, by simp [EndsNumber],
            by rw [List.append_nil], .nil⟩
      · have finish : (⟨before, .number stage lexeme⟩ : Scan).finish =
            before.reverse ++ [.brokenNumber .ended] := by
          simp [Scan.finish, complete, Scan.stop]
        exact explains_broken finish id
  | quote pieces => exact explains_broken List.reverse_cons Token.not_isWhole_quote
  | escape pieces => exact explains_broken List.reverse_cons Token.not_isWhole_quote
  | unit pieces bytes value => exact explains_broken List.reverse_cons Token.not_isWhole_quote
  | stopped => exact ⟨[], (List.append_nil _).symm, fun _ => rfl⟩

/-- The characters that are left are what the scan expects. -/
theorem explains (characters : List Char) (mode : Mode) (before : List Token) :
    Explains (characters.foldl Scan.step ⟨before, mode⟩) before
      fun found => mode.Expects found characters := by
  induction characters generalizing mode before with
  | nil => exact explains_nil mode before
  | cons character rest ih =>
      cases mode with
      | between => exact explains_start ih
      | word missing token => exact explains_word ih
      | number stage lexeme => exact explains_number ih
      | quote pieces => exact explains_quote ih
      | escape pieces => exact explains_escape ih
      | unit pieces bytes value => exact explains_unit ih
      | stopped => exact ih .stopped before

/-- A text that is scanned into whole tokens is a layout of them. -/
theorem layout_tokens {characters : List Char}
    (isWhole : ∀ token ∈ tokens characters, token.IsWhole) :
    Layout (tokens characters) characters := by
  obtain ⟨found, finish, expected⟩ := explains characters .between []
  have same : tokens characters = found := finish
  rw [same] at isWhole ⊢
  exact expected isWhole

end Mainboard.Document
