import Mainboard.Proofs.Document.Layout
import Mainboard.Proofs.Document.Whole

/-!
# Values spelled by a text

A whole value, without holes and without lists or maps that are not closed, is
written in one way as tokens.  A text that these are laid out in spells the value,
and is what the value is found in.
-/

namespace Mainboard.Document

mutual

/-- The tokens of a value. -/
def Value.tokens : Value → List Token
  | .null => [.null]
  | .boolean value => [.boolean value]
  | .number lexeme => [.number lexeme]
  | .quote quote => [.quote quote]
  | .list [] _ => [.openBracket, .closeBracket]
  | .list (item :: items) _ => .openBracket :: (item.tokens ++ laterItems items)
  | .map [] _ => [.openBrace, .closeBrace]
  | .map ((key, value) :: members) _ =>
      .openBrace :: .quote key :: .colon :: (value.tokens ++ laterMembers members)
  | .brokenWord broken => [.brokenWord broken]
  | .brokenNumber broken => [.brokenNumber broken]
  | .hole _ => []

/-- The tokens after an item of a list, to its end. -/
def laterItems : List Value → List Token
  | [] => [.closeBracket]
  | item :: items => .comma :: (item.tokens ++ laterItems items)

/-- The tokens after a member of a map, to its end. -/
def laterMembers : List (Quote × Value) → List Token
  | [] => [.closeBrace]
  | (key, value) :: members =>
      .comma :: .quote key :: .colon :: (value.tokens ++ laterMembers members)

end

/-- A text is a way to write a value. -/
structure Value.Spells (value : Value) (text : String) : Prop where
  isWhole : value.IsWhole
  layout : Layout value.tokens text.toList

namespace Place

variable {frames : List Frame}

theorem foldl_step_laterItems {items : List Value} (before : List Value)
    (each : ∀ item ∈ items, ∀ frames, item.tokens.foldl step (value frames) =
      deliver frames item) :
    (laterItems items).foldl step (afterItem frames before) =
      deliver frames (.list (before.reverse ++ items) none) := by
  induction items generalizing before with
  | nil =>
      rw [laterItems, List.append_nil]
      rfl
  | cons item items ih =>
      obtain ⟨reads, others⟩ := List.forall_mem_cons.mp each
      rw [laterItems, List.foldl_cons, List.foldl_append]
      change List.foldl step (item.tokens.foldl step (value (.items before :: frames))) _ = _
      rw [reads]
      change List.foldl step (afterItem frames (item :: before)) _ = _
      rw [ih (item :: before) others, List.reverse_cons, List.append_assoc]
      rfl

theorem foldl_step_laterMembers {members : List (Quote × Value)}
    (before : List (Quote × Value))
    (each : ∀ member ∈ members, ∀ frames, member.2.tokens.foldl step (value frames) =
      deliver frames member.2) :
    (laterMembers members).foldl step (afterMember frames before) =
      deliver frames (.map (before.reverse ++ members) none) := by
  induction members generalizing before with
  | nil =>
      rw [laterMembers, List.append_nil]
      rfl
  | cons member members ih =>
      obtain ⟨key, item⟩ := member
      obtain ⟨reads, others⟩ := List.forall_mem_cons.mp each
      rw [laterMembers, List.foldl_cons, List.foldl_cons, List.foldl_cons, List.foldl_append]
      change List.foldl step
        (item.tokens.foldl step (value (.members before key :: frames))) _ = _
      rw [reads]
      change List.foldl step (afterMember frames ((key, item) :: before)) _ = _
      rw [ih ((key, item) :: before) others, List.reverse_cons, List.append_assoc]
      rfl

/-- The first token of a value does not close a list. -/
theorem foldl_step_firstItem {item : Value} (isWhole : item.IsWhole) :
    item.tokens.foldl step (firstItem frames) =
      item.tokens.foldl step (value (.items [] :: frames)) := by
  cases isWhole with
  | @list items each => cases items <;> rfl
  | @map members keys each => rcases members with _ | ⟨⟨key, value⟩, members⟩ <;> rfl
  | _ => rfl

/-- Where a value may come, the tokens of one deliver it. -/
theorem foldl_step_value {item : Value} (isWhole : item.IsWhole) (frames : List Frame) :
    item.tokens.foldl step (value frames) = deliver frames item := by
  induction isWhole generalizing frames with
  | @list items each ih =>
      cases items with
      | nil => rfl
      | cons item items =>
          obtain ⟨reads, others⟩ := List.forall_mem_cons.mp ih
          rw [Value.tokens, List.foldl_cons, List.foldl_append]
          change List.foldl step (item.tokens.foldl step (firstItem frames)) _ = _
          rw [foldl_step_firstItem (each item List.mem_cons_self), reads]
          exact foldl_step_laterItems [item] others
  | @map members keys each ih =>
      rcases members with _ | ⟨⟨key, item⟩, members⟩
      · rfl
      · obtain ⟨reads, others⟩ := List.forall_mem_cons.mp ih
        rw [Value.tokens, List.foldl_cons, List.foldl_cons, List.foldl_cons, List.foldl_append]
        change List.foldl step (item.tokens.foldl step (value (.members [] key :: frames))) _ = _
        rw [reads]
        exact foldl_step_laterMembers [(key, item)] others
  | _ => rfl

end Place

/-- A text that spells a value is a document with that value, and nothing after it. -/
theorem Value.Spells.ofText_eq {value : Value} {text : String} (spells : value.Spells text) :
    Source.ofText text = ⟨value, false⟩ := by
  rw [Source.ofText, spells.layout.tokens_eq, Source.ofTokens,
    Place.foldl_step_value spells.isWhole]
  rfl

end Mainboard.Document
