import Mainboard.Proofs.Document.Regularity
import Mainboard.Proofs.Document.Scanning
import Mainboard.Proofs.Document.Spelling

/-!
# Tokens that values are parsed from

The converse of spelling a value: if a text is a document with a whole value, and
nothing after it, the text spells the value.  The tokens that are left to parse are
what is expected at the place that was reached.
-/

namespace Mainboard.Document

/-- The tokens after a value that was delivered, up to the end of a document. -/
def Completes (root : Value) : List Frame → Value → List Token → Prop
  | [], value, left => left = [] ∧ value = root
  | .items before :: frames, item, left => ∃ items more, left = laterItems items ++ more ∧
      Completes root frames (.list ((item :: before).reverse ++ items) none) more
  | .members before key :: frames, value, left => ∃ members more,
      left = laterMembers members ++ more ∧
        Completes root frames (.map (((key, value) :: before).reverse ++ members) none) more

namespace Place

variable {root : Value} {frames : List Frame} {left : List Token} {token : Token}

/-- What is left of the tokens at a place, if they make up a value. -/
def Expects (root : Value) (left : List Token) : Place → Prop
  | value frames => ∃ item more, left = item.tokens ++ more ∧ Completes root frames item more
  | firstItem frames => ∃ items more,
      .openBracket :: left = (Value.list items none).tokens ++ more ∧
        Completes root frames (.list items none) more
  | firstKey frames => ∃ members more,
      .openBrace :: left = (Value.map members none).tokens ++ more ∧
        Completes root frames (.map members none) more
  | nextKey frames before => ∃ key item members more,
      left = .quote key :: .colon :: (item.tokens ++ (laterMembers members ++ more)) ∧
        Completes root frames (.map (before.reverse ++ (key, item) :: members) none) more
  | colon frames before key => ∃ item members more,
      left = .colon :: (item.tokens ++ (laterMembers members ++ more)) ∧
        Completes root frames (.map (before.reverse ++ (key, item) :: members) none) more
  | afterItem frames before => ∃ items more, left = laterItems items ++ more ∧
      Completes root frames (.list (before.reverse ++ items) none) more
  | afterMember frames before => ∃ members more, left = laterMembers members ++ more ∧
      Completes root frames (.map (before.reverse ++ members) none) more
  | complete item => left = [] ∧ item = root
  | settled item trailing => item = root ∧ trailing = false

theorem expects_deliver {item : Value} (expects : (deliver frames item).Expects root left) :
    Completes root frames item left := by
  rcases frames with _ | ⟨_ | _, frames⟩ <;> exact expects

theorem not_isWhole_collapse {item : Value} (missing : ¬ item.IsWhole) :
    ¬ (collapse frames item).IsWhole := by
  induction frames generalizing item with
  | nil => exact missing
  | cons frame frames ih =>
      apply ih
      cases frame with
      | _ => rintro ⟨⟩

/-- A document that breaks off is not whole. -/
theorem not_expects_giveUp {item : Value} (missing : ¬ item.IsWhole) (isWhole : root.IsWhole) :
    ¬ (giveUp frames item).Expects root left := by
  rintro ⟨rfl, -⟩
  exact not_isWhole_collapse missing isWhole

theorem expects_takeValue (isWhole : root.IsWhole)
    (expects : (takeValue frames token).Expects root left) :
    (value frames).Expects root (token :: left) := by
  have broken : ∀ {item : Value}, ¬ item.IsWhole → (giveUp frames item).Expects root left →
      (value frames).Expects root (token :: left) :=
    fun missing expects => absurd expects (not_expects_giveUp missing isWhole)
  cases token with
  | openBracket =>
      obtain ⟨items, more, same, completes⟩ := expects
      exact ⟨.list items none, more, same, completes⟩
  | openBrace =>
      obtain ⟨members, more, same, completes⟩ := expects
      exact ⟨.map members none, more, same, completes⟩
  | null => exact ⟨.null, left, rfl, expects_deliver expects⟩
  | boolean truth => exact ⟨.boolean truth, left, rfl, expects_deliver expects⟩
  | number lexeme => exact ⟨.number lexeme, left, rfl, expects_deliver expects⟩
  | quote text => exact ⟨.quote text, left, rfl, expects_deliver expects⟩
  | _ => exact broken (by rintro ⟨⟩) expects

theorem expects_takeKey {before : List (Quote × Value)} (isWhole : root.IsWhole)
    (expects : (takeKey frames before token).Expects root left) :
    (nextKey frames before).Expects root (token :: left) := by
  cases token with
  | quote key =>
      obtain ⟨item, members, more, rfl, completes⟩ := expects
      exact ⟨key, item, members, more, rfl, completes⟩
  | _ => exact absurd expects (not_expects_giveUp (by rintro ⟨⟩) isWhole)

theorem expects_firstItem (expects : (value (.items [] :: frames)).Expects root left) :
    (firstItem frames).Expects root left := by
  obtain ⟨item, _, rfl, items, more, rfl, completes⟩ := expects
  refine ⟨item :: items, more, ?_, completes⟩
  rw [Value.tokens, List.cons_append, List.append_assoc]

theorem expects_firstKey (expects : (nextKey frames []).Expects root left) :
    (firstKey frames).Expects root left := by
  obtain ⟨key, item, members, more, rfl, completes⟩ := expects
  refine ⟨(key, item) :: members, more, ?_, completes⟩
  rw [Value.tokens, List.cons_append, List.cons_append, List.cons_append, List.append_assoc]

/-- What is expected after a token is expected behind it at the place before. -/
theorem expects_step {place : Place} (isWhole : root.IsWhole)
    (expects : (place.step token).Expects root left) : place.Expects root (token :: left) := by
  cases place with
  | value frames => exact expects_takeValue isWhole expects
  | firstItem frames =>
      cases token with
      | closeBracket => exact ⟨[], left, rfl, expects_deliver expects⟩
      | _ => exact expects_firstItem (expects_takeValue isWhole expects)
  | firstKey frames =>
      cases token with
      | closeBrace => exact ⟨[], left, rfl, expects_deliver expects⟩
      | _ => exact expects_firstKey (expects_takeKey isWhole expects)
  | nextKey frames before => exact expects_takeKey isWhole expects
  | colon frames before key =>
      cases token with
      | colon =>
          obtain ⟨item, _, rfl, members, more, rfl, completes⟩ := expects
          rw [List.reverse_cons, List.append_assoc] at completes
          exact ⟨item, members, more, rfl, completes⟩
      | _ => exact absurd expects (not_expects_giveUp (by rintro ⟨⟩) isWhole)
  | afterItem frames before =>
      cases token with
      | comma =>
          obtain ⟨item, _, rfl, items, more, rfl, completes⟩ := expects
          rw [List.reverse_cons, List.append_assoc] at completes
          refine ⟨item :: items, more, ?_, completes⟩
          rw [laterItems, List.cons_append, List.append_assoc]
      | closeBracket =>
          refine ⟨[], left, rfl, ?_⟩
          rw [List.append_nil]
          exact expects_deliver expects
      | _ => exact absurd expects (not_expects_giveUp (by rintro ⟨⟩) isWhole)
  | afterMember frames before =>
      cases token with
      | comma =>
          obtain ⟨key, item, members, more, rfl, completes⟩ := expects
          refine ⟨(key, item) :: members, more, ?_, completes⟩
          rw [laterMembers, List.cons_append, List.cons_append, List.cons_append,
            List.append_assoc]
      | closeBrace =>
          refine ⟨[], left, rfl, ?_⟩
          rw [List.append_nil]
          exact expects_deliver expects
      | _ => exact absurd expects (not_expects_giveUp (by rintro ⟨⟩) isWhole)
  | complete item => cases expects.2
  | settled item trailing => exact expects

theorem expects_finish {place : Place} (isWhole : root.IsWhole)
    (finish : place.finish = ⟨root, false⟩) : place.Expects root [] := by
  cases place with
  | complete item =>
      obtain ⟨rfl, -⟩ := Source.mk.inj finish
      exact ⟨rfl, rfl⟩
  | settled item trailing => exact Source.mk.inj finish
  | _ =>
      obtain ⟨rfl, -⟩ := Source.mk.inj finish
      exact absurd isWhole (not_isWhole_collapse (by rintro ⟨⟩))

/-- The tokens that are left are expected. -/
theorem expects_of_foldl (isWhole : root.IsWhole) (left : List Token) {place : Place}
    (finish : (left.foldl step place).finish = ⟨root, false⟩) : place.Expects root left := by
  induction left generalizing place with
  | nil => exact expects_finish isWhole finish
  | cons token left ih => exact expects_step isWhole (ih finish)

end Place

theorem tokens_eq_of_ofTokens {found : List Token} {root : Value} (isWhole : root.IsWhole)
    (source : Source.ofTokens found = ⟨root, false⟩) : found = root.tokens := by
  obtain ⟨item, more, rfl, rfl, rfl⟩ := Place.expects_of_foldl isWhole found source
  exact List.append_nil _

theorem Token.isWhole_laterItems {items : List Value}
    (each : ∀ item ∈ items, ∀ token ∈ item.tokens, token.IsWhole) :
    ∀ token ∈ laterItems items, token.IsWhole := by
  induction items with
  | nil => exact List.forall_mem_singleton.mpr trivial
  | cons item items ih =>
      obtain ⟨first, others⟩ := List.forall_mem_cons.mp each
      exact List.forall_mem_cons.mpr ⟨trivial, List.forall_mem_append.mpr ⟨first, ih others⟩⟩

theorem Token.isWhole_laterMembers {members : List (Quote × Value)}
    (keys : ∀ member ∈ members, member.1.broken = none)
    (each : ∀ member ∈ members, ∀ token ∈ member.2.tokens, token.IsWhole) :
    ∀ token ∈ laterMembers members, token.IsWhole := by
  induction members with
  | nil => exact List.forall_mem_singleton.mpr trivial
  | cons member members ih =>
      obtain ⟨key, otherKeys⟩ := List.forall_mem_cons.mp keys
      obtain ⟨first, others⟩ := List.forall_mem_cons.mp each
      have later := List.forall_mem_append.mpr ⟨first, ih otherKeys others⟩
      simpa [laterMembers, Token.IsWhole, key] using later

/-- The tokens of a whole value are whole. -/
theorem Value.IsWhole.tokens {value : Value} (isWhole : value.IsWhole) :
    ∀ token ∈ value.tokens, token.IsWhole := by
  induction isWhole with
  | @list items each ih =>
      have later := Token.isWhole_laterItems ih
      cases items with
      | nil => simp [Value.tokens, Token.IsWhole]
      | cons item items =>
          exact List.forall_mem_cons.mpr ⟨trivial, (List.forall_mem_cons.mp later).2⟩
  | @map members keys each ih =>
      have later := Token.isWhole_laterMembers keys ih
      rcases members with _ | ⟨⟨key, item⟩, members⟩
      · simp [Value.tokens, Token.IsWhole]
      · exact List.forall_mem_cons.mpr ⟨trivial, (List.forall_mem_cons.mp later).2⟩
  | quote pieces => exact List.forall_mem_singleton.mpr rfl
  | _ => exact List.forall_mem_singleton.mpr trivial

/-- A text spells a value exactly if it is a document with that value, nothing of which is missing,
and nothing after it. -/
theorem Value.spells_iff {value : Value} {text : String} :
    value.Spells text ↔ value.IsWhole ∧ Source.ofText text = ⟨value, false⟩ := by
  constructor
  · intro spells
    exact ⟨spells.isWhole, spells.ofText_eq⟩
  · rintro ⟨isWhole, source⟩
    have same := tokens_eq_of_ofTokens isWhole source
    have layout := layout_tokens (same ▸ isWhole.tokens)
    rw [same] at layout
    exact ⟨isWhole, layout⟩

/-- What is read from a text is read from a value that the text spells. -/
theorem readDocument_eq_ok_iff {α : Type} {reader : Reader α} (regular : IsRegular reader)
    {text : String} {result : α} : readDocument reader text = .ok result ↔
      ∃ document : Value, document.Spells text ∧ Reads reader 0 document result := by
  rw [readDocument]
  constructor
  · intro read
    obtain ⟨value, reads, rest⟩ := Except.bind_eq_ok_iff.mp read
    rcases source : Source.ofText text with ⟨root, trailing⟩
    rw [source] at reads rest
    cases trailing with
    | true => cases rest
    | false =>
        obtain rfl := Except.ok.inj rest
        exact ⟨root, Value.spells_iff.mpr ⟨regular.isWhole 0 root value reads, source⟩, reads⟩
  · rintro ⟨document, spells, reads⟩
    rw [spells.ofText_eq]
    exact Except.bind_eq_ok_iff.mpr ⟨result, reads, rfl⟩

end Mainboard.Document
