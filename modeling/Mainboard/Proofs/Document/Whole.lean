import Mainboard.Document.Reader
import Mainboard.Proofs.Results

/-!
# Whole values

Values that no reader looks into are checked all the same.  What is skipped has to
be whole.  What is set aside has to be small as well: its texts have to be texts, its
numbers not too large, and not too many lists and maps open around it.
-/

namespace Mainboard.Document

/-- Values are made of the items of lists and the values of members. -/
@[elab_as_elim, induction_eliminator]
theorem Value.ofParts {motive : Value → Prop} (null : motive .null)
    (boolean : ∀ value, motive (.boolean value)) (number : ∀ lexeme, motive (.number lexeme))
    (quote : ∀ quote, motive (.quote quote))
    (list : ∀ items broken, (∀ item ∈ items, motive item) → motive (.list items broken))
    (map : ∀ members broken, (∀ member ∈ members, motive member.2) → motive (.map members broken))
    (brokenWord : ∀ broken, motive (.brokenWord broken))
    (brokenNumber : ∀ broken, motive (.brokenNumber broken))
    (hole : ∀ broken, motive (.hole broken)) (value : Value) : motive value :=
  @Value.rec motive (fun items => ∀ item ∈ items, motive item)
    (fun members => ∀ member ∈ members, motive member.2) (fun member => motive member.2)
    null boolean number quote list map brokenWord brokenNumber hole
    (List.forall_mem_nil _) (fun _ _ first later => List.forall_mem_cons.mpr ⟨first, later⟩)
    (List.forall_mem_nil _) (fun _ _ first later => List.forall_mem_cons.mpr ⟨first, later⟩)
    (fun _ _ value => value) value

/-- Nothing of a value is missing. -/
inductive Value.IsWhole : Value → Prop
  | null : IsWhole .null
  | boolean (value : Bool) : IsWhole (.boolean value)
  | number (lexeme : List Char) : IsWhole (.number lexeme)
  | quote (pieces : List Piece) : IsWhole (.quote ⟨pieces, none⟩)
  | list {items : List Value} (each : ∀ item ∈ items, IsWhole item) : IsWhole (.list items none)
  | map {members : List (Quote × Value)} (keys : ∀ member ∈ members, member.1.broken = none)
      (each : ∀ member ∈ members, IsWhole member.2) : IsWhole (.map members none)

/-- A value that may be kept aside in some room: not more lists and maps are open at once, numbers
are in range, and texts and keys can be read. -/
inductive Value.IsSmall : Nat → Value → Prop
  | null {room : Nat} : IsSmall room .null
  | boolean {room : Nat} (value : Bool) : IsSmall room (.boolean value)
  | number {room : Nat} {lexeme : List Char} {amount : Amount}
      (inRange : Amount.ofLexeme? lexeme = some amount) : IsSmall room (.number lexeme)
  | quote {room : Nat} {quote : Quote} {text : String} (read : quote.read = .ok text) :
      IsSmall room (.quote quote)
  | list {room : Nat} {items : List Value} (each : ∀ item ∈ items, IsSmall room item) :
      IsSmall (room + 1) (.list items none)
  | map {room : Nat} {members : List (Quote × Value)}
      (keys : ∀ member ∈ members, ∃ text, member.1.read = .ok text)
      (each : ∀ member ∈ members, IsSmall room member.2) : IsSmall (room + 1) (.map members none)

section Checks

variable {items : List Value} {members : List (Quote × Value)} {broken : Option Break}
variable {depth : Nat}

theorem checkClosed_eq_ok_iff {broken : Option Break} :
    checkClosed broken = .ok () ↔ broken = none := by
  cases broken with
  | none => exact iff_of_true rfl rfl
  | some how => simp [checkClosed]

theorem skipItems_eq_ok_iff : skipItems items = .ok () ↔ ∀ item ∈ items, skip item = .ok () := by
  induction items with
  | nil => simp [skipItems]
  | cons item items ih =>
      rw [skipItems, Except.andThen_eq_ok_iff, List.forall_mem_cons, ih]

theorem skip_list_eq_ok_iff :
    skip (.list items broken) = .ok () ↔ broken = none ∧ ∀ item ∈ items, skip item = .ok () := by
  rw [skip, Except.andThen_eq_ok_iff, checkClosed_eq_ok_iff, skipItems_eq_ok_iff, and_comm]

theorem skipMembers_eq_ok_iff : skipMembers members = .ok () ↔
    ∀ member ∈ members, member.1.broken = none ∧ skip member.2 = .ok () := by
  induction members with
  | nil => simp [skipMembers]
  | cons member members ih =>
      obtain ⟨key, value⟩ := member
      rw [skipMembers, Except.andThen_eq_ok_iff, Except.andThen_eq_ok_iff, checkClosed_eq_ok_iff,
        List.forall_mem_cons, ih, and_assoc]

theorem skip_map_eq_ok_iff : skip (.map members broken) = .ok () ↔ broken = none ∧
    ∀ member ∈ members, member.1.broken = none ∧ skip member.2 = .ok () := by
  rw [skip, Except.andThen_eq_ok_iff, checkClosed_eq_ok_iff, skipMembers_eq_ok_iff, and_comm]

theorem setItemsAside_eq_ok_iff :
    setItemsAside depth items = .ok () ↔ ∀ item ∈ items, setAside depth item = .ok () := by
  induction items with
  | nil => simp [setItemsAside]
  | cons item items ih =>
      rw [setItemsAside, Except.andThen_eq_ok_iff, List.forall_mem_cons, ih]

theorem setMembersAside_eq_ok_iff : setMembersAside depth members = .ok () ↔
    ∀ member ∈ members, (∃ text, member.1.read = .ok text) ∧ setAside depth member.2 = .ok () := by
  induction members with
  | nil => simp [setMembersAside]
  | cons member members ih =>
      obtain ⟨key, value⟩ := member
      rw [setMembersAside, Except.bind_eq_ok_iff, Except.andThen_eq_ok_iff, List.forall_mem_cons,
        exists_and_right, ih, and_assoc]

theorem checkNesting_eq_ok_iff : checkNesting depth = .ok () ↔ depth < nestingLimit := by
  rw [checkNesting]
  split
  next inside => exact iff_of_true rfl inside
  next outside => exact iff_of_false (by simp) outside

theorem setAside_list_eq_ok_iff : setAside depth (.list items broken) = .ok () ↔
    depth < nestingLimit ∧ broken = none ∧ ∀ item ∈ items, setAside (depth + 1) item = .ok () := by
  rw [setAside, Except.andThen_eq_ok_iff, Except.andThen_eq_ok_iff, checkNesting_eq_ok_iff,
    checkClosed_eq_ok_iff, setItemsAside_eq_ok_iff]
  exact and_congr_right fun _ => and_comm

theorem setAside_map_eq_ok_iff : setAside depth (.map members broken) = .ok () ↔
    depth < nestingLimit ∧ broken = none ∧ ∀ member ∈ members,
      (∃ text, member.1.read = .ok text) ∧ setAside (depth + 1) member.2 = .ok () := by
  rw [setAside, Except.andThen_eq_ok_iff, Except.andThen_eq_ok_iff, checkNesting_eq_ok_iff,
    checkClosed_eq_ok_iff, setMembersAside_eq_ok_iff]
  exact and_congr_right fun _ => and_comm

end Checks

theorem broken_of_readPieces {broken : Option Break} {pieces : List Piece} {text : List Char}
    (read : readPieces broken pieces = .ok text) : broken = none := by
  have ofRest : ∀ {rest : List Piece} {change : List Char → List Char} {text : List Char},
      (∀ {text : List Char}, readPieces broken rest = .ok text → broken = none) →
      (readPieces broken rest).map change = .ok text → broken = none := by
    intro rest change text closed read
    obtain ⟨others, later, -⟩ := Except.map_eq_ok_iff.mp read
    exact closed later
  fun_induction readPieces broken pieces generalizing text with
  | case1 closed => exact closed
  | case3 _ _ ih => exact ofRest ih read
  | case5 _ _ _ _ _ _ ih => exact ofRest ih read
  | case7 _ _ _ _ _ ih => exact ofRest ih read
  | case11 _ _ _ _ _ ih => exact ofRest ih read
  | _ => cases read

theorem Quote.broken_of_read {quote : Quote} {text : String} (read : quote.read = .ok text) :
    quote.broken = none := by
  obtain ⟨characters, pieces, -⟩ := Except.map_eq_ok_iff.mp read
  exact broken_of_readPieces pieces

section Values

variable {value : Value} {depth room : Nat}

theorem skip_eq_ok_iff : skip value = .ok () ↔ value.IsWhole := by
  constructor
  · intro skipped
    induction value with
    | null => exact .null
    | boolean value => exact .boolean value
    | number lexeme => exact .number lexeme
    | quote quote =>
        obtain ⟨pieces, broken⟩ := quote
        obtain rfl := checkClosed_eq_ok_iff.mp skipped
        exact .quote pieces
    | list items broken ih =>
        obtain ⟨rfl, each⟩ := skip_list_eq_ok_iff.mp skipped
        exact .list fun item among => ih item among (each item among)
    | map members broken ih =>
        obtain ⟨rfl, each⟩ := skip_map_eq_ok_iff.mp skipped
        exact .map (fun member among => (each member among).1)
          fun member among => ih member among (each member among).2
    | _ => cases skipped
  · intro isWhole
    induction isWhole with
    | list each ih => exact skip_list_eq_ok_iff.mpr ⟨rfl, ih⟩
    | map keys each ih =>
        exact skip_map_eq_ok_iff.mpr
          ⟨rfl, fun member among => ⟨keys member among, ih member among⟩⟩
    | _ => rfl

theorem setAside_eq_ok_iff :
    setAside depth value = .ok () ↔ value.IsSmall (nestingLimit - depth) := by
  constructor
  · intro set
    induction value generalizing depth with
    | null => exact .null
    | boolean value => exact .boolean value
    | number lexeme =>
        rw [setAside] at set
        split at set
        next inRange =>
          obtain ⟨amount, inRange⟩ := Option.isSome_iff_exists.mp inRange
          exact .number inRange
        next outOfRange => cases set
    | quote quote =>
        obtain ⟨text, read, -⟩ := Except.bind_eq_ok_iff.mp set
        exact .quote read
    | list items broken ih =>
        obtain ⟨nested, rfl, each⟩ := setAside_list_eq_ok_iff.mp set
        obtain ⟨room, more⟩ := Nat.exists_eq_succ_of_ne_zero (Nat.sub_ne_zero_of_lt nested)
        have less : nestingLimit - (depth + 1) = room := by omega
        rw [more]
        exact .list fun item among => less ▸ ih item among (each item among)
    | map members broken ih =>
        obtain ⟨nested, rfl, each⟩ := setAside_map_eq_ok_iff.mp set
        obtain ⟨room, more⟩ := Nat.exists_eq_succ_of_ne_zero (Nat.sub_ne_zero_of_lt nested)
        have less : nestingLimit - (depth + 1) = room := by omega
        rw [more]
        exact .map (fun member among => (each member among).1)
          fun member among => less ▸ ih member among (each member among).2
    | _ => cases set
  · generalize same : nestingLimit - depth = room
    intro isSmall
    induction isSmall generalizing depth with
    | number inRange => simp [setAside, inRange]
    | quote read => exact Except.bind_eq_ok_iff.mpr ⟨_, read, rfl⟩
    | list each ih =>
        refine setAside_list_eq_ok_iff.mpr ⟨by omega, rfl, fun item among => ?_⟩
        exact ih item among (by omega)
    | map keys each ih =>
        refine setAside_map_eq_ok_iff.mpr
          ⟨by omega, rfl, fun member among => ⟨keys member among, ?_⟩⟩
        exact ih member among (by omega)
    | _ => rfl

theorem Value.IsSmall.isWhole (isSmall : value.IsSmall room) : value.IsWhole := by
  induction isSmall with
  | null => exact .null
  | boolean value => exact .boolean value
  | number inRange => exact .number _
  | @quote room quote text read =>
      obtain ⟨pieces, broken⟩ := quote
      obtain rfl := Quote.broken_of_read read
      exact .quote pieces
  | list each ih => exact .list ih
  | map keys each ih =>
      refine .map (fun member among => ?_) ih
      obtain ⟨text, read⟩ := keys member among
      exact Quote.broken_of_read read

end Values

end Mainboard.Document
