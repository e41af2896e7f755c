import Mainboard.Proofs.Document.Rearrangement

/-!
# Regular readers

A regular reader takes whole values only, and takes no notice of the order of
members.  Readers of plain values are regular, and so are readers of lists and
records that are made of regular readers.
-/

namespace Mainboard.Document

variable {α β : Type} {reader : Reader β}

/-- A reader takes whole values only, and the members of their maps in any order. -/
structure IsRegular (reader : Reader β) : Prop where
  isWhole : ∀ depth value result, Reads reader depth value result → value.IsWhole
  reorder : ∀ depth value other result, Reorders value other → Reads reader depth value result →
    Reads reader depth other result

/-- A whole value with nothing in it. -/
inductive Value.IsPlain : Value → Prop
  | boolean (value : Bool) : IsPlain (.boolean value)
  | number (lexeme : List Char) : IsPlain (.number lexeme)
  | quote (pieces : List Piece) : IsPlain (.quote ⟨pieces, none⟩)

theorem Value.isPlain_of_read {quote : Quote} {text : String} (read : quote.read = .ok text) :
    IsPlain (.quote quote) := by
  obtain ⟨pieces, broken⟩ := quote
  obtain rfl := Quote.broken_of_read read
  exact .quote pieces

theorem isRegular_of_isPlain
    (plain : ∀ depth value result, Reads reader depth value result → value.IsPlain) :
    IsRegular reader where
  isWhole depth value result reads := by
    cases plain depth value result reads with
    | boolean value => exact .boolean value
    | number lexeme => exact .number lexeme
    | quote pieces => exact .quote pieces
  reorder depth value other result reorders reads := by
    cases plain depth value result reads with
    | _ => cases reorders

namespace IsRegular

@[simp]
theorem map {γ : Type} (regular : IsRegular reader) (change : β → γ) :
    IsRegular fun depth value => (reader depth value).map change := by
  constructor
  · intro depth value result reads
    obtain ⟨origin, read, rfl⟩ := Except.map_eq_ok_iff.mp reads
    exact regular.isWhole depth value origin read
  · intro depth value other result reorders reads
    obtain ⟨origin, read, rfl⟩ := Except.map_eq_ok_iff.mp reads
    exact Except.map_eq_ok_iff.mpr ⟨origin, regular.reorder _ _ _ origin reorders read, rfl⟩

end IsRegular

theorem reads_readOptional_iff {depth : Nat} {value : Value} {result : Option β}
    (notNull : value ≠ .null) : Reads (readOptional reader) depth value result ↔
      Reads (fun depth value => (reader depth value).map some) depth value result := by
  cases value with
  | null => exact absurd rfl notNull
  | _ => exact Iff.rfl

theorem Reorders.ne_null {value other : Value} (reorders : Reorders value other) :
    value ≠ .null ∧ other ≠ .null := by
  cases reorders <;> simp

@[simp]
theorem IsRegular.readOptional (regular : IsRegular reader) : IsRegular (readOptional reader) := by
  constructor
  · intro depth value result reads
    by_cases isNull : value = .null
    · rw [isNull]
      exact .null
    · rw [reads_readOptional_iff isNull] at reads
      exact (regular.map some).isWhole depth value result reads
  · intro depth value other result reorders reads
    rw [reads_readOptional_iff reorders.ne_null.1] at reads
    rw [reads_readOptional_iff reorders.ne_null.2]
    exact (regular.map some).reorder depth value other result reorders reads

theorem readItems_eq_ok_iff {depth : Nat} {items : List Value} {results : List β} :
    readItems reader depth items = .ok results ↔
      List.Forall₂ (Reads reader depth) items results := by
  induction items generalizing results with
  | nil => simp [readItems, eq_comm]
  | cons item items ih =>
      rw [readItems, Except.bind_eq_ok_iff, List.forall₂_cons_left_iff]
      constructor
      · rintro ⟨first, read, rest⟩
        obtain ⟨later, reads, done⟩ := Except.bind_eq_ok_iff.mp rest
        exact ⟨first, later, read, ih.mp reads, (Except.ok.inj done).symm⟩
      · rintro ⟨first, later, read, reads, rfl⟩
        exact ⟨first, read, Except.bind_eq_ok_iff.mpr ⟨later, ih.mpr reads, rfl⟩⟩

theorem readList_eq_ok_iff {depth : Nat} {document : Value} {results : List β} :
    Reads (readList reader) depth document results ↔ ∃ items, document = .list items none ∧
      List.Forall₂ (Reads reader (depth + 1)) items results := by
  constructor
  · intro reads
    cases document with
    | list items broken =>
        obtain ⟨values, read, rest⟩ := Except.bind_eq_ok_iff.mp reads
        obtain ⟨closed, done⟩ := Except.andThen_eq_ok_iff.mp rest
        obtain rfl := Except.ok.inj done
        obtain rfl := checkClosed_eq_ok_iff.mp closed
        exact ⟨items, rfl, readItems_eq_ok_iff.mp read⟩
    | _ => cases reads
  · rintro ⟨items, rfl, each⟩
    exact Except.bind_eq_ok_iff.mpr ⟨results, readItems_eq_ok_iff.mpr each, rfl⟩

theorem forall₂_replace {γ δ : Type} {related : γ → δ → Prop} {before after : List γ}
    {item other : γ} {results : List δ}
    (each : List.Forall₂ related (before ++ item :: after) results)
    (keeps : ∀ result, related item result → related other result) :
    List.Forall₂ related (before ++ other :: after) results := by
  induction before generalizing results with
  | nil =>
      obtain ⟨first, later, read, reads, rfl⟩ := List.forall₂_cons_left_iff.mp each
      exact .cons (keeps first read) reads
  | cons head before ih =>
      obtain ⟨first, later, read, reads, rfl⟩ := List.forall₂_cons_left_iff.mp each
      exact .cons read (ih reads)

@[simp]
theorem IsRegular.readList (regular : IsRegular reader) : IsRegular (readList reader) := by
  constructor
  · intro depth value results reads
    obtain ⟨items, rfl, each⟩ := readList_eq_ok_iff.mp reads
    have wholes : List.Forall₂
        (fun item result => item.IsWhole ∧ Reads reader (depth + 1) item result) items results :=
      each.imp fun item result read => ⟨regular.isWhole _ item result read, read⟩
    exact .list ((List.forall₂_and_left _ _).mp wholes).1
  · intro depth value other results reorders reads
    obtain ⟨items, rfl, each⟩ := readList_eq_ok_iff.mp reads
    cases reorders with
    | item inner =>
        exact readList_eq_ok_iff.mpr
          ⟨_, rfl, forall₂_replace each fun result => regular.reorder _ _ _ result inner⟩

/-- What names something is quoted text, or a map from the text to `null`. -/
theorem exists_quote_of_readName {spellings : List (String × β)} {depth : Nat} {value : Value}
    {result : β} (reads : Reads (readName spellings) depth value result) :
    ∃ pieces, value = .quote ⟨pieces, none⟩ ∨ value = .map [(⟨pieces, none⟩, .null)] none := by
  cases value with
  | quote quote =>
      obtain ⟨text, read, -⟩ := Except.bind_eq_ok_iff.mp reads
      obtain ⟨pieces, broken⟩ := quote
      obtain rfl : broken = none := Quote.broken_of_read read
      exact ⟨pieces, .inl rfl⟩
  | map members broken =>
      rcases members with _ | ⟨⟨⟨pieces, closed⟩, value⟩, members⟩
      · cases broken <;> cases reads
      · obtain ⟨text, read, rest⟩ := Except.bind_eq_ok_iff.mp reads
        obtain rfl : closed = none := Quote.broken_of_read read
        obtain ⟨meaning, -, rest⟩ := Except.bind_eq_ok_iff.mp rest
        cases value with
        | null =>
            cases members with
            | nil =>
                obtain ⟨finished, -⟩ := Except.andThen_eq_ok_iff.mp rest
                obtain rfl := checkClosed_eq_ok_iff.mp finished
                exact ⟨pieces, .inr rfl⟩
            | cons member members => cases rest
        | _ => cases rest
  | _ => cases reads

@[simp]
theorem isRegular_readName (spellings : List (String × β)) : IsRegular (readName spellings) := by
  constructor
  · intro depth value result reads
    obtain ⟨pieces, rfl | rfl⟩ := exists_quote_of_readName reads
    · exact .quote pieces
    · exact .map (List.forall_mem_singleton.mpr rfl) (List.forall_mem_singleton.mpr .null)
  · intro depth value other result reorders reads
    obtain ⟨pieces, rfl | rfl⟩ := exists_quote_of_readName reads
    · cases reorders
    · generalize single : [((⟨pieces, none⟩ : Quote), Value.null)] = members at reorders reads
      cases reorders with
      | here perm =>
          rw [← single] at perm reads
          rwa [List.singleton_perm.mp perm] at reads
      | member inner =>
          rcases List.append_eq_singleton_iff.mp single.symm with ⟨rfl, equal⟩ | ⟨-, equal⟩
          · obtain ⟨-, rfl⟩ := Prod.mk.inj (List.cons.inj equal).1
            cases inner
          · cases equal

theorem isRegular_readWhole (limit : Nat) (expected : String) :
    IsRegular (readWhole limit expected) := by
  refine isRegular_of_isPlain fun depth value result reads => ?_
  cases value with
  | number lexeme => exact .number lexeme
  | _ => cases reads

@[simp]
theorem isRegular_readBoolean : IsRegular readBoolean := by
  refine isRegular_of_isPlain fun depth value result reads => ?_
  cases value with
  | boolean value => exact .boolean value
  | _ => cases reads

theorem isRegular_readTextAs (expected : String) : IsRegular (readTextAs expected) := by
  refine isRegular_of_isPlain fun depth value result reads => ?_
  cases value with
  | quote quote => exact Value.isPlain_of_read reads
  | _ => cases reads

@[simp]
theorem isRegular_readAmount (form : AmountForm β) : IsRegular (readAmount form) := by
  refine isRegular_of_isPlain fun depth value result reads => ?_
  cases value with
  | number lexeme => exact .number lexeme
  | quote quote =>
      obtain ⟨text, read, -⟩ := Except.bind_eq_ok_iff.mp reads
      exact Value.isPlain_of_read read
  | _ => cases reads

@[simp]
theorem isRegular_readUInt8 : IsRegular readUInt8 := (isRegular_readWhole _ _).map _

@[simp]
theorem isRegular_readUInt32 : IsRegular readUInt32 := (isRegular_readWhole _ _).map _

@[simp]
theorem isRegular_readUInt64 : IsRegular readUInt64 := (isRegular_readWhole _ _).map _

@[simp]
theorem isRegular_readCount : IsRegular readCount := isRegular_readWhole _ _

@[simp]
theorem isRegular_readText : IsRegular readText := isRegular_readTextAs _

@[simp]
theorem isRegular_readPath : IsRegular readPath := isRegular_readTextAs _

section Records

variable {fields : List (RecordField α)} {depth : Nat} {check : Value → Prop}

theorem Takes.isWhole {record final : Partial α} {members aside : List (Quote × Value)}
    (regular : ∀ field ∈ fields, IsRegular field.read)
    (checks : ∀ value, check value → value.IsWhole)
    (takes : Takes fields depth check record members final aside) :
    Value.IsWhole (.map members none) := by
  suffices each : ∀ member ∈ members, member.1.broken = none ∧ member.2.IsWhole from
    .map (fun member among => (each member among).1) fun member among => (each member among).2
  induction takes with
  | nil => exact List.forall_mem_nil _
  | field named found fresh read later ih =>
      have isWhole := (regular _ (List.mem_of_find?_eq_some found)).isWhole _ _ _ read
      exact List.forall_mem_cons.mpr ⟨⟨Quote.broken_of_read named, isWhole⟩, ih⟩
  | other named unknown checked later ih =>
      exact List.forall_mem_cons.mpr ⟨⟨Quote.broken_of_read named, checks _ checked⟩, ih⟩

theorem Fills.isWhole {items : List Value} {start result : α}
    (regular : ∀ field ∈ fields, IsRegular field.read)
    (fills : Fills depth fields items start result) : ∀ item ∈ items, item.IsWhole := by
  induction fills with
  | done => exact List.forall_mem_nil _
  | absent optional later ih => exact List.forall_mem_nil _
  | item read later ih =>
      obtain ⟨first, others⟩ := List.forall_mem_cons.mp regular
      exact List.forall_mem_cons.mpr ⟨first.isWhole _ _ _ read, ih others⟩

theorem isRegular_readRecord {whole : Record α} (commuting : Commuting whole.fields)
    (regular : ∀ field ∈ whole.fields, IsRegular field.read) : IsRegular (readRecord whole) := by
  constructor
  · intro depth value result reads
    cases value with
    | list items broken =>
        obtain ⟨rfl, fills⟩ := readPositional_eq_ok_iff.mp reads
        exact .list (fills.isWhole regular)
    | map members broken =>
        obtain ⟨rfl, final, aside, takes, -⟩ := readRecord_map_eq_ok_iff.mp reads
        exact takes.isWhole regular fun _ => id
    | _ => cases reads
  · intro depth value other result reorders reads
    cases reorders with
    | here perm =>
        obtain ⟨closed, final, aside, takes, every, rfl⟩ := readRecord_map_eq_ok_iff.mp reads
        obtain ⟨finish, left, takes, same, -⟩ := takes.perm commuting perm
        exact readRecord_map_eq_ok_iff.mpr ⟨closed, finish, left, takes,
          fun field member required => (same.given _).mp (every field member required),
          same.value.symm⟩
    | item inner =>
        obtain ⟨closed, fills⟩ := readPositional_eq_ok_iff.mp reads
        exact readPositional_eq_ok_iff.mpr ⟨closed, fills.replace fun field placed set =>
          (regular field (List.mem_of_getElem? placed)).reorder _ _ _ set inner⟩
    | member inner =>
        obtain ⟨closed, final, aside, takes, every, rfl⟩ := readRecord_map_eq_ok_iff.mp reads
        obtain ⟨left, takes, -⟩ := takes.replace
          (fun field found _ set =>
            (regular field (List.mem_of_find?_eq_some found)).reorder _ _ _ set inner)
          fun _ _ _ => inner.isWhole
        exact readRecord_map_eq_ok_iff.mpr ⟨closed, final, left, takes, every, rfl⟩

theorem isRegular_readNested {whole : Record α} (commuting : Commuting whole.fields)
    (commutingToo : Commuting fields) (regular : ∀ field ∈ whole.fields, IsRegular field.read)
    (regularToo : ∀ field ∈ fields, IsRegular field.read) :
    IsRegular (readNested whole fields) := by
  constructor
  · intro depth value result reads
    obtain ⟨members, given, aside, final, others, rfl, takes, -⟩ := readNested_eq_ok_iff.mp reads
    exact takes.isWhole regular fun _ => Value.IsSmall.isWhole
  · intro depth value other result reorders reads
    obtain ⟨members, given, aside, final, others, rfl, takes, every, takesInner, everyToo, rfl⟩ :=
      readNested_eq_ok_iff.mp reads
    cases reorders with
    | here perm =>
        obtain ⟨finish, left, takes, same, aside⟩ := takes.perm commuting perm
        obtain ⟨last, leftToo, takesInner, sameToo, -⟩ := takesInner.perm commutingToo aside
        rw [same.value] at takesInner
        exact readNested_eq_ok_iff.mpr ⟨_, finish, left, last, leftToo, rfl, takes,
          fun field member required => (same.given _).mp (every field member required), takesInner,
          fun field member required => (sameToo.given _).mp (everyToo field member required),
          sameToo.value.symm⟩
    | member inner =>
        obtain ⟨left, replaced, either⟩ := takes.replace
          (fun field found _ set =>
            (regular field (List.mem_of_find?_eq_some found)).reorder _ _ _ set inner)
          fun _ _ _ => inner.isSmall
        rcases either with rfl | ⟨front, back, rfl, rfl⟩
        · exact readNested_eq_ok_iff.mpr ⟨_, given, left, final, others, rfl, replaced, every,
            takesInner, everyToo, rfl⟩
        · obtain ⟨leftToo, takesInner, -⟩ := takesInner.replace
            (fun field found _ set =>
              (regularToo field (List.mem_of_find?_eq_some found)).reorder _ _ _ set inner)
            fun _ _ _ => inner.isWhole
          exact readNested_eq_ok_iff.mpr ⟨_, given, _, final, leftToo, rfl, replaced, every,
            takesInner, everyToo, rfl⟩

end Records

end Mainboard.Document
