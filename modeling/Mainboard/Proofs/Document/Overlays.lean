import Mainboard.Proofs.Document.Members

/-!
# Records laid over their defaults

A field replaces one part of its record and leaves the others alone.  So each part
of a record that is read is what its own field says, where a document gives one,
and else the part of the default.
-/

namespace Mainboard.Document

variable {α β : Type}

/-- A reader gives a value for what stands in a document. -/
def Reads (reader : Reader β) (depth : Nat) (document : Value) (result : β) : Prop :=
  reader depth document = .ok result

/-- Some member has a name and a value. -/
def Names (members : List (Quote × Value)) (name : String) (value : Value) : Prop :=
  ∃ key, (key, value) ∈ members ∧ key.read = .ok name

theorem names_cons_iff {members : List (Quote × Value)} {key : Quote} {name : String}
    {value other : Value} : Names ((key, value) :: members) name other ↔
      (other = value ∧ key.read = .ok name) ∨ Names members name other := by
  constructor
  · rintro ⟨second, member, named⟩
    rcases List.mem_cons.mp member with equal | member
    · obtain ⟨rfl, rfl⟩ := Prod.mk.inj equal
      exact .inl ⟨rfl, named⟩
    · exact .inr ⟨second, member, named⟩
  · rintro (⟨rfl, named⟩ | ⟨second, member, named⟩)
    · exact ⟨key, List.mem_cons_self, named⟩
    · exact ⟨second, List.mem_cons_of_mem _ member, named⟩

theorem names_cons_of_ne {members : List (Quote × Value)} {key : Quote} {name : String}
    {value : Value} (differs : key.read ≠ .ok name) :
    Names ((key, value) :: members) name = Names members name := by
  funext other
  rw [names_cons_iff, eq_iff_iff, or_iff_right]
  exact fun named => differs named.2

/-- A document gives a value to the field with a name: in a map by the name, in a list by the
place of the field. -/
inductive Gives (fields : List (RecordField α)) (name : String) : Value → Value → Prop
  | member {members : List (Quote × Value)} {broken : Option Break} {value : Value}
      (names : Names members name value) : Gives fields name (.map members broken) value
  | item {items : List Value} {broken : Option Break} {value : Value}
      (placed : (name, value) ∈ (fields.map (·.name)).zip items) :
      Gives fields name (.list items broken) value

/-- A part of a record is what is read from the value that is given for it, or else the standard. -/
structure Overlays (given : Value → Prop) (reads : Value → β → Prop) (standard part : β) :
    Prop where
  of_given : ∀ value, given value → reads value part
  of_not_given : (∀ value, ¬ given value) → part = standard

theorem Overlays.imp {given : Value → Prop} {reads means : Value → β → Prop}
    {standard part : β} (overlays : Overlays given reads standard part)
    (stronger : ∀ value result, reads value result → means value result) :
    Overlays given means standard part where
  of_given value isGiven := stronger value part (overlays.of_given value isGiven)
  of_not_given := overlays.of_not_given

/-- A part of a record is what a document gives under a name, or else the part of the standard. -/
def LaidOver (fields : List (RecordField α)) (depth : Nat) (document : Value)
    (standard result : α) (name : String) (means : Nat → Value → β → Prop) (part : α → β) : Prop :=
  Overlays (Gives fields name document) (means (depth + 1)) (part standard) (part result)

/-- A part of a record is what a document has to give under a name. -/
structure Demanded (fields : List (RecordField α)) (depth : Nat) (document : Value) (result : α)
    (name : String) (means : Nat → Value → β → Prop) (part : α → β) : Prop where
  isGiven : ∃ value, Gives fields name document value
  of_given : ∀ value, Gives fields name document value → means (depth + 1) value (part result)

namespace RecordField

/-- A field has nothing to do with a part of the record. -/
def Leaves (field : RecordField α) (part : α → β) : Prop :=
  ∀ depth value set, field.read depth value = .ok set → ∀ whole, part (set whole) = part whole

/-- A field replaces a part of the record by what a reader gives. -/
def Sets (field : RecordField α) (reader : Reader β) (part : α → β) : Prop :=
  ∀ depth value set, field.read depth value = .ok set →
    ∃ result, Reads reader depth value result ∧ ∀ whole, part (set whole) = result

variable {γ : Type} {name : String} {required : Bool} {part : α → β}

@[simp]
theorem optional_eq (reader : Reader γ) (set : γ → α → α) : optional name reader set =
    ⟨name, false, fun depth value => (reader depth value).map set⟩ :=
  rfl

@[simp]
theorem mandatory_eq (reader : Reader γ) (set : γ → α → α) : mandatory name reader set =
    ⟨name, true, fun depth value => (reader depth value).map set⟩ :=
  rfl

@[simp]
theorem leaves_mk {reader : Reader γ} {set : γ → α → α}
    (keeps : ∀ value whole, part (set value whole) = part whole) :
    Leaves ⟨name, required, fun depth value => (reader depth value).map set⟩ part := by
  intro depth value change read
  obtain ⟨result, -, rfl⟩ := Except.map_eq_ok_iff.mp read
  exact keeps result

@[simp]
theorem sets_mk {reader : Reader β} {set : β → α → α}
    (replaces : ∀ value whole, part (set value whole) = value) :
    Sets ⟨name, required, fun depth value => (reader depth value).map set⟩ reader part := by
  intro depth value change read
  obtain ⟨result, reads, rfl⟩ := Except.map_eq_ok_iff.mp read
  exact ⟨result, reads, replaces result⟩

end RecordField

/-- None of the fields has a name or sets a part of the record. -/
inductive Spares (name : String) (part : α → β) : List (RecordField α) → Prop
  | nil : Spares name part []
  | cons {field : RecordField α} {fields : List (RecordField α)} (differs : field.name ≠ name)
      (leaves : field.Leaves part) (others : Spares name part fields) :
      Spares name part (field :: fields)

/-- One of the fields has a name and sets a part of the record, by what a reader gives. -/
inductive Shows (name : String) (reader : Reader β) (part : α → β) :
    List (RecordField α) → Prop
  | here {field : RecordField α} {fields : List (RecordField α)} (named : field.name = name)
      (sets : field.Sets reader part) (others : Spares name part fields) :
      Shows name reader part (field :: fields)
  | later {field : RecordField α} {fields : List (RecordField α)} (differs : field.name ≠ name)
      (leaves : field.Leaves part) (others : Shows name reader part fields) :
      Shows name reader part (field :: fields)

section Parts

variable {fields : List (RecordField α)} {name : String} {reader : Reader β} {part : α → β}
variable {depth : Nat} {check : Value → Prop} {record final : Partial α}
variable {members aside : List (Quote × Value)}

@[simp]
theorem spares_nil : Spares name part ([] : List (RecordField α)) :=
  .nil

@[simp]
theorem spares_cons_iff {field : RecordField α} : Spares name part (field :: fields) ↔
    field.name ≠ name ∧ field.Leaves part ∧ Spares name part fields := by
  constructor
  · rintro (_ | ⟨differs, leaves, others⟩)
    exact ⟨differs, leaves, others⟩
  · rintro ⟨differs, leaves, others⟩
    exact .cons differs leaves others

@[simp]
theorem shows_cons_iff {field : RecordField α} : Shows name reader part (field :: fields) ↔
    (field.name = name ∧ field.Sets reader part ∧ Spares name part fields) ∨
      (field.name ≠ name ∧ field.Leaves part ∧ Shows name reader part fields) := by
  constructor
  · rintro (⟨named, sets, others⟩ | ⟨differs, leaves, shown⟩)
    · exact .inl ⟨named, sets, others⟩
    · exact .inr ⟨differs, leaves, shown⟩
  · rintro (⟨named, sets, others⟩ | ⟨differs, leaves, shown⟩)
    · exact .here named sets others
    · exact .later differs leaves shown

theorem Spares.of_mem (spares : Spares name part fields) {field : RecordField α}
    (member : field ∈ fields) : field.name ≠ name ∧ field.Leaves part := by
  induction spares with
  | nil => cases member
  | cons differs leaves others ih =>
      rcases List.mem_cons.mp member with rfl | member
      · exact ⟨differs, leaves⟩
      · exact ih member

theorem Shows.of_mem (shown : Shows name reader part fields) {field : RecordField α}
    (member : field ∈ fields) : (field.name = name → field.Sets reader part) ∧
      (field.name ≠ name → field.Leaves part) := by
  induction shown with
  | here named sets others =>
      rcases List.mem_cons.mp member with rfl | member
      · exact ⟨fun _ => sets, fun differs => absurd named differs⟩
      · obtain ⟨differs, leaves⟩ := others.of_mem member
        exact ⟨fun same => absurd same differs, fun _ => leaves⟩
  | later differs leaves shown ih =>
      rcases List.mem_cons.mp member with rfl | member
      · exact ⟨fun same => absurd same differs, fun _ => leaves⟩
      · exact ih member

theorem Shows.mem_names (shown : Shows name reader part fields) :
    ∃ field ∈ fields, field.name = name := by
  induction shown with
  | here named sets others => exact ⟨_, List.mem_cons_self, named⟩
  | later differs leaves shown ih =>
      obtain ⟨field, member, named⟩ := ih
      exact ⟨field, List.mem_cons_of_mem _ member, named⟩

theorem Takes.part_of_spares (spares : Spares name part fields)
    (takes : Takes fields depth check record members final aside) :
    part final.value = part record.value := by
  induction takes with
  | nil => rfl
  | field named found fresh read later ih =>
      rw [ih]
      exact (spares.of_mem (List.mem_of_find?_eq_some found)).2 _ _ _ read _
  | other named unknown checked later ih => exact ih

/-- A field that is given is not given again, and sets its part. -/
theorem Takes.overlays (shown : Shows name reader part fields)
    (takes : Takes fields depth check record members final aside) :
    (name ∈ record.given → ∀ value, ¬ Names members name value) ∧
      Overlays (Names members name) (Reads reader depth) (part record.value)
        (part final.value) := by
  induction takes with
  | nil => exact ⟨by simp [Names], by simp [Names], fun _ => rfl⟩
  | @field record final members aside key value field set named found fresh read later ih =>
      obtain ⟨once, ofGiven, ofNotGiven⟩ := ih
      obtain ⟨sets, leaves⟩ := shown.of_mem (List.mem_of_find?_eq_some found)
      by_cases same : field.name = name
      · subst same
        obtain ⟨result, reads, replaces⟩ := sets rfl _ _ _ read
        have gone := once List.mem_cons_self
        have settled : part final.value = result := (ofNotGiven gone).trans (replaces _)
        refine ⟨fun given => absurd given fresh, ?_, ?_⟩
        · intro other names
          rcases names_cons_iff.mp names with ⟨rfl, -⟩ | again
          · rw [settled]
            exact reads
          · exact absurd again (gone other)
        · intro nothing
          exact absurd (names_cons_iff.mpr (.inl ⟨rfl, named⟩)) (nothing value)
      · have differs : key.read ≠ .ok name := by
          rw [named]
          exact fun equal => same (Except.ok.inj equal)
        rw [names_cons_of_ne differs]
        exact ⟨fun given => once (List.mem_cons_of_mem _ given), ofGiven,
          fun nothing => (ofNotGiven nothing).trans (leaves same _ _ _ read _)⟩
  | @other record final members aside key value stranger named unknown checked later ih =>
      have differs : key.read ≠ .ok name := by
        rw [named]
        rintro equal
        obtain rfl := Except.ok.inj equal
        obtain ⟨field, member, same⟩ := shown.mem_names
        simpa [same] using List.find?_eq_none.mp unknown field member
      rw [names_cons_of_ne differs]
      exact ih

/-- What is put aside are the members that name no field. -/
theorem Takes.names_aside (takes : Takes fields depth check record members final aside)
    (unknown : ∀ field ∈ fields, field.name ≠ name) : Names aside name = Names members name := by
  induction takes with
  | nil => rfl
  | @field record final members aside key value field set named found fresh read later ih =>
      have differs : key.read ≠ .ok name := by
        rw [named]
        exact fun equal =>
          unknown field (List.mem_of_find?_eq_some found) (Except.ok.inj equal)
      rw [ih, names_cons_of_ne differs]
  | other named stranger checked later ih =>
      funext value
      rw [eq_iff_iff, names_cons_iff, names_cons_iff, ih]

theorem Fills.part_of_spares {items : List Value} {start result : α}
    (spares : Spares name part fields) (fills : Fills depth fields items start result) :
    part result = part start := by
  induction fills with
  | done => rfl
  | absent optional later ih =>
      cases spares with
      | cons differs leaves others => exact ih others
  | item read later ih =>
      cases spares with
      | cons differs leaves others => rw [ih others, leaves _ _ _ read]

theorem Spares.notMem_zip (spares : Spares name part fields) (items : List Value) (value : Value) :
    (name, value) ∉ (fields.map (·.name)).zip items := by
  intro placed
  obtain ⟨field, member, same⟩ := List.mem_map.mp (List.of_mem_zip placed).1
  exact (spares.of_mem member).1 same

/-- The item at the place of a field sets its part. -/
theorem Fills.overlays {items : List Value} {start result : α}
    (shown : Shows name reader part fields) (fills : Fills depth fields items start result) :
    Overlays (fun value => (name, value) ∈ (fields.map (·.name)).zip items) (Reads reader depth)
      (part start) (part result) := by
  induction fills with
  | done => cases shown
  | @absent field fields value result optional later ih =>
      refine ⟨by simp, fun _ => ?_⟩
      cases shown with
      | here named sets others => exact later.part_of_spares others
      | later differs leaves shown => exact (ih shown).of_not_given (by simp)
  | @item field fields item items set value result read later ih =>
      rw [List.map_cons, List.zip_cons_cons]
      cases shown with
      | here named sets others =>
          subst named
          obtain ⟨read, reads, replaces⟩ := sets _ _ _ read
          have settled : part result = read := (later.part_of_spares others).trans (replaces _)
          refine ⟨fun other placed => ?_, fun nothing => ?_⟩
          · rcases List.mem_cons.mp placed with equal | placed
            · obtain ⟨-, rfl⟩ := Prod.mk.inj equal
              rw [settled]
              exact reads
            · exact absurd placed (others.notMem_zip items other)
          · exact absurd List.mem_cons_self (nothing item)
      | later differs leaves shown =>
          obtain ⟨ofGiven, ofNotGiven⟩ := ih shown
          have skips : ∀ other,
              (name, other) ∈ (field.name, item) :: (fields.map (·.name)).zip items ↔
                (name, other) ∈ (fields.map (·.name)).zip items := by
            intro other
            rw [List.mem_cons, or_iff_right]
            exact fun equal => differs (Prod.mk.inj equal).1.symm
          simp only [skips]
          exact ⟨ofGiven, fun nothing => (ofNotGiven nothing).trans (leaves _ _ _ read _)⟩

/-- What is given was given before, or by some member. -/
theorem Takes.names_of_given (takes : Takes fields depth check record members final aside)
    (given : name ∈ final.given) : name ∈ record.given ∨ ∃ value, Names members name value := by
  induction takes with
  | nil => exact .inl given
  | @field record final members aside key value field set named found fresh read later ih =>
      rcases ih given with before | ⟨other, names⟩
      · rcases List.mem_cons.mp before with rfl | before
        · exact .inr ⟨value, names_cons_iff.mpr (.inl ⟨rfl, named⟩)⟩
        · exact .inl before
      · exact .inr ⟨other, names_cons_iff.mpr (.inr names)⟩
  | other named unknown checked later ih =>
      rcases ih given with before | ⟨other, names⟩
      · exact .inl before
      · exact .inr ⟨other, names_cons_iff.mpr (.inr names)⟩

theorem Fills.exists_placed {items : List Value} {start result : α}
    (fills : Fills depth fields items start result) {field : RecordField α}
    (member : field ∈ fields) (required : field.required) :
    ∃ value, (field.name, value) ∈ (fields.map (·.name)).zip items := by
  induction fills with
  | done => cases member
  | absent optional later ih =>
      rcases List.mem_cons.mp member with rfl | member
      · exact absurd required (Bool.eq_false_iff.mp optional)
      · obtain ⟨value, placed⟩ := ih member
        rw [List.zip_nil_right] at placed
        cases placed
  | item read later ih =>
      rw [List.map_cons, List.zip_cons_cons]
      rcases List.mem_cons.mp member with rfl | member
      · exact ⟨_, List.mem_cons_self⟩
      · obtain ⟨value, placed⟩ := ih member
        exact ⟨value, List.mem_cons_of_mem _ placed⟩

variable {whole : Record α} {document : Value} {standard result : α}

/-- Each field of a record sets its part. -/
theorem laidOver_of_readRecord (shown : Shows name reader part whole.fields)
    (same : whole.default = standard) (read : Reads (readRecord whole) depth document result) :
    LaidOver whole.fields depth document standard result name (Reads reader) part := by
  subst same
  cases document with
  | list items broken =>
      obtain ⟨-, fills⟩ := readPositional_eq_ok_iff.mp read
      obtain ⟨ofGiven, ofNotGiven⟩ := fills.overlays shown
      refine ⟨?_, fun nothing => ofNotGiven fun value placed => nothing value (.item placed)⟩
      rintro value (_ | placed)
      exact ofGiven value placed
  | map members broken =>
      obtain ⟨-, final, aside, takes, -, rfl⟩ := readRecord_map_eq_ok_iff.mp read
      obtain ⟨ofGiven, ofNotGiven⟩ := (takes.overlays shown).2
      refine ⟨?_, fun nothing => ofNotGiven fun value names => nothing value (.member names)⟩
      rintro value (names | _)
      exact ofGiven value names
  | _ => cases read

/-- A record without a required field is refused. -/
theorem exists_gives_of_readRecord {field : RecordField α} (member : field ∈ whole.fields)
    (required : field.required) (read : Reads (readRecord whole) depth document result) :
    ∃ value, Gives whole.fields field.name document value := by
  cases document with
  | list items broken =>
      obtain ⟨-, fills⟩ := readPositional_eq_ok_iff.mp read
      obtain ⟨value, placed⟩ := fills.exists_placed member required
      exact ⟨value, .item placed⟩
  | map members broken =>
      obtain ⟨-, final, aside, takes, every, -⟩ := readRecord_map_eq_ok_iff.mp read
      rcases takes.names_of_given (every field member required) with before | ⟨value, names⟩
      · cases before
      · exact ⟨value, .member names⟩
  | _ => cases read

theorem demanded_of_readRecord (shown : Shows name reader part whole.fields)
    (required : ∃ field ∈ whole.fields, field.name = name ∧ field.required)
    (read : Reads (readRecord whole) depth document result) :
    Demanded whole.fields depth document result name (Reads reader) part := by
  obtain ⟨field, member, rfl, required⟩ := required
  exact ⟨exists_gives_of_readRecord member required read,
    (laidOver_of_readRecord shown rfl read).of_given⟩

section Nested

variable {inner : List (RecordField α)}

/-- A field of the outer record sets its part, if the inner fields leave it alone. -/
theorem laidOver_of_readNested (shown : Shows name reader part whole.fields)
    (spares : Spares name part inner) (same : whole.default = standard)
    (read : Reads (readNested whole inner) depth document result) :
    LaidOver (whole.fields ++ inner) depth document standard result name (Reads reader) part := by
  subst same
  obtain ⟨members, given, aside, final, others, rfl, takes, -, takesInner, -, rfl⟩ :=
    readNested_eq_ok_iff.mp read
  obtain ⟨ofGiven, ofNotGiven⟩ := (takes.overlays shown).2
  rw [LaidOver, takesInner.part_of_spares spares]
  refine ⟨?_, fun nothing => ofNotGiven fun value names => nothing value (.member names)⟩
  rintro value (names | _)
  exact ofGiven value names

/-- An inner field sets its part, if the fields of the outer record leave it alone. -/
theorem laidOver_of_readNested_inner (spares : Spares name part whole.fields)
    (shown : Shows name reader part inner) (same : whole.default = standard)
    (read : Reads (readNested whole inner) depth document result) :
    LaidOver (whole.fields ++ inner) depth document standard result name (Reads reader) part := by
  subst same
  obtain ⟨members, given, aside, final, others, rfl, takes, -, takesInner, -, rfl⟩ :=
    readNested_eq_ok_iff.mp read
  obtain ⟨ofGiven, ofNotGiven⟩ := (takesInner.overlays shown).2
  rw [takes.names_aside fun field member => (spares.of_mem member).1] at ofGiven ofNotGiven
  rw [LaidOver, ← takes.part_of_spares spares]
  refine ⟨?_, fun nothing => ofNotGiven fun value names => nothing value (.member names)⟩
  rintro value (names | _)
  exact ofGiven value names

end Nested

end Parts

end Mainboard.Document
