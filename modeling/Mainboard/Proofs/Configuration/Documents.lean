import Mathlib.Logic.Relation
import Mainboard.Proofs.Configuration.Overlay
import Mainboard.Proofs.Document.Insertion
import Mainboard.Proofs.Document.Parsing

/-!
# The documents of one configuration

A configuration is accepted from a text exactly if it is read from the value that the
text spells.  So it is laid over its defaults, and many texts have the same one: white
space, the order of members and members that name no field make no difference.
-/

namespace Mainboard

open Document

@[simp]
theorem AddressRange.isRegular_record : IsRegular (readRecord AddressRange.record) :=
  isRegular_readRecord (by simp [Commuting, record]) (by simp [record])

@[simp]
theorem PredictorRequest.isRegular_record : IsRegular (readRecord PredictorRequest.record) :=
  isRegular_readRecord (by simp [Commuting, record]) (by simp [record])

@[simp]
theorem FetchFeatures.isRegular_record : IsRegular (readRecord FetchFeatures.record) :=
  isRegular_readRecord (by simp [Commuting, record]) (by simp [record])

@[simp]
theorem StarvationFeatures.isRegular_record : IsRegular (readRecord StarvationFeatures.record) :=
  isRegular_readRecord (by simp [Commuting, record]) (by simp [record])

@[simp]
theorem InstructionLimits.isRegular_record : IsRegular (readRecord InstructionLimits.record) :=
  isRegular_readRecord (by simp [Commuting, record]) (by simp [record])

@[simp]
theorem CoreFeatures.isRegular_record : IsRegular (readRecord CoreFeatures.record) :=
  isRegular_readRecord (by simp [Commuting, record]) (by simp [record])

@[simp]
theorem PolicyKind.isRegular_reader : IsRegular PolicyKind.reader :=
  isRegular_readText.map ofName

@[simp]
theorem CacheRequest.isRegular_reader : IsRegular CacheRequest.reader :=
  isRegular_readNested (by simp [Commuting, record]) (by simp [Commuting, policyFields])
    (by simp [record]) (by simp [policyFields])

@[simp]
theorem HierarchyRequest.isRegular_record : IsRegular (readRecord HierarchyRequest.record) :=
  isRegular_readRecord (by simp [Commuting, record]) (by simp [record])

@[simp]
theorem CoreModel.isRegular_reader : IsRegular CoreModel.reader :=
  isRegular_readName spellings

@[simp]
theorem ClusterConfiguration.isRegular_record :
    IsRegular (readRecord ClusterConfiguration.record) :=
  isRegular_readRecord (by simp [Commuting, record])
    (by simp [record, isRegular_readUInt32.readList])

@[simp]
theorem SwitchingConfiguration.isRegular_record :
    IsRegular (readRecord SwitchingConfiguration.record) :=
  isRegular_readRecord (by simp [Commuting, record]) (by simp [record])

@[simp]
theorem Phase.isRegular_record : IsRegular (readRecord Phase.record) :=
  isRegular_readRecord (by simp [Commuting, record]) (by simp [record])

@[simp]
theorem RunConfiguration.isRegular_record : IsRegular (readRecord RunConfiguration.record) :=
  isRegular_readRecord (by simp [Commuting, record]) (by simp [record])

@[simp]
theorem BootConfiguration.isRegular_record : IsRegular (readRecord BootConfiguration.record) :=
  isRegular_readRecord (by simp [Commuting, record]) (by simp [record])

namespace Configuration

theorem isRegular_record : IsRegular (readRecord record) :=
  isRegular_readRecord (by simp [Commuting, record])
    (by simp [record, AddressRange.isRegular_record.readList])

/-- The members of one map of a document come in another order, or a map that is read as a record
has one more member, which names no field. -/
def Alters (document other : Value) : Prop :=
  Reorders document other ∨ Inserts (readRecord record) 0 document other

variable {document other : Value} {text layout : String} {configuration : Configuration}

theorem reads_of_alters (alters : Relation.ReflTransGen Alters document other)
    (reads : Reads (readRecord record) 0 document configuration) :
    Reads (readRecord record) 0 other configuration := by
  induction alters with
  | refl => exact reads
  | tail earlier alters ih =>
      rcases alters with reorders | inserts
      · exact isRegular_record.reorder 0 _ _ _ reorders ih
      · exact inserts.reads ih

theorem ofText_eq_ok_iff : ofText text = .ok configuration ↔
    ∃ document : Value, document.Spells text ∧
      Reads (readRecord record) 0 document configuration := by
  rw [ofText, Except.mapError_eq_ok_iff, readDocument_eq_ok_iff isRegular_record]

/-- A text that is accepted spells a document, and the configuration is the default with what the
document gives laid over it.  The same configuration is accepted from every layout of the document,
also when members come in another order and when members are added that name no field. -/
theorem exists_overlaid_document (accepted : ofText text = .ok configuration) :
    ∃ document : Value, document.Spells text ∧ configuration.Overlaid document ∧
      ∀ other layout, Relation.ReflTransGen Alters document other → other.Spells layout →
        ofText layout = .ok configuration := by
  obtain ⟨document, spells, reads⟩ := ofText_eq_ok_iff.mp accepted
  refine ⟨document, spells, overlaid_of_reads reads, fun other layout alters spellsToo => ?_⟩
  exact ofText_eq_ok_iff.mpr ⟨other, spellsToo, reads_of_alters alters reads⟩

theorem exists_overlaid_document_boot : ofText "\x7b\"boot\": \x7b\"lpj\": 5\x7d\x7d" =
      .ok { boot := { loopsPerJiffy := 5 } } ∧
    ∃ document : Value, document.Spells "\x7b\"boot\": \x7b\"lpj\": 5\x7d\x7d" ∧
      Overlaid document { boot := { loopsPerJiffy := 5 } } ∧
      ∀ other layout, Relation.ReflTransGen Alters document other → other.Spells layout →
        ofText layout = .ok { boot := { loopsPerJiffy := 5 } } :=
  ⟨rfl, exists_overlaid_document rfl⟩

theorem ofText_of_source {root : Value} (source : Source.ofText text = ⟨root, false⟩) :
    ofText text = (readRecord record 0 root).mapError .document := by
  have read : readDocument (readRecord record) text = readRecord record 0 root := by
    rw [readDocument, source]
    exact bind_pure _
  rw [ofText, read]

/-- A key without escapes. -/
def key (name : String) : Quote := ⟨name.toList.map .character, none⟩

/-- The document of one cluster with a request for the instruction cache of its cores. -/
def requesting (members : List (Quote × Value)) : Value :=
  let request : Value := .map [(key "l1i", .map members none)] none
  .map [(key "clusters", .list [.map [(key "caches", request)] none] none)] none

/-- Half of a surrogate pair is no text.  It may not stand in a key, and in a request for a cache
it may not stand in any value either, although such text is skipped elsewhere. -/
theorem refused_surrogate :
    (ofText "\x7b\"clusters\":[\x7b\"caches\":\x7b\"l1i\":\x7b\x7d\x7d\x7d]\x7d" = .ok {} ∧
      ofText "\x7b\"clusters\":[\x7b\"caches\":\x7b\"l1i\":\x7b\"x\":\"\\ud800\"\x7d\x7d\x7d]\x7d" =
        .error (.document .malformed)) ∧
    ofText "\x7b\x7d" = .ok {} ∧
      ofText "\x7b\"\\ud800\":1\x7d" = .error (.document .malformed) := by
  have empty : Source.ofText "\x7b\"clusters\":[\x7b\"caches\":\x7b\"l1i\":\x7b\x7d\x7d\x7d]\x7d" =
      ⟨requesting [], false⟩ :=
    rfl
  have half : Source.ofText
      "\x7b\"clusters\":[\x7b\"caches\":\x7b\"l1i\":\x7b\"x\":\"\\ud800\"\x7d\x7d\x7d]\x7d" =
        ⟨requesting [(key "x", .quote ⟨[.unit 0xd800], none⟩)], false⟩ :=
    rfl
  rw [ofText_of_source empty, ofText_of_source half]
  exact ⟨⟨rfl, rfl⟩, rfl, rfl⟩

end Configuration

end Mainboard
