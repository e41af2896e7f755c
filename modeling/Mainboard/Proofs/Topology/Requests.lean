import Mathlib.Data.UInt
import Mainboard.Cluster.Monitoring
import Mainboard.Proofs.Conditions

/-!
# What is asked of clusters

A cluster is checked when it is added, and its monitors are checked when they
are attached.  Here is what the checks ask for, in the order in which they are
made.  The features of a core are asked for anything only if the cores of the
cluster are out of order.
-/

namespace Mainboard

namespace TargetBuffer

/-- What is asked of the entries of a branch target buffer. -/
def conditions (entries : UInt64) : List Condition :=
  [⟨∃ bits, entries.toNat = 2 ^ bits, .invalid (.targetBufferNotPowerOfTwo entries.toNat)⟩,
    ⟨∃ bits ≤ 61, entries.toNat = 2 ^ bits, .invalid (.targetBufferWithoutTag entries.toNat)⟩]

theorem exists_eq_two_pow_iff {entries : Nat} :
    (∃ bits, entries = 2 ^ bits) ↔ 1 <<< entries.log2 = entries := by
  rw [Nat.one_shiftLeft]
  refine ⟨?_, fun power => ⟨_, power.symm⟩⟩
  rintro ⟨bits, rfl⟩
  rw [Nat.log2_two_pow]

theorem obeys_ofEntries (entries : UInt64) : Obeys (conditions entries) (ofEntries entries) := by
  refine .check (exists_eq_two_pow_iff.trans not_not.symm) fun power => ?_
  refine .check ?_ fun _ => .pure _
  rw [not_not, Nat.one_shiftLeft] at power
  dsimp only
  rw [not_le]
  constructor
  · rintro ⟨bits, few, same⟩
    rw [same, Nat.log2_two_pow]
    omega
  · exact fun few => ⟨_, by omega, power.symm⟩

theorem conditions_hold_iff (entries : UInt64) :
    (∀ condition ∈ conditions entries, condition.holds) ↔
      ∃ bits ≤ 61, entries.toNat = 2 ^ bits := by
  rw [conditions, List.forall_mem_cons, List.forall_mem_singleton]
  exact and_iff_right_of_imp fun ⟨bits, _, same⟩ => ⟨bits, same⟩

end TargetBuffer

/-- What is asked of a branch predictor. -/
def PredictorRequest.conditions (request : PredictorRequest) : List Condition :=
  match request.targetEntries with
  | none => []
  | some entries => TargetBuffer.conditions entries

theorem PredictorRequest.obeys_resolve (request : PredictorRequest) :
    Obeys request.conditions request.resolve := by
  rw [conditions, resolve]
  cases request.targetEntries with
  | none => exact .pure _
  | some entries => exact (TargetBuffer.obeys_ofEntries entries).map _

theorem PredictorRequest.conditions_hold_iff (request : PredictorRequest) :
    (∀ condition ∈ request.conditions, condition.holds) ↔
      ∀ entries, request.targetEntries = some entries → ∃ bits ≤ 61, entries.toNat = 2 ^ bits := by
  rw [conditions]
  cases request.targetEntries with
  | none => simp
  | some entries => simpa using TargetBuffer.conditions_hold_iff entries

namespace CoreFeatures

/-- What is asked of the features of an out-of-order core. -/
def conditions (features : CoreFeatures) : List Condition :=
  ⟨features.fetch.targetInstructions ≠ some 0, .invalid .emptyFetchTarget⟩ ::
    match features.predictor with
    | none => []
    | some request => request.conditions

theorem obeys_resolve (features : CoreFeatures) (context : FeatureContext) :
    Obeys features.conditions (features.resolve context) := by
  refine .check .rfl fun _ => ?_
  cases features.predictor with
  | none => exact .pure _
  | some request =>
      dsimp only
      rw [← List.append_nil request.conditions]
      exact (request.obeys_resolve.map some).bind fun _ _ => .pure _

theorem conditions_hold_iff (features : CoreFeatures) :
    (∀ condition ∈ features.conditions, condition.holds) ↔
      features.fetch.targetInstructions ≠ some 0 ∧
        ∀ predictor, features.predictor = some predictor →
          ∀ entries, predictor.targetEntries = some entries →
            ∃ bits ≤ 61, entries.toNat = 2 ^ bits := by
  rw [conditions, List.forall_mem_cons]
  refine and_congr_right' ?_
  cases features.predictor with
  | none => simp
  | some request => simpa using request.conditions_hold_iff

end CoreFeatures

namespace ClusterRequest

/-- What is asked of a cluster, in the order in which it is checked. -/
def conditions (request : ClusterRequest) : List Condition :=
  ⟨0 < request.coreCount, .emptyCluster⟩ ::
    ⟨0 < request.threads, .invalid .noThreads⟩ ::
    ⟨request.model.isSelfBridged → request.coreCount ≤ fastModelLimit,
      .invalid (.fastModelCores fastModelLimit request.coreCount)⟩ ::
    if request.model.isOutOfOrder then request.features.conditions else []

theorem obeys_settings (request : ClusterRequest) :
    Obeys (if request.model.isOutOfOrder then request.features.conditions else [])
      request.settings := by
  rw [settings]
  split
  · exact (request.features.obeys_resolve _).map some
  · exact .pure none

theorem obeys_check (request : ClusterRequest) : Obeys request.conditions request.check := by
  refine .check Nat.pos_iff_ne_zero fun _ => ?_
  refine .check UInt32.pos_iff_ne_zero fun _ => ?_
  refine .check (by rw [not_and, not_lt]) fun _ => ?_
  exact request.obeys_settings

theorem conditions_hold_iff (request : ClusterRequest) :
    (∀ condition ∈ request.conditions, condition.holds) ↔
      0 < request.coreCount ∧ 0 < request.threads ∧
        (request.model.isSelfBridged → request.coreCount ≤ fastModelLimit) ∧
        (request.model.isOutOfOrder →
          ∀ condition ∈ request.features.conditions, condition.holds) := by
  rw [conditions, List.forall_mem_cons, List.forall_mem_cons, List.forall_mem_cons]
  refine and_congr_right' (and_congr_right' (and_congr_right' ?_))
  split <;> simp [*]

end ClusterRequest

namespace Cluster

/-- What is asked of the monitors of a cluster. -/
def monitorConditions (index cores : Nat) : Option MonitorRequest → List Condition
  | none => []
  | some request =>
      [⟨request.interrupts.length = cores,
        .interruptCount index request.interrupts.length cores⟩]

theorem monitorConditions_hold_iff (index cores : Nat) (monitors : Option MonitorRequest) :
    (∀ condition ∈ monitorConditions index cores monitors, condition.holds) ↔
      ∀ request, monitors = some request → request.interrupts.length = cores := by
  cases monitors with
  | none => simp [monitorConditions]
  | some request => simp [monitorConditions]

theorem obeys_addRequestedMonitors (cluster : Cluster) :
    Obeys (monitorConditions cluster.index cluster.cores.length cluster.monitors)
      cluster.addRequestedMonitors := by
  rw [addRequestedMonitors]
  cases cluster.monitors with
  | none => exact .pure _
  | some request =>
      dsimp only
      rw [addMonitors, ← ite_not]
      exact .check not_not.symm fun _ => .pure _

end Cluster

namespace ClusterRequest

/-- What is asked of the monitors of all clusters, in their order. -/
def monitorConditions (requests : List ClusterRequest) : List Condition :=
  requests.zipIdx.flatMap fun (request, index) =>
    Cluster.monitorConditions index request.coreCount request.monitors

theorem monitorConditions_hold_iff (requests : List ClusterRequest) :
    (∀ condition ∈ monitorConditions requests, condition.holds) ↔
      ∀ request ∈ requests, ∀ monitors, request.monitors = some monitors →
        monitors.interrupts.length = request.coreCount := by
  rw [monitorConditions, List.forall_mem_flatMap]
  simp only [Cluster.monitorConditions_hold_iff]
  rw [← List.forall_mem_map (f := Prod.fst) (P := fun request : ClusterRequest =>
    ∀ monitors, request.monitors = some monitors →
      monitors.interrupts.length = request.coreCount), List.zipIdx_map_fst]

end ClusterRequest

end Mainboard
