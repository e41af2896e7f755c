import Mainboard.Proofs.Cache.Splits

/-!
# What becomes of policy parameters

A parameter that is given for a level of a cluster's caches is carried by the
policy of the cache that is built there, or it is reported.  Which of the two
it is depends on the kind of the policy alone.
-/

namespace Mainboard

/-- The levels of a cluster's caches that policies are requested for. -/
inductive ClusterLevel
  | l1i
  | l1d
  | l2
  deriving DecidableEq

namespace ClusterLevel

/-- Every level, in the order in which they are reported on. -/
def all : List ClusterLevel := [l1i, l1d, l2]

def level : ClusterLevel → CacheLevel
  | l1i => .l1i
  | l1d => .l1d
  | l2 => .l2

/-- The number of levels that have to be built for this one to be. -/
def depth : ClusterLevel → Nat
  | l1i | l1d => 1
  | l2 => 2

theorem level_injective : Function.Injective level := by
  intro one other same
  cases one <;> cases other <;> cases same <;> rfl

end ClusterLevel

def HierarchyRequest.request (requests : HierarchyRequest) : ClusterLevel → CacheRequest
  | .l1i => requests.l1i
  | .l1d => requests.l1d
  | .l2 => requests.l2

def CachePresets.preset? (presets : CachePresets) : ClusterLevel → Option Cache
  | .l1i => presets.l1i
  | .l1d => presets.l1d
  | .l2 => presets.l2

theorem CoreModel.level_of_preset? {model : CoreModel} {level : ClusterLevel} {preset : Cache}
    (given : model.cachePresets.preset? level = some preset) : preset.level = level.level := by
  cases model <;> cases level <;> cases given <;> rfl

/-- A policy carries a parameter as it is given, except that one of the ways that are asked for is
never preserved, and that no probability is above a hundred percent. -/
inductive Policy.Carries (ways : UInt32) (parameters : PolicyParameters) :
    Policy → PolicyParameter → Prop
  | preserveWays {given preserved lru : UInt32} {flush : Option UInt64}
      (isGiven : parameters.preserveWays = some given)
      (clamped : preserved.toNat = min given.toNat (ways.toNat - 1)) :
      Carries ways parameters (.emissaryLru preserved lru flush) .preserveWays
  | flushPeriodCycles {period : UInt64} {preserved lru : UInt32}
      (isGiven : parameters.flushPeriodCycles = some period) :
      Carries ways parameters (.emissaryLru preserved lru (some period)) .flushPeriodCycles
  | bypassProbability {given probability : UInt8}
      (isGiven : parameters.bypassProbability = some given)
      (clamped : probability.toNat = min given.toNat 100) :
      Carries ways parameters (.bip probability) .bypassProbability

namespace Policy

variable {kind : PolicyKind} {ways : UInt32} {parameters : PolicyParameters}
variable {parameter : PolicyParameter}

/-- The parameters that a policy carries are those that are given and that its kind takes. -/
theorem carries_ofKind_iff : Carries ways parameters (ofKind kind ways parameters) parameter ↔
    parameters.gives parameter ∧ kind.takes parameter := by
  constructor
  · intro carried
    generalize chosen : ofKind kind ways parameters = policy at carried
    have same : policy.kind = kind := chosen ▸ kind_ofKind kind ways parameters
    cases carried with
    | preserveWays isGiven | flushPeriodCycles isGiven | bypassProbability isGiven =>
        subst same
        exact ⟨by simp [PolicyParameters.gives, isGiven], rfl⟩
  · rintro ⟨given, takes⟩
    cases parameter with
    | preserveWays =>
        obtain rfl : kind = .emissaryLru := of_decide_eq_true takes
        obtain ⟨count, isGiven⟩ := Option.isSome_iff_exists.mp given
        have chosen : ofKind .emissaryLru ways parameters = .emissaryLru _ _ _ := rfl
        have preserves := (ofKind_eq_emissaryLru chosen).2.preserves
        exact .preserveWays isGiven (by simpa [isGiven] using preserves)
    | flushPeriodCycles =>
        obtain rfl : kind = .emissaryLru := of_decide_eq_true takes
        obtain ⟨period, isGiven⟩ := Option.isSome_iff_exists.mp given
        rw [ofKind, isGiven]
        exact .flushPeriodCycles isGiven
    | bypassProbability =>
        obtain rfl : kind = .bip := of_decide_eq_true takes
        obtain ⟨probability, isGiven⟩ := Option.isSome_iff_exists.mp given
        rw [ofKind, isGiven]
        exact .bypassProbability isGiven (UInt8.toNat_min probability 100)

end Policy

namespace CacheRequest

/-- The kind of policy that is requested, least recently used if none is. -/
def kind (request : CacheRequest) : PolicyKind := request.policy.getD .lru

/-- The parameters that are given though the requested policy does not take them. -/
def untaken (request : CacheRequest) : List PolicyParameter :=
  PolicyChoice.reported.filter fun parameter =>
    request.parameters.gives parameter && !request.kind.takes parameter

theorem mem_untaken_iff {request : CacheRequest} {parameter : PolicyParameter} :
    parameter ∈ request.untaken ↔
      request.parameters.gives parameter ∧ request.kind.takes parameter = false := by
  have reported : parameter ∈ PolicyChoice.reported := by cases parameter <;> decide
  simp [untaken, reported]

/-- What is reported of a request for a level. -/
def reports (request : CacheRequest) (level : CacheLevel) : List (CacheLevel × PolicyMismatch) :=
  request.untaken.map fun parameter => (level, ⟨request.kind, parameter⟩)

end CacheRequest

/-- The levels of a cluster's caches that are built for a model, of some that there may be. -/
def CoreModel.cachedLevels (model : CoreModel) (levels : Nat) : List ClusterLevel :=
  ClusterLevel.all.filter fun level => model.requiresCaches && level.depth ≤ levels

theorem CoreModel.mem_cachedLevels_iff {model : CoreModel} {levels : Nat} {level : ClusterLevel} :
    level ∈ model.cachedLevels levels ↔ model.requiresCaches ∧ level.depth ≤ levels := by
  have listed : level ∈ ClusterLevel.all := by cases level <;> decide
  simp [cachedLevels, listed]

/-- What is reported of the requests for a cluster. -/
def HierarchyRequest.reports (requests : HierarchyRequest) (model : CoreModel) (levels : Nat) :
    List (CacheLevel × PolicyMismatch) :=
  (model.cachedLevels levels).flatMap fun level => (requests.request level).reports level.level

/-- What is ignored of a request is reported for the level it was given for. -/
theorem Cache.tagged_configure (preset : Cache) (request : CacheRequest) (baseline : Bool) :
    (preset.configure request baseline).tagged = request.reports preset.level := by
  have level : (preset.configure request baseline).cache.level = preset.level := by
    rw [configure]
    exact (apply_ite Cache.level ..).trans (ite_self _)
  rw [ConfiguredCache.tagged, level]
  exact List.map_map ..

/-- What is reported of the private caches, once however many cores have them. -/
theorem PrivateCaches.ignored_build? (model : CoreModel) (requests : HierarchyRequest) :
    ((build? model model.cachePresets requests).map (·.ignored)).getD [] =
      if model.requiresCaches then requests.l1i.reports .l1i ++ requests.l1d.reports .l1d
      else [] := by
  cases model with
  | atomic | kvm | fastModel => rfl
  | timing | minor | hpi | outOfOrder =>
      exact congrArg₂ (· ++ ·) (Cache.tagged_configure ..) (Cache.tagged_configure ..)

theorem Cache.tagged_buildL2? (model : CoreModel) (requests : HierarchyRequest) :
    ((buildL2? model model.cachePresets requests).map (·.tagged)).getD [] =
      if model.requiresCaches then requests.l2.reports .l2 else [] := by
  cases model with
  | atomic | kvm | fastModel => rfl
  | timing | minor | hpi | outOfOrder => exact tagged_configure ..

theorem HierarchyRequest.reports_eq (requests : HierarchyRequest) (model : CoreModel)
    (levels : Nat) : requests.reports model levels =
      (if 1 ≤ levels then
        if model.requiresCaches then requests.l1i.reports .l1i ++ requests.l1d.reports .l1d else []
      else []) ++
      if 2 ≤ levels then if model.requiresCaches then requests.l2.reports .l2 else [] else [] := by
  cases needed : model.requiresCaches with
  | false => simp [reports, CoreModel.cachedLevels, needed]
  | true =>
      by_cases first : 1 ≤ levels <;> by_cases second : 2 ≤ levels <;>
        simp [reports, CoreModel.cachedLevels, needed, ClusterLevel.all, ClusterLevel.depth,
          ClusterLevel.level, request, first, second]

end Mainboard
