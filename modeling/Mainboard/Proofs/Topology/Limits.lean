import Mainboard.Proofs.Topology.Clusters
import Mainboard.Run.Options

/-!
# Caps on instructions and the warm-up

Cores count the instructions of their caps from the end of the warm-up, so the
caps are extended by the warm-up that is configured.  A run resolves a warm-up
of zero to the standard one, but composition does not.  There the caps are as
they were configured, whatever the run takes for its warm-up.
-/

namespace Mainboard

/-- A cap after some instructions, up to the largest word. -/
def capAfter (cap : Option UInt64) (instructions : Nat) : Option Nat :=
  cap.map fun count => min (UInt64.size - 1) (count.toNat + instructions)

/-- The caps of a core are those of its limits, extended by some instructions. -/
structure OutOfOrderSettings.IsLimited (settings : OutOfOrderSettings)
    (limits : InstructionLimits) (instructions : Nat) : Prop where
  perThread : settings.perThreadInstructions.map UInt64.toNat =
    capAfter limits.perThread instructions
  total : settings.totalInstructions.map UInt64.toNat = capAfter limits.total instructions

theorem map_toNat_afterWarmup (cap warmup : Option UInt64) :
    (afterWarmup cap warmup).map UInt64.toNat = capAfter cap (warmup.getD 0).toNat := by
  rw [afterWarmup, capAfter, Option.map_map]
  refine congrArg (Option.map · cap) (funext fun count => ?_)
  rw [Function.comp_apply, toNat_saturatingAdd, Nat.min_comm]

namespace CoreFeatures

variable {features : CoreFeatures} {context : FeatureContext} {settings : OutOfOrderSettings}

/-- Features resolve to settings that take the rest from the cluster, and the predictor alone is
resolved by itself. -/
theorem exists_eq_of_resolve (resolved : features.resolve context = .ok settings) :
    ∃ predictor, settings =
      { features with
        starvationEmissary := context.emissary
        predictor
        perThreadInstructions := afterWarmup features.limits.perThread context.warmupInstructions
        totalInstructions := afterWarmup features.limits.total context.warmupInstructions
        replacement := if context.analysis then .oracle else .lru } := by
  rw [resolve] at resolved
  split at resolved
  · cases resolved
  dsimp only at resolved
  split at resolved
  all_goals
    obtain ⟨predictor, -, resolved⟩ := Except.bind_eq_ok_iff.mp resolved
    exact ⟨predictor, (Except.ok.inj resolved).symm⟩

theorem isLimited_of_resolve (resolved : features.resolve context = .ok settings) :
    settings.IsLimited features.limits (context.warmupInstructions.getD 0).toNat := by
  obtain ⟨predictor, rfl⟩ := exists_eq_of_resolve resolved
  exact ⟨map_toNat_afterWarmup _ _, map_toNat_afterWarmup _ _⟩

end CoreFeatures

namespace ClusterRequest

variable {request : ClusterRequest} {settings : Option OutOfOrderSettings}

theorem settings_of_check (checked : request.check = .ok settings) :
    request.settings = .ok settings := by
  rw [check] at checked
  split at checked
  · cases checked
  split at checked
  · cases checked
  split at checked
  · cases checked
  · exact checked

theorem eq_none_of_check (checked : request.check = .ok settings)
    (plain : request.model.isOutOfOrder = false) : settings = none := by
  have resolved := settings_of_check checked
  rw [ClusterRequest.settings, plain] at resolved
  exact (Except.ok.inj resolved).symm

/-- An out-of-order core has the settings that its features resolve to for the cluster. -/
theorem exists_resolve_of_check (checked : request.check = .ok settings)
    (detailed : request.model.isOutOfOrder = true) :
    ∃ resolved, settings = some resolved ∧ request.features.resolve
      { warmupInstructions := request.warmupInstructions
        analysis := request.caches.analysis
        emissary := request.caches.usesEmissary } = .ok resolved := by
  have made := settings_of_check checked
  rw [ClusterRequest.settings, if_pos detailed] at made
  obtain ⟨resolved, found, rfl⟩ := Except.map_eq_ok_iff.mp made
  exact ⟨resolved, rfl, found⟩

theorem exists_isLimited_of_check (checked : request.check = .ok settings)
    (detailed : request.model.isOutOfOrder = true) :
    ∃ resolved, settings = some resolved ∧ resolved.IsLimited request.features.limits
      (request.warmupInstructions.getD 0).toNat := by
  obtain ⟨resolved, found, made⟩ := exists_resolve_of_check checked detailed
  exact ⟨resolved, found, CoreFeatures.isLimited_of_resolve made⟩

end ClusterRequest

theorem RunOptions.warmupThreshold_of_ofConfiguration {run : RunConfiguration}
    {options : RunOptions} (made : ofConfiguration run = .ok options) :
    options.warmupThreshold = run.warmupThreshold := by
  rw [ofConfiguration] at made
  split at made
  · cases made
  · obtain rfl := Except.ok.inj made
    rfl

/-- A warm-up that is not configured as zero is the one of the run. -/
theorem RunConfiguration.warmupThreshold_of_ne_zero {run : RunConfiguration}
    (resolved : run.warmupInstructions ≠ some 0) :
    run.warmupThreshold = run.warmupInstructions := by
  rw [warmupThreshold]
  cases given : run.warmupInstructions with
  | none => rfl
  | some count =>
      have positive : count ≠ 0 := fun zero => resolved (zero ▸ given)
      rw [Option.map_some, if_neg positive]

namespace Configuration

variable {configuration : Configuration} {topology : Topology} {options : RunOptions}

/-- Out-of-order cores have the caps that are configured, extended by the warm-up that is
configured.  That is the warm-up of the run unless zero is configured, where the run takes the
standard one but the caps are not extended. -/
theorem caps_of_configured_warmup (accepted : configuration.topology = .ok topology)
    (made : RunOptions.ofConfiguration configuration.run = .ok options) :
    List.Forall₂
      (fun (configured : ClusterConfiguration) (cluster : Cluster) =>
        cluster.model = configured.model ∧ ∀ core ∈ cluster.cores,
          (configured.model.isOutOfOrder = false → core.settings = none) ∧
          (configured.model.isOutOfOrder = true → ∃ settings, core.settings = some settings ∧
            (configuration.run.warmupInstructions ≠ some 0 →
              settings.IsLimited configured.features.limits
                (options.warmupThreshold.getD 0).toNat) ∧
            (configuration.run.warmupInstructions = some 0 →
              settings.IsLimited configured.features.limits 0 ∧
                options.warmupThreshold = some configuration.run.standardWarmup)))
      configuration.clusters topology.clusters := by
  refine (configured_clusters_of_topology accepted).imp fun configured cluster finished => ?_
  obtain ⟨index, finished⟩ := finished
  obtain ⟨settings, checked, all⟩ := finished.exists_settings
  refine ⟨finished.model_eq, fun core member => ?_⟩
  rw [all core member]
  refine ⟨fun plain => ClusterRequest.eq_none_of_check checked plain, fun detailed => ?_⟩
  obtain ⟨resolved, found, limited⟩ := ClusterRequest.exists_isLimited_of_check checked detailed
  refine ⟨resolved, found, fun nonzero => ?_, fun zero => ?_⟩
  · rw [RunOptions.warmupThreshold_of_ofConfiguration made,
      RunConfiguration.warmupThreshold_of_ne_zero nonzero]
    exact limited
  · rw [RunOptions.warmupThreshold_of_ofConfiguration made]
    have raw : (configured.request configuration.run.warmupInstructions).warmupInstructions =
        some 0 := zero
    rw [raw] at limited
    exact ⟨limited, by simp [RunConfiguration.warmupThreshold, zero]⟩

/-- A detailed core with a cap of a thousand instructions. -/
def cappedAfter (warmupInstructions : UInt64) : Configuration where
  clusters := [{ model := .outOfOrder, features := { limits := { perThread := some 1000 } } }]
  run := { warmupInstructions := some warmupInstructions }

theorem caps_of_configured_warmup_cappedAfter :
    ∃ topology options, (cappedAfter 500).topology = .ok topology ∧
      RunOptions.ofConfiguration (cappedAfter 500).run = .ok options ∧
      ∀ cluster ∈ topology.clusters, ∀ core ∈ cluster.cores,
        ∃ settings, core.settings = some settings ∧
          settings.IsLimited { perThread := some 1000 } 500 := by
  have composed : ∃ topology options, (cappedAfter 500).topology = .ok topology ∧
      RunOptions.ofConfiguration (cappedAfter 500).run = .ok options ∧
      options.warmupThreshold = some 500 := ⟨_, _, rfl, rfl, rfl⟩
  obtain ⟨topology, options, accepted, made, threshold⟩ := composed
  refine ⟨topology, options, accepted, made, fun cluster member core among => ?_⟩
  obtain ⟨configured, listed, -, caps⟩ :=
    (caps_of_configured_warmup accepted made).exists_of_mem member
  obtain rfl := List.mem_singleton.mp listed
  obtain ⟨settings, found, extended, -⟩ := (caps core among).2 rfl
  refine ⟨settings, found, ?_⟩
  have nonzero : (cappedAfter 500).run.warmupInstructions ≠ some 0 := by decide
  simpa [threshold] using extended nonzero

/-- The run warms up for five million instructions, and the core stops after a thousand. -/
theorem not_isLimited_cappedAfter :
    ∃ topology options cluster core settings, (cappedAfter 0).topology = .ok topology ∧
      RunOptions.ofConfiguration (cappedAfter 0).run = .ok options ∧
      options.warmupThreshold = some 5000000 ∧
      topology.clusters[0]? = some cluster ∧ cluster.cores[0]? = some core ∧
      core.settings = some settings ∧ settings.perThreadInstructions = some 1000 ∧
      ¬ settings.IsLimited { perThread := some 1000 } 5000000 := by
  have composed : ∃ topology options cluster core settings,
      (cappedAfter 0).topology = .ok topology ∧
      RunOptions.ofConfiguration (cappedAfter 0).run = .ok options ∧
      options.warmupThreshold = some 5000000 ∧
      topology.clusters[0]? = some cluster ∧ cluster.cores[0]? = some core ∧
      core.settings = some settings ∧ settings.perThreadInstructions = some 1000 :=
    ⟨_, _, _, _, _, rfl, rfl, rfl, rfl, rfl, rfl, rfl⟩
  obtain ⟨topology, options, cluster, core, settings, accepted, made, threshold, first, only,
    found, cap⟩ := composed
  refine ⟨topology, options, cluster, core, settings, accepted, made, threshold, first, only,
    found, cap, fun limited => ?_⟩
  have extended := limited.perThread
  rw [cap] at extended
  exact absurd extended (by decide)

end Configuration

end Mainboard
