import Mainboard.Proofs.Topology.Levels

/-!
# Monitors and the caches they observe

Monitors are attached to the cores one after another, once the caches are built.
So in a finished machine a monitor counts at just those caches that its core and
its cluster have.  Attaching monitors again takes the place of those that are
there and counts at the same sources, or fails before the first of them.
-/

namespace Mainboard

namespace Cluster

variable {cluster done : Cluster} {interrupts : List UInt32} {events : List String}

/-- Attaches a monitor to the core at a place. -/
def attachAt (cluster : Cluster) (place : Nat) (interrupt : UInt32) (events : List String) :
    Cluster :=
  { cluster with
    cores := cluster.cores.modify place (·.withMonitor cluster.l2.isSome interrupt events) }

/-- Attaches monitors in place to the cores from a place on. -/
def attachFrom (cluster : Cluster) (place : Nat) (events : List String) : List UInt32 → Cluster
  | [] => cluster
  | interrupt :: interrupts =>
      (cluster.attachAt place interrupt events).attachFrom (place + 1) events interrupts

/-- Attaches monitors in place: what comes out, and the cluster that is left. -/
def attach (cluster : Cluster) (interrupts : List UInt32) (events : List String) :
    Except Error Unit × Cluster :=
  if interrupts.length = cluster.cores.length then
    (.ok (), cluster.attachFrom 0 events interrupts)
  else
    (.error (.interruptCount cluster.index interrupts.length cluster.cores.length), cluster)

theorem attachAt_length (before rest : List Core) (core : Core) (interrupt : UInt32) :
    attachAt { cluster with cores := before ++ core :: rest } before.length interrupt events =
      { cluster with
        cores := before ++ core.withMonitor cluster.l2.isSome interrupt events :: rest } := by
  rw [attachAt, List.modify_eq_take_cons_drop (by simp)]
  simp

/-- The cores before the place keep what they have, and every other gets its monitor. -/
theorem attachFrom_length (before rest : List Core) (lengths : interrupts.length = rest.length) :
    attachFrom { cluster with cores := before ++ rest } before.length events interrupts =
      { cluster with
        cores := before ++ List.zipWith
          (fun core interrupt => core.withMonitor cluster.l2.isSome interrupt events)
          rest interrupts } := by
  induction rest generalizing before interrupts with
  | nil =>
      obtain rfl := List.eq_nil_of_length_eq_zero lengths
      rfl
  | cons core rest ih =>
      cases interrupts with
      | nil => cases lengths
      | cons interrupt interrupts =>
          have others := ih (before ++ [core.withMonitor cluster.l2.isSome interrupt events])
            (Nat.succ.inj lengths)
          rw [List.length_append, List.length_singleton, List.append_assoc, List.append_assoc]
            at others
          rw [attachFrom, attachAt_length, List.zipWith_cons_cons]
          exact others

/-- Attaching in place leaves the cluster with the monitors added. -/
theorem attach_eq_ok_iff : cluster.attach interrupts events = (.ok (), done) ↔
    cluster.addMonitors interrupts events = .ok done := by
  rw [attach, addMonitors]
  split
  next lengths =>
    have all : cluster.attachFrom 0 events interrupts = { cluster with
        cores := List.zipWith
          (fun core interrupt => core.withMonitor cluster.l2.isSome interrupt events)
          cluster.cores interrupts } := attachFrom_length [] cluster.cores lengths
    rw [Prod.mk.injEq, all, and_iff_right rfl, Except.ok.injEq]
  next => simp

/-- Attaching in place fails before a core is changed. -/
theorem attach_eq_error_iff {error : Error} :
    cluster.attach interrupts events = (.error error, done) ↔
      cluster.addMonitors interrupts events = .error error ∧ done = cluster := by
  rw [attach, addMonitors]
  split
  next => simp
  next => simp [eq_comm]

/-- Every core has a monitor, with its interrupt and at the caches that are there. -/
structure HasMonitors (cluster : Cluster) (interrupts : List UInt32) (events : List String) :
    Prop where
  count : interrupts.length = cluster.cores.length
  observed : ∀ (place : Nat) (core : Core) (interrupt : UInt32),
    cluster.cores[place]? = some core → interrupts[place]? = some interrupt →
      core.monitor = some
        { interrupt := .ofNumber interrupt
          sources := [.core, .itb, .dtb] ++
            (if core.caches.isSome then [.icache, .dcache] else []) ++
            if cluster.l2.isSome then [.l2] else []
          events }

theorem HasMonitors.of_addMonitors (added : cluster.addMonitors interrupts events = .ok done) :
    done.HasMonitors interrupts events := by
  rw [addMonitors] at added
  split at added
  next lengths =>
    obtain rfl := Except.ok.inj added
    refine ⟨by simp [lengths], fun place core interrupt placed given => ?_⟩
    obtain ⟨origin, number, -, found, rfl⟩ := List.getElem?_zipWith_eq_some.mp placed
    obtain rfl := Option.some.inj (given.symm.trans found)
    rfl
  next => cases added

/-- The sources of the monitors, core by core. -/
def sources (cluster : Cluster) : List (Option (List EventSource)) :=
  cluster.cores.map (·.monitor.map (·.sources))

/-- What the monitors count at is told by the caches alone. -/
theorem HasMonitors.sources_eq (monitored : cluster.HasMonitors interrupts events) :
    cluster.sources = cluster.cores.map (some <| ·.eventSources cluster.l2.isSome) := by
  refine List.map_congr_left fun core member => ?_
  obtain ⟨place, placed⟩ := List.getElem?_of_mem member
  have short : place < interrupts.length :=
    monitored.count ▸ (List.getElem?_eq_some_iff.mp placed).1
  rw [monitored.observed place core _ placed (List.getElem?_eq_getElem short)]
  rfl

/-- A cluster without the monitors of its cores. -/
def withoutMonitors (cluster : Cluster) : Cluster :=
  { cluster with cores := cluster.cores.map ({ · with monitor := none }) }

theorem withoutMonitors_of_addMonitors
    (added : cluster.addMonitors interrupts events = .ok done) :
    done.withoutMonitors = cluster.withoutMonitors := by
  obtain ⟨cores, rfl, same⟩ := addMonitors_eq_ok added
  rw [withoutMonitors, withoutMonitors, ← same _ fun _ _ _ _ => rfl]

/-- Monitors that are attached again count at what those before them do. -/
theorem sources_of_addMonitors {others : List UInt32} {names : List String}
    (monitored : cluster.HasMonitors others names)
    (added : cluster.addMonitors interrupts events = .ok done) :
    done.sources = cluster.sources := by
  rw [monitored.sources_eq, (HasMonitors.of_addMonitors added).sources_eq]
  obtain ⟨cores, rfl, same⟩ := addMonitors_eq_ok added
  exact (same _ fun _ _ _ _ => rfl).symm

namespace IsFinishedFrom

variable {request : ClusterRequest} {index levels : Nat}
variable (finished : cluster.IsFinishedFrom request index levels)
include finished

/-- The monitors that are requested are attached once the caches are built. -/
theorem hasMonitors {wanted : MonitorRequest} (requested : request.monitors = some wanted) :
    cluster.HasMonitors wanted.interrupts wanted.events := by
  obtain ⟨composed, made, added⟩ := finished
  rw [addRequestedMonitors, monitors_withCaches, made.monitors_eq, requested] at added
  exact .of_addMonitors added

theorem monitor_eq_none (unrequested : request.monitors = none) :
    ∀ core ∈ cluster.cores, core.monitor = none := by
  obtain ⟨composed, made, added⟩ := finished
  rw [addRequestedMonitors, monitors_withCaches, made.monitors_eq, unrequested] at added
  obtain rfl := Except.ok.inj added
  obtain ⟨cores, l2, ignored, built, same⟩ := exists_withCaches_eq composed levels
  obtain ⟨earlier, settings, -, -, rfl⟩ := made
  rw [built]
  intro core member
  have among : core.monitor ∈ cores.map (·.monitor) := List.mem_map_of_mem member
  rw [← same (·.monitor) fun _ _ => rfl] at among
  obtain ⟨origin, original, equal⟩ := List.mem_map.mp among
  obtain ⟨place, -, rfl⟩ := List.mem_map.mp original
  exact equal.symm

end IsFinishedFrom

end Cluster

namespace Configuration

variable {configuration : Configuration} {topology : Topology}

/-- Cores have monitors just if their cluster is configured with some, and these observe the caches
of the finished machine.  Attaching others in place to a finished cluster takes an interrupt for
each core, and else leaves the cluster as it is.  It changes nothing but the monitors, and these
observe the same caches. -/
theorem monitors_observe_caches (accepted : configuration.topology = .ok topology) :
    List.Forall₂
      (fun configured cluster =>
        (∀ interrupts, configured.monitorInterrupts = some interrupts →
          cluster.HasMonitors interrupts configured.monitorEvents) ∧
        (configured.monitorInterrupts = none → ∀ core ∈ cluster.cores, core.monitor = none) ∧
        ∀ interrupts events,
          (interrupts.length ≠ cluster.cores.length →
            cluster.attach interrupts events =
              (.error (.interruptCount cluster.index interrupts.length cluster.cores.length),
                cluster)) ∧
          (interrupts.length = cluster.cores.length →
            ∃ done, cluster.attach interrupts events = (.ok (), done) ∧
              cluster.addMonitors interrupts events = .ok done ∧
              done.HasMonitors interrupts events ∧
              done.withoutMonitors = cluster.withoutMonitors ∧
              (configured.monitorInterrupts.isSome → done.sources = cluster.sources)))
      configuration.clusters topology.clusters := by
  refine (configured_clusters_of_topology accepted).imp fun configured cluster => ?_
  rintro ⟨index, finished⟩
  have monitored : ∀ interrupts, configured.monitorInterrupts = some interrupts →
      cluster.HasMonitors interrupts configured.monitorEvents := by
    intro interrupts given
    have requested : (configured.request configuration.run.warmupInstructions).monitors =
        some ⟨interrupts, configured.monitorEvents⟩ := by
      rw [ClusterConfiguration.request, given, Option.map_some]
    exact finished.hasMonitors requested
  refine ⟨monitored, fun none => ?_, fun interrupts events => ⟨fun different => ?_,
    fun lengths => ?_⟩⟩
  · refine finished.monitor_eq_none ?_
    rw [ClusterConfiguration.request, none, Option.map_none]
  · refine Cluster.attach_eq_error_iff.mpr ⟨?_, rfl⟩
    rw [Cluster.addMonitors, if_neg different]
  · have added : ∃ done, cluster.addMonitors interrupts events = .ok done := by
      rw [Cluster.addMonitors, if_pos lengths]
      exact ⟨_, rfl⟩
    obtain ⟨done, added⟩ := added
    refine ⟨done, Cluster.attach_eq_ok_iff.mpr added, added, .of_addMonitors added,
      Cluster.withoutMonitors_of_addMonitors added, fun configures => ?_⟩
    obtain ⟨others, given⟩ := Option.isSome_iff_exists.mp configures
    exact Cluster.sources_of_addMonitors (monitored others given) added

/-- Two timed cores have monitors at all their caches, and a later cluster without caches of its own
has none.  Other interrupts take the place of theirs, but one is not enough. -/
theorem monitors_observe_caches_mixed :
    ∃ topology cluster done last, mixed.topology = .ok topology ∧
      topology.clusters[0]? = some cluster ∧ cluster.HasMonitors [23, 24] [] ∧
      cluster.sources = List.replicate 2 (some [.core, .itb, .dtb, .icache, .dcache, .l2]) ∧
      cluster.attach [40] ["cycles"] = (.error (.interruptCount 0 1 2), cluster) ∧
      cluster.attach [40, 41] ["cycles"] = (.ok (), done) ∧
      done.HasMonitors [40, 41] ["cycles"] ∧ done.sources = cluster.sources ∧
      topology.clusters[2]? = some last ∧ ∀ core ∈ last.cores, core.monitor = none := by
  have composed : ∃ topology cluster last, mixed.topology = .ok topology ∧
      topology.clusters[0]? = some cluster ∧ topology.clusters[2]? = some last ∧
      cluster.cores.length = 2 ∧ cluster.index = 0 ∧
      cluster.sources = List.replicate 2 (some [.core, .itb, .dtb, .icache, .dcache, .l2]) :=
    ⟨_, _, _, rfl, rfl, rfl, rfl, rfl, rfl⟩
  obtain ⟨topology, cluster, last, accepted, first, third, two, zero, sources⟩ := composed
  have related := monitors_observe_caches accepted
  have before : mixed.clusters[0]? = some
      { cores := 2, model := .hpi, monitorInterrupts := some [23, 24] } := rfl
  have after : mixed.clusters[2]? = some { model := .fastModel } := rfl
  obtain ⟨_, placed, monitored, -, again⟩ := related.exists_getElem? before
  obtain rfl := Option.some.inj (first.symm.trans placed)
  obtain ⟨refused, -⟩ := again [40] ["cycles"]
  obtain ⟨-, replaced⟩ := again [40, 41] ["cycles"]
  rw [zero, two] at refused
  obtain ⟨done, attached, -, others, -, same⟩ := replaced two.symm
  obtain ⟨_, lastPlaced, -, unmonitored, -⟩ := related.exists_getElem? after
  obtain rfl := Option.some.inj (third.symm.trans lastPlaced)
  exact ⟨topology, cluster, done, last, accepted, first, monitored _ rfl, sources,
    refused (by decide), attached, others, same rfl, third, unmonitored rfl⟩

end Configuration

end Mainboard
