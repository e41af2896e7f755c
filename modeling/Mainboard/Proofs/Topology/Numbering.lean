import Mathlib.Data.UInt
import Mainboard.Proofs.Topology.Blueprints

/-!
# How clusters and cores are numbered

A blueprint is offered clusters one after another.  Those that are refused
leave no trace: the blueprint is the one that is offered the others only.
These are numbered in order, and their cores through all clusters, so that the
numbers of the cores are those below their count.  Assembly keeps the numbers.
-/

namespace Mainboard

namespace Blueprint

/-- Offers clusters in order and gives the answers to each. -/
def offerAll (blueprint : Blueprint) : List ClusterRequest → List (Except Error Nat) × Blueprint
  | [] => ([], blueprint)
  | request :: requests =>
      let offered := blueprint.offer request
      let others := offered.2.offerAll requests
      (offered.1 :: others.1, others.2)

/-- The requests that were not answered with an error. -/
def accepted (requests : List ClusterRequest) (answers : List (Except Error Nat)) :
    List ClusterRequest :=
  ((requests.zip answers).filter (·.2.isOk)).map (·.1)

/-- What offers of clusters come to: all are answered, and those that are accepted have the next
numbers and would have been so without the others. -/
structure Accepts (blueprint : Blueprint) (requests accepted : List ClusterRequest)
    (answers : List (Except Error Nat)) (final : Blueprint) : Prop where
  answered : answers.length = requests.length
  numbers : answers.filterMap (·.toOption) =
    List.range' blueprint.clusters.length accepted.length
  alone : blueprint.offerAll accepted =
    ((List.range' blueprint.clusters.length accepted.length).map .ok, final)
  clusters : final.clusters.length = blueprint.clusters.length + accepted.length
  cores : final.coreCount = blueprint.coreCount + (accepted.map (·.coreCount)).sum

section Offers

variable {blueprint next final : Blueprint} {request : ClusterRequest} {index : Nat}
variable {requests others : List ClusterRequest} {answers : List (Except Error Nat)}

theorem offer_of_ok (added : blueprint.addCluster request = .ok (index, next)) :
    blueprint.offer request = (.ok index, next) := by
  rw [offer, added]

theorem offer_of_error {error : Error} (refused : blueprint.addCluster request = .error error) :
    blueprint.offer request = (.error error, blueprint) := by
  rw [offer, refused]

theorem coreCount_of_addCluster (added : blueprint.addCluster request = .ok (index, next)) :
    next.coreCount = blueprint.coreCount + request.coreCount := by
  obtain ⟨settings, -, -, rfl⟩ := addCluster_eq_ok added
  simp [nextCluster]

theorem Accepts.refused {error : Error} (later : blueprint.Accepts requests others answers final) :
    blueprint.Accepts (request :: requests) others (.error error :: answers) final where
  answered := congrArg (· + 1) later.answered
  numbers := later.numbers
  alone := later.alone
  clusters := later.clusters
  cores := later.cores

theorem Accepts.added (added : blueprint.addCluster request = .ok (index, next))
    (later : next.Accepts requests others answers final) :
    blueprint.Accepts (request :: requests) (request :: others) (.ok index :: answers) final := by
  have counted := coreCount_of_addCluster added
  have entry := offer_of_ok added
  obtain ⟨settings, -, rfl, grown⟩ := addCluster_eq_ok added
  have longer : next.clusters.length = blueprint.clusters.length + 1 := by simp [grown]
  constructor
  case answered => exact congrArg (· + 1) later.answered
  case numbers =>
    have numbers := later.numbers
    rw [longer] at numbers
    rw [List.length_cons, List.range'_succ, ← numbers]
    rfl
  case alone =>
    have alone := later.alone
    rw [longer] at alone
    rw [List.length_cons, List.range'_succ, offerAll, entry, alone]
    rfl
  case clusters =>
    rw [later.clusters, longer, List.length_cons]
    omega
  case cores =>
    rw [later.cores, counted, List.map_cons, List.sum_cons]
    omega

end Offers

/-- However clusters are offered, the refused are passed over. -/
theorem accepts_offerAll (blueprint : Blueprint) (requests : List ClusterRequest) :
    blueprint.Accepts requests (accepted requests (blueprint.offerAll requests).1)
      (blueprint.offerAll requests).1 (blueprint.offerAll requests).2 := by
  induction requests generalizing blueprint with
  | nil => exact ⟨rfl, rfl, rfl, rfl, rfl⟩
  | cons request requests ih =>
      rw [offerAll]
      cases entry : blueprint.addCluster request with
      | error error =>
          rw [offer_of_error entry]
          exact (ih blueprint).refused
      | ok added =>
          rw [offer_of_ok entry]
          exact (ih added.2).added entry

end Blueprint

namespace Core

/-- What names a core. -/
def identity (core : Core) : String × Nat × Nat := (core.path, core.id, core.socket)

end Core

namespace Cluster

/-- What names a cluster and its cores. -/
def identity (cluster : Cluster) : Nat × List (String × Nat × Nat) :=
  (cluster.index, cluster.cores.map Core.identity)

@[simp]
theorem identity_withCaches (cluster : Cluster) (levels : Nat) :
    (cluster.withCaches levels).identity = cluster.identity := by
  obtain ⟨cores, l2, ignored, built, same⟩ := exists_withCaches_eq cluster levels
  rw [built, identity, identity, same Core.identity fun _ _ => rfl]

theorem identity_of_monitored {cluster done : Cluster}
    (added : cluster.addRequestedMonitors = .ok done) : cluster.identity = done.identity := by
  obtain ⟨cores, rfl, same⟩ := addRequestedMonitors_eq_ok added
  rw [identity, identity, same Core.identity fun _ _ _ _ => rfl]

theorem IsPlaced.of_identity {cluster other : Cluster} (placed : cluster.IsPlaced)
    (same : cluster.identity = other.identity) : other.IsPlaced := by
  obtain ⟨index, cores⟩ := Prod.mk.inj same
  have paths := congrArg (List.map (·.1)) cores
  rw [List.map_map, List.map_map] at paths
  exact placed.of_paths index paths

end Cluster

/-- Clusters that are numbered in order, and their cores through all of them: every core knows its
cluster and is named by its place there. -/
structure AreNumbered (clusters : List Cluster) : Prop where
  indices : clusters.map (·.index) = List.range clusters.length
  placed : ∀ cluster ∈ clusters, cluster.IsPlaced
  sockets : ∀ cluster ∈ clusters, ∀ core ∈ cluster.cores, core.socket = cluster.index
  ids : (clusters.flatMap (·.cores)).map (·.id) = List.range (clusters.flatMap (·.cores)).length

namespace AreNumbered

variable {clusters others : List Cluster}

theorem map_id_flatMap_cores (clusters : List Cluster) : (clusters.flatMap (·.cores)).map (·.id) =
    (clusters.map Cluster.identity).flatMap fun entry => entry.2.map (·.2.1) := by
  simp [Cluster.identity, Core.identity, List.flatMap_map, List.map_flatMap, Function.comp_def]

section Identities

variable (same : clusters.map Cluster.identity = others.map Cluster.identity)
include same

theorem map_id_of_identities :
    (clusters.flatMap (·.cores)).map (·.id) = (others.flatMap (·.cores)).map (·.id) := by
  rw [map_id_flatMap_cores, same, ← map_id_flatMap_cores]

theorem length_cores_of_identities :
    (clusters.flatMap (·.cores)).length = (others.flatMap (·.cores)).length := by
  have lengths := congrArg List.length (map_id_of_identities same)
  rwa [List.length_map, List.length_map] at lengths

/-- Clusters with the same names are numbered alike. -/
theorem of_identities (numbered : AreNumbered clusters) : AreNumbered others := by
  have origin : ∀ other ∈ others, ∃ cluster ∈ clusters, cluster.identity = other.identity :=
    fun other member => List.mem_map.mp (same ▸ List.mem_map_of_mem member)
  constructor
  case indices =>
    have indices := congrArg (List.map (·.1)) same
    simp only [List.map_map] at indices
    have lengths := congrArg List.length same
    rw [List.length_map, List.length_map] at lengths
    exact indices.symm.trans (lengths ▸ numbered.indices)
  case placed =>
    intro other member
    obtain ⟨cluster, among, equal⟩ := origin other member
    exact (numbered.placed cluster among).of_identity equal
  case sockets =>
    intro other member core inside
    obtain ⟨cluster, among, equal⟩ := origin other member
    obtain ⟨index, cores⟩ := Prod.mk.inj equal
    obtain ⟨first, original, identical⟩ := List.mem_map.mp (cores ▸ List.mem_map_of_mem inside)
    rw [← index, ← numbered.sockets cluster among first original]
    exact congrArg (·.2.2) identical.symm
  case ids => rw [← map_id_of_identities same, numbered.ids, length_cores_of_identities same]

end Identities

end AreNumbered

namespace Blueprint

variable {blueprint : Blueprint}

theorem IsBuilt.offerAll (built : blueprint.IsBuilt) (requests : List ClusterRequest) :
    (blueprint.offerAll requests).2.IsBuilt := by
  induction requests generalizing blueprint with
  | nil => exact built
  | cons request requests ih => exact ih (built.offer request)

/-- A blueprint that counts its cores, which are numbered by this count. -/
structure Counts (blueprint : Blueprint) : Prop where
  count : (blueprint.clusters.flatMap (·.cores)).length = blueprint.coreCount
  ids : (blueprint.clusters.flatMap (·.cores)).map (·.id) = List.range blueprint.coreCount

/-- The cores of the next cluster are numbered on from the count, and are counted then. -/
theorem Counts.addCluster {next : Blueprint} {request : ClusterRequest} {index : Nat}
    (added : blueprint.addCluster request = .ok (index, next)) (counts : blueprint.Counts) :
    next.Counts := by
  obtain ⟨settings, -, -, rfl⟩ := addCluster_eq_ok added
  have ids : (blueprint.nextCluster request settings).cores.map (·.id) =
      (List.range request.coreCount).map (blueprint.coreCount + ·) := List.map_map ..
  have length : (blueprint.nextCluster request settings).cores.length = request.coreCount := by
    simp [nextCluster]
  constructor
  case count =>
    rw [List.flatMap_append, List.length_append, counts.count, List.flatMap_singleton]
  case ids =>
    rw [List.flatMap_append, List.map_append, counts.ids, List.flatMap_singleton, ids, length,
      List.range_add]

theorem IsBuilt.counts (built : blueprint.IsBuilt) : blueprint.Counts := by
  refine built.induction Counts ?_ fun added counts => counts.addCluster added
  intro _ _ _ _ _ started
  obtain ⟨ranges, -, rfl⟩ := Except.map_eq_ok_iff.mp started
  exact ⟨rfl, rfl⟩

/-- However a blueprint was built, its clusters and cores are numbered. -/
theorem IsBuilt.areNumbered (built : blueprint.IsBuilt) : AreNumbered blueprint.clusters := by
  have sound := built.isSound
  refine ⟨sound.numbered, sound.placed, ?_, built.counts.count ▸ built.counts.ids⟩
  refine built.induction (fun blueprint => ∀ cluster ∈ blueprint.clusters,
    ∀ core ∈ cluster.cores, core.socket = cluster.index) ?_ ?_
  · intro _ _ _ _ _ started
    obtain ⟨ranges, -, rfl⟩ := Except.map_eq_ok_iff.mp started
    simp
  · intro current _ request _ added sockets
    obtain ⟨settings, -, -, rfl⟩ := addCluster_eq_ok added
    refine List.forall_mem_append.mpr ⟨sockets, ?_⟩
    simp [nextCluster, nextCore]

/-- Assembly keeps the names of clusters and cores. -/
theorem identities_of_assemble {depth : UInt8} {cachesEnabled : Bool} {topology : Topology}
    (assembled : blueprint.assemble depth cachesEnabled = .ok topology) :
    blueprint.clusters.map Cluster.identity = topology.clusters.map Cluster.identity := by
  rw [← (assemble_eq_ok assembled).1.map_eq_map fun _ _ => Cluster.identity_of_monitored]
  simp

/-- Whatever clusters a blueprint is offered, it becomes what it would have become without those
that are refused.  The others have the next numbers, and the cores of all clusters are numbered in
order from zero, as many as there are.  So are those of every machine that is assembled. -/
theorem IsBuilt.numbers_accepted (built : blueprint.IsBuilt) {requests : List ClusterRequest}
    {answers : List (Except Error Nat)} {final : Blueprint}
    (offered : blueprint.offerAll requests = (answers, final)) :
    blueprint.Accepts requests (accepted requests answers) answers final ∧
      AreNumbered final.clusters ∧
      (final.clusters.flatMap (·.cores)).map (·.id) = List.range final.coreCount ∧
      ∀ depth cachesEnabled topology, final.assemble depth cachesEnabled = .ok topology →
        topology.clusters.map Cluster.identity = final.clusters.map Cluster.identity ∧
        AreNumbered topology.clusters ∧
        topology.cores.map (·.id) = List.range final.coreCount ∧
        topology.coreCount = final.coreCount := by
  have accepts := blueprint.accepts_offerAll requests
  have after := built.offerAll requests
  rw [offered] at accepts after
  have numbered := after.areNumbered
  have counts := after.counts
  refine ⟨accepts, numbered, counts.ids, fun depth cachesEnabled topology assembled => ?_⟩
  have same := identities_of_assemble assembled
  have ids := AreNumbered.map_id_of_identities same
  have lengths := AreNumbered.length_cores_of_identities same
  exact ⟨same.symm, .of_identities same numbered, ids.symm.trans counts.ids,
    lengths.symm.trans counts.count⟩

/-- Two cores, a cluster without any, which is refused, and one core. -/
def threeOffers : List ClusterRequest :=
  [{ coreCount := 2, clock := .ghz 2, model := .timing },
    { coreCount := 0, clock := .ghz 2, model := .atomic },
    { coreCount := 1, clock := .ghz 1, model := .atomic }]

theorem numbers_accepted_threeOffers :
    ∃ blueprint answers final,
      start (.preset .standard) (.gib 2) .timing false = .ok blueprint ∧
      blueprint.offerAll threeOffers = (answers, final) ∧
      answers.map (·.toOption) = [some 0, none, some 1] ∧
      (final.clusters.flatMap (·.cores)).map (·.id) = List.range 3 ∧
      ∃ topology, final.assemble 2 true = .ok topology ∧
        topology.cores.map (·.id) = List.range 3 := by
  have composed : ∃ blueprint answers final topology,
      start (.preset .standard) (.gib 2) .timing false = .ok blueprint ∧
      blueprint.offerAll threeOffers = (answers, final) ∧
      answers.map (·.toOption) = [some 0, none, some 1] ∧ final.coreCount = 3 ∧
      final.assemble 2 true = .ok topology :=
    ⟨_, _, _, _, rfl, rfl, rfl, rfl, rfl⟩
  obtain ⟨blueprint, answers, final, topology, started, offered, answered, counted, assembled⟩ :=
    composed
  obtain ⟨-, -, ids, assembles⟩ := (IsBuilt.start started).numbers_accepted offered
  obtain ⟨-, -, kept, -⟩ := assembles 2 true topology assembled
  rw [counted] at ids kept
  exact ⟨blueprint, answers, final, started, offered, answered, ids, topology, assembled, kept⟩

end Blueprint

end Mainboard
