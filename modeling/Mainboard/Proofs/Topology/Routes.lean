import Mainboard.Proofs.Topology.WellFormed

/-!
# Routes to memory

From each outlet of a core there is one way to follow the links, and it ends at
the memory bus.  On it are the core's private cache for the outlet, the second
level of the core's cluster and the third level that clusters share, as far as
these are built, and no other caches.  A cluster that is bridged into the
machine by itself is not linked at all.
-/

namespace Mainboard

/-- What is crossed on the way to memory. -/
inductive Hop
  | crossbar (bus : String)
  | cache (path : String)
  deriving DecidableEq

namespace Interconnect

variable {interconnect : Interconnect} {source target other : String}

/-- Exactly one link leaves an end, and it leads to another. -/
def Leads (interconnect : Interconnect) (source target : String) : Prop :=
  (interconnect.links.filter fun link => link.source = source) = [⟨source, target⟩]

/-- The links lead from an end to the memory bus.  A cache that is entered on
its near side is left on its far side, and so is a crossbar. -/
inductive Walk (interconnect : Interconnect) : String → List Hop → Prop
  | arrive {source : String} (leads : interconnect.Leads source (respondingSide memoryBus)) :
      Walk interconnect source []
  | cache {source path : String} {route : List Hop}
      (leads : interconnect.Leads source (path ++ ".cpu_side"))
      (onward : Walk interconnect (path ++ ".mem_side") route) :
      Walk interconnect source (.cache path :: route)
  | crossbar {source bus : String} {route : List Hop} (between : bus ≠ memoryBus)
      (leads : interconnect.Leads source (respondingSide bus))
      (onward : Walk interconnect (requestingSide bus) route) :
      Walk interconnect source (.crossbar bus :: route)

theorem Leads.unique (first : interconnect.Leads source target)
    (second : interconnect.Leads source other) : target = other := by
  rw [Leads, first] at second
  exact congrArg Link.target (List.cons.inj second).1

theorem respondingSide_injective : Function.Injective respondingSide :=
  fun _ _ same => (String.append_left_inj _).mp same

theorem cpuSide_ne_respondingSide (path bus : String) :
    path ++ ".cpu_side" ≠ respondingSide bus := by
  intro same
  have last := lastChar?_respondingSide bus
  rw [← same, lastChar?_append path rfl] at last
  cases last

/-- There is at most one way. -/
theorem Walk.unique {first second : List Hop} (walk : interconnect.Walk source first)
    (again : interconnect.Walk source second) : first = second := by
  -- The only link out of an end tells by its target which of the three steps is taken there.
  induction walk generalizing second with
  | arrive leads =>
      cases again with
      | arrive => rfl
      | cache other => exact absurd (other.unique leads) (cpuSide_ne_respondingSide _ _)
      | crossbar between other =>
          exact absurd (respondingSide_injective (other.unique leads)) between
  | cache leads _ ih =>
      cases again with
      | arrive other => exact absurd (leads.unique other) (cpuSide_ne_respondingSide _ _)
      | cache other onward =>
          obtain rfl := (String.append_left_inj _).mp (leads.unique other)
          rw [ih onward]
      | crossbar _ other => exact absurd (leads.unique other) (cpuSide_ne_respondingSide _ _)
  | crossbar between leads _ ih =>
      cases again with
      | arrive other => exact absurd (respondingSide_injective (leads.unique other)) between
      | cache other => exact absurd (other.unique leads) (cpuSide_ne_respondingSide _ _)
      | crossbar _ other onward =>
          obtain rfl := respondingSide_injective (leads.unique other)
          rw [ih onward]

end Interconnect

open Interconnect

/-- A link has an end inside of an owner. -/
def Link.Names (link : Link) (owner : String) : Prop :=
  Inside owner link.source ∨ Inside owner link.target

def Core.route (core : Core) (stream : Stream) : List Hop :=
  if (core.cacheAt? stream).isSome then [.cache (core.cachePath stream)] else []

def Cluster.route (cluster : Cluster) : List Hop :=
  if cluster.l2.isSome then [.crossbar cluster.l2Bus, .cache cluster.l2Path] else []

namespace Topology

variable {topology : Topology}

def sharedRoute (topology : Topology) : List Hop :=
  if topology.sharedL3.isSome then [.crossbar l3Bus, .cache l3Path] else []

/-- What a stream of a core is to cross: its private cache, the second level of the cluster
and the third level, as far as these are built. -/
def route (topology : Topology) (cluster : Cluster) (core : Core) (stream : Stream) : List Hop :=
  core.route stream ++ cluster.route ++ topology.sharedRoute

theorem firstChar?_clusterBus :
    ∀ hasL3, firstChar? (respondingSide (sharedBus hasL3)) ≠ some 'c' := by
  decide

/-- The caches on a route are listed. -/
theorem mem_cachePaths_of_mem_route {cluster : Cluster} (member : cluster ∈ topology.clusters)
    {core : Core} (inside : core ∈ cluster.cores) {stream : Stream} {path : String}
    (crossed : .cache path ∈ topology.route cluster core stream) :
    path ∈ topology.cachePaths := by
  rw [route, List.mem_append, List.mem_append] at crossed
  rcases crossed with (own | second) | third
  · rw [Core.route] at own
    split at own
    next cached =>
      obtain rfl := Hop.cache.inj (List.mem_singleton.mp own)
      have listed : core.cachePath stream ∈ core.cachePaths := core.cachePaths_eq ▸
        List.mem_map_of_mem (List.mem_filter.mpr ⟨Stream.mem_all stream, cached⟩)
      exact mem_cachePaths_of_mem member (Cluster.mem_cachePaths_of_mem inside listed)
    next => cases own
  · rw [Cluster.route] at second
    split at second
    next hasL2 =>
      obtain rfl : path = cluster.l2Path := by simpa using second
      exact mem_cachePaths_of_mem member (Cluster.l2Path_mem_cachePaths hasL2)
    next => cases second
  · rw [sharedRoute] at third
    split at third
    next hasL3 =>
      obtain rfl : path = l3Path := by simpa using third
      simp [cachePaths_eq, hasL3]
    next => cases third

namespace IsComposed

variable (composed : topology.IsComposed)
include composed

theorem leads_of_mem {link : Link} (among : link ∈ topology.interconnect.links) :
    topology.interconnect.Leads link.source link.target :=
  filter_view_eq_singleton composed.nodup_sources among

theorem leads_of_mem_cluster {cluster : Cluster} (member : cluster ∈ topology.clusters)
    {link : Link} (among : link ∈ cluster.links topology.clusterBus) :
    topology.interconnect.Leads link.source link.target := by
  obtain ⟨deviceCache, -, links⟩ := composed.links_perm
  exact composed.leads_of_mem (links.mem_iff.mpr
    (List.mem_append_right _ (List.mem_flatMap.mpr ⟨cluster, member, among⟩)))

theorem leads_of_mem_l3Links {link : Link} (among : link ∈ l3Links topology.sharedL3.isSome) :
    topology.interconnect.Leads link.source link.target := by
  obtain ⟨deviceCache, start, links⟩ := composed.links_perm
  refine composed.leads_of_mem (links.mem_iff.mpr (List.mem_append_left _ ?_))
  rw [start]
  exact List.mem_append_right _ among

/-- From the bus that clusters share the way leads through the third level. -/
theorem walk_of_clusterBus {source : String}
    (leads : topology.interconnect.Leads source (respondingSide topology.clusterBus)) :
    topology.interconnect.Walk source topology.sharedRoute := by
  rw [clusterBus] at leads
  rw [sharedRoute]
  cases hasL3 : topology.sharedL3.isSome with
  | false =>
      rw [hasL3] at leads
      exact .arrive leads
  | true =>
      rw [hasL3] at leads
      have links : ∀ link ∈ l3Links true, topology.interconnect.Leads link.source link.target :=
        fun link among => composed.leads_of_mem_l3Links (hasL3 ▸ among)
      exact .crossbar (by decide) leads (.cache (links _ (List.mem_cons_self ..))
        (.arrive (links _ (List.mem_cons_of_mem _ (List.mem_cons_self ..)))))

/-- From the bus in front of a cluster's cores the way leads through its second level. -/
theorem walk_of_entryBus {cluster : Cluster} (member : cluster ∈ topology.clusters)
    (wired : cluster.model.isSelfBridged = false) {source : String}
    (leads : topology.interconnect.Leads source
      (respondingSide (cluster.entryBus topology.clusterBus))) :
    topology.interconnect.Walk source (cluster.route ++ topology.sharedRoute) := by
  rw [Cluster.entryBus] at leads
  rw [Cluster.route]
  split
  next hasL2 =>
    rw [if_pos hasL2] at leads
    have links : ∀ link ∈ cluster.sharedLinks topology.clusterBus,
        topology.interconnect.Leads link.source link.target := fun link among =>
      composed.leads_of_mem_cluster member
        ((Cluster.links_perm wired).mem_iff.mpr (List.mem_append_right _ among))
    rw [Cluster.sharedLinks, if_pos hasL2] at links
    have between : cluster.l2Bus ≠ memoryBus := by
      intro same
      cases same ▸ Cluster.firstChar?_of_inside cluster.inside_l2Bus
    exact .crossbar between leads (.cache (links _ (List.mem_cons_self ..))
      (composed.walk_of_clusterBus (links _ (List.mem_cons_of_mem _ (List.mem_cons_self ..)))))
  next noL2 =>
    rw [if_neg noL2] at leads
    exact composed.walk_of_clusterBus leads

/-- From an outlet of a core the way leads along the route of the stream. -/
theorem walk_outlet {cluster : Cluster} (member : cluster ∈ topology.clusters)
    (wired : cluster.model.isSelfBridged = false) {core : Core} (inside : core ∈ cluster.cores)
    (stream : Stream) :
    topology.interconnect.Walk (core.outlet stream) (topology.route cluster core stream) := by
  have links : ∀ link ∈ core.links (cluster.entryBus topology.clusterBus),
      topology.interconnect.Leads link.source link.target := fun link among =>
    composed.leads_of_mem_cluster member ((Cluster.links_perm wired).mem_iff.mpr
      (List.mem_append_left _ (List.mem_flatMap.mpr ⟨core, inside, among⟩)))
  have outward := links _ (List.mem_append_right _
    (List.mem_map_of_mem (Stream.mem_all stream)))
  have onward := composed.walk_of_entryBus member wired outward
  rw [Core.outwardEnd] at onward
  rw [route, Core.route, List.append_assoc]
  split
  next cached =>
    rw [if_pos cached] at onward
    have own : stream ∈ core.cachedStreams :=
      List.mem_filter.mpr ⟨Stream.mem_all stream, cached⟩
    exact .cache (links _ (List.mem_append_left _ (List.mem_map_of_mem own))) onward
  next bare =>
    rwa [if_neg bare] at onward

/-- No link has an end inside of a cluster that is bridged into the machine by itself. -/
theorem not_names_of_isSelfBridged {cluster : Cluster} (member : cluster ∈ topology.clusters)
    (bridged : cluster.model.isSelfBridged) {link : Link}
    (among : link ∈ topology.interconnect.links) : ¬ link.Names cluster.name := by
  have apart : ∀ {name}, Inside cluster.name name → firstChar? name = some 'c' :=
    Cluster.firstChar?_of_inside
  obtain ⟨deviceCache, -, links⟩ := composed.links_perm
  rw [links.mem_iff, List.mem_append, List.mem_flatMap] at among
  rcases among with start | ⟨other, isOther, own⟩
  · have first := firstChar?_startLinks _ _ link start
    exact fun names => names.elim (fun source => first.1 (apart source))
      fun target => first.2 (apart target)
  · have wired := composed.wired_of_mem_links isOther own
    have within := (composed.placed other isOther).inside_of_mem_links wired own
    have unlike : ∀ {name}, Inside other.name name → ¬ Inside cluster.name name := by
      intro name inside inCluster
      have names := (Cluster.numbered_nameAt _).eq_of_inside (Cluster.numbered_nameAt _)
        inside inCluster
      obtain rfl := List.inj_on_of_nodup_map composed.nodup_names isOther member names
      cases wired.symm.trans bridged
    rintro (source | target)
    · exact unlike within.1 source
    · rcases within.2 with inside | bus
      · exact unlike inside target
      · exact firstChar?_clusterBus _ (bus ▸ apart target)

end IsComposed

end Topology

namespace Configuration

/-- From every outlet of every core of a linked cluster there is exactly one way to follow the
links, and it leads to memory along the route of the stream, whose caches are listed.  No link
has an end inside of a cluster that is bridged into the machine by itself, or of its cores. -/
theorem routes_to_memory {configuration : Configuration} {topology : Topology}
    (accepted : configuration.topology = .ok topology) {cluster : Cluster}
    (member : cluster ∈ topology.clusters) :
    (cluster.model.isSelfBridged = false → ∀ core ∈ cluster.cores, ∀ stream,
      (∀ route, topology.interconnect.Walk (core.outlet stream) route ↔
        route = topology.route cluster core stream) ∧
      ∀ path, .cache path ∈ topology.route cluster core stream → path ∈ topology.cachePaths) ∧
    (cluster.model.isSelfBridged → ∀ link ∈ topology.interconnect.links,
      ¬ link.Names cluster.name ∧ ∀ core ∈ cluster.cores, ¬ link.Names core.path) := by
  have composed := isComposed accepted
  constructor
  · intro wired core inside stream
    have walk := composed.walk_outlet member wired inside stream
    refine ⟨fun route => ⟨fun other => other.unique walk, ?_⟩,
      fun path => Topology.mem_cachePaths_of_mem_route member inside⟩
    rintro rfl
    exact walk
  · intro bridged link among
    have unnamed := composed.not_names_of_isSelfBridged member bridged among
    refine ⟨unnamed, fun core inside names => unnamed ?_⟩
    exact names.imp ((composed.placed cluster member).inside inside).trans
      ((composed.placed cluster member).inside inside).trans

/-- The instruction walker of a core crosses three caches, and the last cluster is not linked. -/
theorem routes_to_memory_mixed : ∃ topology cluster core bridged,
    mixed.topology = .ok topology ∧ topology.clusters[0]? = some cluster ∧
    cluster.cores[1]? = some core ∧ topology.clusters[2]? = some bridged ∧
    (∀ route, topology.interconnect.Walk (core.outlet .fetchWalk) route ↔
      route = [.cache "cpu_cluster0.cpus1.itb_walker_cache", .crossbar "cpu_cluster0.toL2Bus",
        .cache "cpu_cluster0.l2", .crossbar "toL3Bus", .cache "l3"]) ∧
    ∀ link ∈ topology.interconnect.links, ¬ link.Names bridged.name := by
  have composed : ∃ topology cluster core bridged, mixed.topology = .ok topology ∧
      topology.clusters[0]? = some cluster ∧ cluster.cores[1]? = some core ∧
      topology.clusters[2]? = some bridged ∧ cluster.model = .hpi ∧ bridged.model = .fastModel ∧
      topology.route cluster core .fetchWalk =
        [.cache "cpu_cluster0.cpus1.itb_walker_cache", .crossbar "cpu_cluster0.toL2Bus",
          .cache "cpu_cluster0.l2", .crossbar "toL3Bus", .cache "l3"] :=
    ⟨_, _, _, _, rfl, rfl, rfl, rfl, rfl, rfl, rfl⟩
  obtain ⟨topology, cluster, core, bridged, accepted, first, second, third, linked, unlinked,
    route⟩ := composed
  have routes := (routes_to_memory accepted (List.mem_of_getElem? first)).1
    (by rw [linked]; rfl) core (List.mem_of_getElem? second) .fetchWalk
  have apart := (routes_to_memory accepted (List.mem_of_getElem? third)).2
    (by rw [unlinked]; rfl)
  exact ⟨topology, cluster, core, bridged, accepted, first, second, third, route ▸ routes.1,
    fun link among => (apart link among).1⟩

end Configuration

end Mainboard
