import Mainboard.Proofs.Topology.Ownership

/-!
# To whom links belong

Every link of a machine belongs to one owner: to the system, whose objects are
named without a number, or to one of the clusters.  The links from a cluster are
those that wiring adds for it, and they belong in turn to its cores and to its
second level.  Names tell all of this.  What is inside of the tenth cluster or of
a tenth core is never taken for something inside of the first, though its name
begins in the same way.
-/

namespace Mainboard

open Interconnect

/-- What is inside of an owner begins as the owner does. -/
theorem Inside.firstChar?_eq {owner name : String} {char : Char} (inside : Inside owner name)
    (first : firstChar? owner = some char) : firstChar? name = some char := by
  obtain ⟨rest, rfl⟩ := inside
  exact firstChar?_append _ (firstChar?_append _ first)

/-- What is inside of two cores of any clusters is inside of one. -/
theorem Cluster.corePath_eq_of_inside {index place other second : Nat} {name : String}
    (inside : Inside (corePath index place) name) (also : Inside (corePath other second) name) :
    corePath index place = corePath other second := by
  have clusters := (numbered_nameAt index).eq_of_inside (numbered_nameAt other)
    ((inside_corePath index place).trans inside) ((inside_corePath other second).trans also)
  obtain rfl := nameAt_injective clusters
  exact (numbered_corePath index place).eq_of_inside (numbered_corePath index second) inside also

namespace Interconnect

variable {interconnect : Interconnect} {owner other : String}

theorem mem_linksFrom_iff {link : Link} :
    link ∈ interconnect.linksFrom owner ↔
      link ∈ interconnect.links ∧ Inside owner link.source := by
  rw [linksFrom, List.mem_filter, Link.isFrom_iff]

/-- Owners that have nothing inside of both have no link in common. -/
theorem disjoint_linksFrom (apart : ∀ name, Inside owner name → ¬ Inside other name) :
    (interconnect.linksFrom owner).Disjoint (interconnect.linksFrom other) := by
  intro link own also
  exact apart link.source (mem_linksFrom_iff.mp own).2 (mem_linksFrom_iff.mp also).2

theorem disjoint_linksFrom_corePath {index place second secondPlace : Nat}
    (different : Cluster.corePath index place ≠ Cluster.corePath second secondPlace) :
    (interconnect.linksFrom (Cluster.corePath index place)).Disjoint
      (interconnect.linksFrom (Cluster.corePath second secondPlace)) :=
  disjoint_linksFrom fun _ inside also => different (Cluster.corePath_eq_of_inside inside also)

/-- The links from something inside of an owner are among the links from the owner. -/
theorem linksFrom_of_inside {part : String} (inside : Inside owner part) :
    interconnect.linksFrom part = (interconnect.linksFrom owner).filter (·.isFrom part) := by
  rw [linksFrom, linksFrom, List.filter_filter]
  refine List.filter_congr fun link _ => ?_
  have outer : link.isFrom part → link.isFrom owner := fun own =>
    Link.isFrom_iff.mpr (inside.trans (Link.isFrom_iff.mp own))
  cases own : link.isFrom part with
  | false => rfl
  | true => rw [outer own, Bool.and_self]

end Interconnect

namespace Cluster

variable {cluster : Cluster} {core : Core} {bus : String}

/-- Of the links of a cluster those from a core are the links of the core. -/
theorem IsPlaced.filter_isFrom_links (placed : cluster.IsPlaced)
    (wired : cluster.model.isSelfBridged = false) (member : core ∈ cluster.cores) :
    ((cluster.links bus).filter (·.isFrom core.path)).Perm
      (core.links (cluster.entryBus bus)) := by
  have own : (cluster.cores.flatMap (·.links (cluster.entryBus bus))).filter
      (·.isFrom core.path) = core.links (cluster.entryBus bus) := by
    refine filter_flatMap_eq placed.nodup_paths.of_map member ?_ ?_
    · intro link isLink
      exact Link.isFrom_iff.mpr (core.inside_source _ isLink)
    · intro other among different link isLink also
      have paths := (placed.numbered among).eq_of_inside (placed.numbered member)
        (other.inside_source _ isLink) (Link.isFrom_iff.mp also)
      exact different (List.inj_on_of_nodup_map placed.nodup_paths among member paths)
  have second : (cluster.sharedLinks bus).filter (·.isFrom core.path) = [] := by
    refine List.filter_eq_nil_iff.mpr fun link isShared also => ?_
    have inside := Link.isFrom_iff.mp also
    obtain ⟨-, rfl | rfl⟩ := mem_sharedLinks isShared
    · exact placed.ne_l2Bus_append member inside _ rfl
    · exact placed.ne_l2Path_append member inside _ rfl
  refine ((links_perm wired).filter _).trans (.of_eq ?_)
  rw [List.filter_append, own, second, List.append_nil]

end Cluster

namespace Topology

/-- The objects that belong to no cluster: the bridges, the buses and the third level. -/
def systemOwners (path : DevicePath) : List String :=
  ["iobridge", memoryBus, path.name, deviceBus, l3Bus, l3Path]

/-- A link leaves one of these objects, or the port of the system, which is an end by itself and not
inside of anything. -/
def isOfSystem (topology : Topology) (link : Link) : Bool :=
  link.source = "system_port" ||
    (systemOwners topology.interconnect.devicePath).any (link.isFrom ·)

/-- The links of the system. -/
def systemLinks (topology : Topology) : List Link :=
  topology.interconnect.links.filter topology.isOfSystem

/-- The links from each cluster, by the names of clusters in their order. -/
def clusterLinks (topology : Topology) : List (List Link) :=
  (List.range topology.clusters.length).map fun index =>
    topology.interconnect.linksFrom (Cluster.nameAt index)

/-- Links are those that wiring adds for the cluster at a place: the machine has them besides the
links that it has when it is wired without the cluster. -/
def AddsAt (topology : Topology) (index : Nat) (links : List Link) : Prop :=
  ∃ ranges cache,
    topology.interconnect =
      wire (.base ranges cache) topology.clusters topology.sharedL3.isSome ∧
    topology.interconnect.links.Perm
      ((wire (.base ranges cache) (topology.clusters.eraseIdx index)
        topology.sharedL3.isSome).links ++ links)

/-- Every link belongs to one owner. -/
structure AttributesLinks (topology : Topology) : Prop where
  distinct : topology.interconnect.links.Nodup
  system : topology.systemLinks =
    baseLinks topology.interconnect.devicePath ++ l3Links topology.sharedL3.isSome
  /-- No link is lost, and none is counted twice. -/
  split : topology.interconnect.links.Perm
    (topology.systemLinks ++ topology.clusterLinks.flatten)
  apart : (topology.systemLinks :: topology.clusterLinks).Pairwise List.Disjoint
  /-- The links from a cluster are those that each pass of the wiring adds for it. -/
  added : ∀ index cluster, topology.clusters[index]? = some cluster →
    topology.interconnect.linksFrom (Cluster.nameAt index) =
      cluster.privateLinks ++ cluster.l2Links ++ cluster.memoryLinks topology.clusterBus ∧
    topology.AddsAt index (topology.interconnect.linksFrom (Cluster.nameAt index))
  /-- They belong to its cores, and to its second level. -/
  cores : ∀ cluster ∈ topology.clusters,
    (topology.interconnect.linksFrom cluster.name).Perm
      (cluster.cores.flatMap (fun core => topology.interconnect.linksFrom core.path) ++
        cluster.sharedLinks topology.clusterBus)
  coresApart : topology.cores.Pairwise fun core other =>
    (topology.interconnect.linksFrom core.path).Disjoint
      (topology.interconnect.linksFrom other.path)

/-- A cluster more in the wiring gives its links more. -/
theorem links_wire_eraseIdx_perm (interconnect : Interconnect) {clusters : List Cluster}
    {index : Nat} {cluster : Cluster} (found : clusters[index]? = some cluster) (hasL3 : Bool) :
    (wire interconnect clusters hasL3).links.Perm
      ((wire interconnect (clusters.eraseIdx index) hasL3).links ++
        cluster.links (sharedBus hasL3)) := by
  obtain ⟨short, rfl⟩ := List.getElem?_eq_some_iff.mp found
  have others := (List.getElem_cons_eraseIdx_perm short).symm.flatMap_right
    (·.links (sharedBus hasL3))
  rw [List.flatMap_cons] at others
  calc (wire interconnect clusters hasL3).links
    _ |>.Perm (interconnect.links ++ l3Links hasL3 ++
          clusters.flatMap (·.links (sharedBus hasL3))) := links_wire_perm ..
    _ |>.Perm (interconnect.links ++ l3Links hasL3 ++
          ((clusters.eraseIdx index).flatMap (·.links (sharedBus hasL3)) ++
            clusters[index].links (sharedBus hasL3))) :=
        (others.trans List.perm_append_comm).append_left _
    _ |>.Perm _ := by
        rw [← List.append_assoc]
        exact (links_wire_perm ..).symm.append_right _

/-- The links that clusters share leave objects of the system, or its port. -/
theorem source_startLinks : ∀ deviceCache hasL3, ∀ link ∈ startLinks deviceCache hasL3,
    link.source = "system_port" ∨ ∃ owner ∈ systemOwners
      (.ofCache? [] (if deviceCache then some .device else none)), link.isFrom owner := by
  decide

/-- The names of these objects do not begin as those of clusters do. -/
theorem firstChar?_systemOwners : ∀ deviceCache : Bool, ∀ owner ∈ systemOwners
    (.ofCache? [] (if deviceCache then some .device else none)),
      (firstChar? owner).isSome ∧ firstChar? owner ≠ some 'c' := by
  decide

theorem systemOwners_ofCache? (ranges : List AddressRange) (cache : Option Cache) :
    systemOwners (.ofCache? ranges cache) =
      systemOwners (.ofCache? [] (if cache.isSome then some .device else none)) := by
  cases cache <;> rfl

theorem isOfSystem_iff {topology : Topology} {link : Link} : topology.isOfSystem link ↔
    link.source = "system_port" ∨
      ∃ owner ∈ systemOwners topology.interconnect.devicePath, link.isFrom owner := by
  simp [isOfSystem]

namespace IsComposed

variable {topology : Topology} (composed : topology.IsComposed)
include composed

theorem systemOwners_eq : ∃ deviceCache : Bool,
    startLinks deviceCache topology.sharedL3.isSome =
      baseLinks topology.interconnect.devicePath ++ l3Links topology.sharedL3.isSome ∧
    systemOwners topology.interconnect.devicePath =
      systemOwners (.ofCache? [] (if deviceCache then some .device else none)) := by
  obtain ⟨ranges, cache, wired⟩ := composed.wired
  have path : topology.interconnect.devicePath = .ofCache? ranges cache := by
    rw [wired]
    rfl
  refine ⟨cache.isSome, ?_, ?_⟩
  · rw [startLinks, path, ← baseLinks_ofCache?]
  · rw [path, systemOwners_ofCache?]

/-- The links of clusters do not belong to the system. -/
theorem not_isOfSystem {cluster : Cluster} (member : cluster ∈ topology.clusters) {link : Link}
    (isLink : link ∈ cluster.links topology.clusterBus) : ¬ topology.isOfSystem link := by
  obtain ⟨deviceCache, -, owners⟩ := composed.systemOwners_eq
  have inside := ((composed.placed cluster member).inside_of_mem_links
    (composed.wired_of_mem_links member isLink) isLink).1
  have first := Cluster.firstChar?_of_inside inside
  rw [isOfSystem_iff, owners]
  rintro (port | ⟨owner, listed, own⟩)
  · rw [port] at first
    exact absurd first (by decide)
  · obtain ⟨named, unlike⟩ := firstChar?_systemOwners deviceCache owner listed
    obtain ⟨char, begins⟩ := Option.isSome_iff_exists.mp named
    rw [(Link.isFrom_iff.mp own).firstChar?_eq begins] at first
    exact unlike (begins.trans first)

/-- In each pass of the wiring, no link belongs to the system. -/
theorem filter_isOfSystem_flatMap (pass : Cluster → List Link)
    (passes : ∀ cluster ∈ topology.clusters, pass cluster ⊆ cluster.links topology.clusterBus) :
    (topology.clusters.flatMap pass).filter topology.isOfSystem = [] := by
  refine List.filter_eq_nil_iff.mpr (List.forall_mem_flatMap.mpr ?_)
  intro cluster member link isLink
  exact composed.not_isOfSystem member (passes cluster member isLink)

/-- The links of the system are those that clusters share. -/
theorem systemLinks_eq : topology.systemLinks =
    baseLinks topology.interconnect.devicePath ++ l3Links topology.sharedL3.isSome := by
  obtain ⟨deviceCache, start, owners⟩ := composed.systemOwners_eq
  have shared : (baseLinks topology.interconnect.devicePath ++
      l3Links topology.sharedL3.isSome).filter topology.isOfSystem =
        baseLinks topology.interconnect.devicePath ++ l3Links topology.sharedL3.isSome := by
    refine List.filter_eq_self.mpr fun link isLink => ?_
    rw [isOfSystem_iff, owners]
    exact source_startLinks _ _ link (start ▸ isLink)
  have own := composed.filter_isOfSystem_flatMap Cluster.privateLinks
    fun cluster _ => Cluster.privateLinks_subset
  have second := composed.filter_isOfSystem_flatMap Cluster.l2Links
    fun cluster _ => Cluster.l2Links_subset
  have outward := composed.filter_isOfSystem_flatMap (·.memoryLinks topology.clusterBus)
    fun cluster _ => Cluster.memoryLinks_subset
  rw [List.filter_append] at shared
  rw [systemLinks, composed.links_eq, List.filter_append, List.filter_append, List.filter_append,
    List.filter_append, own, second, outward, List.nil_append, List.nil_append, List.append_nil]
  exact shared

/-- The links from the clusters, by their names. -/
theorem clusterLinks_eq : topology.clusterLinks =
    topology.clusters.map fun cluster => cluster.links topology.clusterBus := by
  have names : (List.range topology.clusters.length).map Cluster.nameAt =
      topology.clusters.map (·.name) := by
    rw [← composed.numbered, List.map_map]
    rfl
  calc topology.clusterLinks
    _ = ((List.range topology.clusters.length).map Cluster.nameAt).map
          topology.interconnect.linksFrom := by rw [List.map_map]; rfl
    _ = (topology.clusters.map (·.name)).map topology.interconnect.linksFrom := by rw [names]
    _ = topology.clusters.map (fun cluster => cluster.links topology.clusterBus) := by
        rw [List.map_map]
        exact List.map_congr_left fun cluster member => composed.linksFrom_name member

theorem split_links : topology.interconnect.links.Perm
    (topology.systemLinks ++ topology.clusterLinks.flatten) := by
  obtain ⟨deviceCache, start, links⟩ := composed.links_perm
  rw [composed.systemLinks_eq, composed.clusterLinks_eq, ← List.flatMap_def, ← start]
  exact links

theorem nodup_links : topology.interconnect.links.Nodup := composed.nodup_sources.of_map

/-- Lists that a list without repetitions splits into are apart. -/
theorem apart_links : (topology.systemLinks :: topology.clusterLinks).Pairwise List.Disjoint := by
  have distinct := composed.split_links.nodup_iff.mp composed.nodup_links
  rw [← List.flatten_cons, List.nodup_flatten] at distinct
  exact distinct.2

/-- The links from a cluster by its number are those that wiring adds for it. -/
theorem added_links {index : Nat} {cluster : Cluster}
    (found : topology.clusters[index]? = some cluster) :
    topology.interconnect.linksFrom (Cluster.nameAt index) =
        cluster.links topology.clusterBus ∧
      topology.AddsAt index (topology.interconnect.linksFrom (Cluster.nameAt index)) := by
  have links : topology.interconnect.linksFrom (Cluster.nameAt index) =
      cluster.links topology.clusterBus := by
    rw [← Cluster.index_eq_of_numbered composed.numbered found]
    exact composed.linksFrom_name (List.mem_of_getElem? found)
  obtain ⟨ranges, cache, wired⟩ := composed.wired
  have more := links_wire_eraseIdx_perm (.base ranges cache) found topology.sharedL3.isSome
  rw [← wired] at more
  exact ⟨links, ranges, cache, wired, links ▸ more⟩

/-- The links from a cluster belong to its cores and to its second level. -/
theorem cores_links {cluster : Cluster} (member : cluster ∈ topology.clusters) :
    (topology.interconnect.linksFrom cluster.name).Perm
      (cluster.cores.flatMap (fun core => topology.interconnect.linksFrom core.path) ++
        cluster.sharedLinks topology.clusterBus) := by
  have placed := composed.placed cluster member
  have part : ∀ core ∈ cluster.cores, topology.interconnect.linksFrom core.path =
      (cluster.links topology.clusterBus).filter (·.isFrom core.path) := by
    intro core among
    rw [linksFrom_of_inside (placed.inside among)]
    exact congrArg _ (composed.linksFrom_name member)
  rw [composed.linksFrom_name member, List.flatMap_congr part]
  cases bridged : cluster.model.isSelfBridged with
  | false =>
      refine (Cluster.links_perm bridged).trans (.append_right _ ?_)
      exact .flatMap_left _ fun core among => (placed.filter_isFrom_links bridged among).symm
  | true =>
      have bare := composed.bare cluster member bridged
      simp [bare.links_eq_nil bridged, Cluster.sharedLinks, bare.l2]

/-- No link is from two cores. -/
theorem coresApart_links : topology.cores.Pairwise fun core other =>
    (topology.interconnect.linksFrom core.path).Disjoint
      (topology.interconnect.linksFrom other.path) := by
  have placed : ∀ core ∈ topology.cores, ∃ index place,
      core.path = Cluster.corePath index place := by
    intro core member
    obtain ⟨cluster, listed, inside⟩ := List.mem_flatMap.mp member
    exact ⟨cluster.index, (composed.placed cluster listed).path_of_mem inside⟩
  refine (List.pairwise_map.mp composed.nodup_corePaths).imp_of_mem ?_
  intro core other member memberToo different
  obtain ⟨index, place, path⟩ := placed core member
  obtain ⟨second, secondPlace, secondPath⟩ := placed other memberToo
  rw [path, secondPath] at different ⊢
  exact disjoint_linksFrom_corePath different

end IsComposed

end Topology

namespace Configuration

/-- Every link of a machine belongs to the system or to one of its clusters, and there to one of
its cores or to its second level. -/
theorem attributes_links {configuration : Configuration} {topology : Topology}
    (accepted : configuration.topology = .ok topology) : topology.AttributesLinks := by
  have composed := isComposed accepted
  exact
    { distinct := composed.nodup_links
      system := composed.systemLinks_eq
      split := composed.split_links
      apart := composed.apart_links
      added := fun _ _ => composed.added_links
      cores := fun _ => composed.cores_links
      coresApart := composed.coresApart_links }

/-- Eleven clusters, and eleven cores in the second of them. -/
def crowded : Configuration where
  clusters := {} :: { cores := 11, model := .timing } :: List.replicate 9 {}

/-- The second core of the second cluster and its eleventh, whose name begins in the same way. -/
theorem attributes_links_crowded : ∃ topology, crowded.topology = .ok topology ∧
    topology.AttributesLinks ∧ topology.clusters.length = 11 ∧ topology.cores.length = 21 ∧
    (topology.interconnect.linksFrom "cpu_cluster1.cpus1").Disjoint
      (topology.interconnect.linksFrom "cpu_cluster1.cpus10") := by
  have composed : ∃ topology, crowded.topology = .ok topology ∧
      topology.clusters.length = 11 ∧ topology.cores.length = 21 ∧
      topology.cores[2]?.map (·.path) = some "cpu_cluster1.cpus1" ∧
      topology.cores[11]?.map (·.path) = some "cpu_cluster1.cpus10" :=
    ⟨_, rfl, rfl, rfl, rfl, rfl⟩
  obtain ⟨topology, accepted, clusters, cores, second, eleventh⟩ := composed
  have attributed := attributes_links accepted
  obtain ⟨core, atTwo, path⟩ := Option.map_eq_some_iff.mp second
  obtain ⟨other, atEleven, otherPath⟩ := Option.map_eq_some_iff.mp eleventh
  obtain ⟨short, rfl⟩ := List.getElem?_eq_some_iff.mp atTwo
  obtain ⟨long, rfl⟩ := List.getElem?_eq_some_iff.mp atEleven
  have apart := List.pairwise_iff_getElem.mp attributed.coresApart 2 11 short long (by decide)
  rw [path, otherPath] at apart
  exact ⟨topology, accepted, attributed, clusters, cores, apart⟩

end Configuration

end Mainboard
