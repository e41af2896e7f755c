import Mainboard.Proofs.Topology.Levels

/-!
# What belongs to a cluster

Links and buses are kept in common lists, and what belongs to a cluster is told
by the names of their ends.  No other cluster has such names, nor has anything
that clusters share.  So the links from a cluster are those that were wired for
it, and its crossbar is the one bus of that name.
-/

namespace Mainboard

open Interconnect

/-- A link is from an owner if its requesting end is inside of it. -/
theorem Link.isFrom_iff {link : Link} {owner : String} :
    link.isFrom owner ↔ Inside owner link.source := by
  rw [isFrom, List.isPrefixOf_iff_prefix]
  constructor
  · rintro ⟨rest, same⟩
    refine ⟨String.ofList rest, String.toList_inj.mp ?_⟩
    simp [← same]
  · rintro ⟨rest, same⟩
    exact ⟨rest.toList, by simp [same]⟩

/-- A test that only the parts of one item pass picks these out of the parts of all. -/
theorem filter_flatMap_eq {α β : Type} {items : List α} {parts : α → List β} {test : β → Bool}
    {item : α} (distinct : items.Nodup) (member : item ∈ items)
    (own : ∀ part ∈ parts item, test part)
    (others : ∀ other ∈ items, other ≠ item → ∀ part ∈ parts other, ¬ test part) :
    (items.flatMap parts).filter test = parts item := by
  obtain ⟨before, after, rfl⟩ := List.append_of_mem member
  obtain ⟨-, rest, apart⟩ := List.nodup_append.mp distinct
  have first : (before.flatMap parts).filter test = [] := by
    refine List.filter_eq_nil_iff.mpr (List.forall_mem_flatMap.mpr fun other among => ?_)
    exact others other (List.mem_append_left _ among) (apart other among item List.mem_cons_self)
  have last : (after.flatMap parts).filter test = [] := by
    refine List.filter_eq_nil_iff.mpr (List.forall_mem_flatMap.mpr fun other among => ?_)
    refine others other (List.mem_append_right _ (List.mem_cons_of_mem _ among)) ?_
    rintro rfl
    exact (List.nodup_cons.mp rest).1 among
  rw [List.flatMap_append, List.flatMap_cons, List.filter_append, List.filter_append, first, last,
    List.filter_eq_self.mpr own, List.nil_append, List.append_nil]

namespace Topology.IsComposed

variable {topology : Topology} (composed : topology.IsComposed)
variable {cluster : Cluster} (member : cluster ∈ topology.clusters)
include composed member

/-- The links that are wired for a cluster are from it, and from no other. -/
theorem isFrom_iff_of_mem_links {other : Cluster} (among : other ∈ topology.clusters) {link : Link}
    (wired : link ∈ other.links topology.clusterBus) :
    link.isFrom cluster.name ↔ other = cluster := by
  have inside := ((composed.placed other among).inside_of_mem_links
    (composed.wired_of_mem_links among wired) wired).1
  rw [Link.isFrom_iff]
  constructor
  · intro also
    have names : other.name = cluster.name :=
      (Cluster.numbered_nameAt other.index).eq_of_inside (Cluster.numbered_nameAt cluster.index)
        inside also
    exact List.inj_on_of_nodup_map composed.nodup_names among member names
  · rintro rfl
    exact inside

/-- In each pass of the wiring, the links from a cluster are those that are wired for it. -/
theorem filter_isFrom_flatMap (pass : Cluster → List Link)
    (passes : ∀ other ∈ topology.clusters, pass other ⊆ other.links topology.clusterBus) :
    (topology.clusters.flatMap pass).filter (·.isFrom cluster.name) = pass cluster := by
  refine filter_flatMap_eq composed.nodup_names.of_map member ?_ ?_
  · intro link wired
    exact (composed.isFrom_iff_of_mem_links member member (passes cluster member wired)).mpr rfl
  · intro other among different link wired also
    exact different
      ((composed.isFrom_iff_of_mem_links member among (passes other among wired)).mp also)

omit composed member in
/-- The links that clusters share are from none of them. -/
theorem filter_isFrom_startLinks (cluster : Cluster) (deviceCache hasL3 : Bool) :
    (startLinks deviceCache hasL3).filter (·.isFrom cluster.name) = [] := by
  refine List.filter_eq_nil_iff.mpr fun link isStart also => ?_
  exact (firstChar?_startLinks _ _ link isStart).1
    (Cluster.firstChar?_of_inside (Link.isFrom_iff.mp also))

/-- The links from a cluster are those that are wired for it, pass by pass. -/
theorem linksFrom_name :
    topology.interconnect.linksFrom cluster.name = cluster.links topology.clusterBus := by
  obtain ⟨deviceCache, start, -⟩ := composed.links_perm
  have shared := filter_isFrom_startLinks cluster deviceCache topology.sharedL3.isSome
  rw [start, List.filter_append, List.append_eq_nil_iff] at shared
  have own := composed.filter_isFrom_flatMap member Cluster.privateLinks
    fun other _ => Cluster.privateLinks_subset
  have second := composed.filter_isFrom_flatMap member Cluster.l2Links
    fun other _ => Cluster.l2Links_subset
  have outward := composed.filter_isFrom_flatMap member (·.memoryLinks topology.clusterBus)
    fun other _ => Cluster.memoryLinks_subset
  rw [linksFrom, composed.links_eq, List.filter_append, List.filter_append, List.filter_append,
    List.filter_append, shared.1, own, second, shared.2, outward, List.nil_append, List.append_nil]
  rfl

/-- The crossbar of a cluster is found by its name. -/
theorem bus?_l2Bus (hasL2 : cluster.l2.isSome) : topology.interconnect.bus? cluster.l2Bus =
    some ⟨cluster.l2Bus, .l2 crossbarWidth, some cluster.clock⟩ := by
  have built : ⟨cluster.l2Bus, .l2 crossbarWidth, some cluster.clock⟩ ∈
      topology.interconnect.buses :=
    composed.mem_buses_iff.mpr (.inr (.inr (.inl ⟨cluster, member, hasL2, rfl⟩)))
  have alone := filter_view_eq_singleton composed.nodup_buses built
  rw [bus?, ← List.head?_filter, alone, List.head?_cons]

theorem isSome_bus?_l2Bus_iff :
    (topology.interconnect.bus? cluster.l2Bus).isSome ↔ cluster.l2.isSome := by
  rw [← composed.exists_l2Bus_iff member, bus?, List.find?_isSome]
  simp

end Topology.IsComposed

end Mainboard
