import Mathlib.Data.List.Perm.Basic
import Mainboard.Proofs.Topology.Composition

/-!
# The ends of links

The links of a machine are those of its start and of its third level, and the
links of its clusters.  For each core and each cluster this file says which
requesting ends they leave, which of them lead into a cache, and that all of
these ends are inside of the cluster: the only way out is to the bus that
clusters share.
-/

namespace Mainboard

open Interconnect

/-- Chosen items have two names.  To list them apart by the first and in their places by the
second gives the same names as the other way round. -/
theorem perm_exchange {α β : Type} (items : List α) (chosen : α → Bool) (first second : α → β) :
    ((items.filter chosen).map first ++
        items.map fun item => if chosen item then second item else first item).Perm
      ((items.filter chosen).map second ++ items.map first) := by
  induction items with
  | nil => exact .refl _
  | cons item items ih =>
      cases choice : chosen item with
      | false =>
          simp only [List.filter_cons, List.map_cons, choice]
          exact List.perm_middle.trans ((ih.cons _).trans List.perm_middle.symm)
      | true =>
          simp only [List.filter_cons, List.map_cons, choice, if_true, List.cons_append]
          calc first item :: ((items.filter chosen).map first ++ second item :: _)
            _ |>.Perm (first item :: second item :: _) := List.perm_middle.cons _
            _ |>.Perm (first item :: second item :: _) := (ih.cons _).cons _
            _ |>.Perm (second item :: first item :: _) := .swap ..
            _ |>.Perm _ := List.perm_middle.symm.cons _

/-- The only member of a list without repeated views that has the view of a member. -/
theorem filter_view_eq_singleton {α β : Type} [DecidableEq β] {items : List α} {view : α → β}
    {item : α} (distinct : (items.map view).Nodup) (member : item ∈ items) :
    (items.filter fun other => view other = view item) = [item] := by
  obtain ⟨before, after, rfl⟩ := List.append_of_mem member
  rw [List.map_append, List.map_cons, List.nodup_append] at distinct
  obtain ⟨-, rest, apart⟩ := distinct
  have unlikeBefore : ∀ other ∈ before, view other ≠ view item := fun other among =>
    apart _ (List.mem_map_of_mem among) _ List.mem_cons_self
  have unlikeAfter : ∀ other ∈ after, view other ≠ view item := fun other among same =>
    (List.nodup_cons.mp rest).1 (same ▸ List.mem_map_of_mem among)
  rw [List.filter_append, List.filter_cons_of_pos (by simp),
    List.filter_eq_nil_iff.mpr (by simpa using unlikeBefore),
    List.filter_eq_nil_iff.mpr (by simpa using unlikeAfter), List.nil_append]

theorem lastChar?_respondingSide (bus : String) : lastChar? (respondingSide bus) = some 's' :=
  lastChar?_append bus rfl

theorem lastChar?_requestingSide (bus : String) : lastChar? (requestingSide bus) = some 's' :=
  lastChar?_append bus rfl

/-- A link leads into a cache, whose responding ends are the only ones with that last letter. -/
def Link.isIntoCache (link : Link) : Bool := lastChar? link.target = some 'e'

@[simp]
theorem Link.isIntoCache_cpuSide (source path : String) :
    isIntoCache ⟨source, path ++ ".cpu_side"⟩ = true :=
  decide_eq_true (lastChar?_append path rfl)

@[simp]
theorem Link.isIntoCache_respondingSide (source bus : String) :
    isIntoCache ⟨source, respondingSide bus⟩ = false := by
  rw [isIntoCache, lastChar?_respondingSide]
  decide

namespace Core

variable (core : Core) (bus : String)

/-- The streams for which a core has a private cache. -/
def cachedStreams : List Stream := Stream.all.filter fun stream => (core.cacheAt? stream).isSome

def cachePaths : List String := core.cacheInstances.map (·.1)

def outlets : List String := Stream.all.map core.outlet

/-- All links of a core that faces memory at a bus. -/
def links : List Link := core.privateLinks ++ core.outwardLinks bus

theorem cachePaths_eq : core.cachePaths = core.cachedStreams.map core.cachePath := by
  cases caching : core.caches with
  | none => simp [cachePaths, cacheInstances, cachedStreams, cacheAt?, caching]
  | some caches =>
      simp only [cachePaths, cacheInstances, cachedStreams, cacheAt?, caching]
      cases fetch : caches.fetchWalk <;> cases data : caches.dataWalk <;>
        simp [Stream.all, PrivateCaches.at?, fetch, data, cachePath]

theorem cachePath_injective : Function.Injective core.cachePath := by
  intro first second same
  exact Stream.cacheName_injective ((String.append_right_inj _).mp same)

theorem outlet_injective : Function.Injective core.outlet := by
  intro first second same
  exact Stream.outlet_injective ((String.append_right_inj _).mp same)

theorem lastChar?_outlet (stream : Stream) : lastChar? (core.outlet stream) ≠ some 'e' := by
  intro last
  cases stream <;> cases last.symm.trans (lastChar?_append _ rfl)

theorem inside_outlet (stream : Stream) : Inside core.path (core.outlet stream) :=
  inside_append _ _

theorem inside_cachePath (stream : Stream) : Inside core.path (core.cachePath stream) :=
  inside_append _ _

theorem nodup_cachePaths : core.cachePaths.Nodup := by
  rw [cachePaths_eq]
  exact (Stream.nodup_all.filter _).map core.cachePath_injective

theorem inside_of_mem_cachePaths {path : String} (among : path ∈ core.cachePaths) :
    Inside core.path path := by
  rw [cachePaths_eq] at among
  obtain ⟨stream, -, rfl⟩ := List.mem_map.mp among
  exact core.inside_cachePath stream

/-- The links of a core leave its outlets and the far sides of its caches. -/
theorem sources_perm :
    ((core.links bus).map (·.source)).Perm
      (core.cachePaths.map (· ++ ".mem_side") ++ core.outlets) := by
  have exchanged := perm_exchange Stream.all (fun stream => (core.cacheAt? stream).isSome)
    core.outlet (core.cachePath · ++ ".mem_side")
  rw [cachePaths_eq, List.map_map]
  rw [links, privateLinks, outwardLinks, List.map_append, List.map_map, List.map_map]
  exact exchanged

theorem nodup_sources : ((core.links bus).map (·.source)).Nodup := by
  rw [(core.sources_perm bus).nodup_iff, List.nodup_append]
  refine ⟨?_, ?_, ?_⟩
  · exact core.nodup_cachePaths.map fun first second same => (String.append_left_inj _).mp same
  · exact Stream.nodup_all.map core.outlet_injective
  · intro side isSide outlet isOutlet same
    obtain ⟨path, -, rfl⟩ := List.mem_map.mp isSide
    obtain ⟨stream, -, rfl⟩ := List.mem_map.mp isOutlet
    exact core.lastChar?_outlet stream (same ▸ lastChar?_append path rfl)

/-- Of the links of a core those that lead into a cache lead into its own, one into each. -/
theorem targets_into_caches :
    ((core.links bus).filter Link.isIntoCache).map (·.target) =
      core.cachePaths.map (· ++ ".cpu_side") := by
  have into : core.privateLinks.filter Link.isIntoCache = core.privateLinks := by
    rw [List.filter_eq_self]
    intro link member
    obtain ⟨stream, -, rfl⟩ := List.mem_map.mp member
    exact Link.isIntoCache_cpuSide _ _
  have outward : (core.outwardLinks bus).filter Link.isIntoCache = [] := by
    rw [List.filter_eq_nil_iff]
    intro link member
    obtain ⟨stream, -, rfl⟩ := List.mem_map.mp member
    simp
  rw [links, List.filter_append, into, outward, List.append_nil, cachePaths_eq, List.map_map,
    privateLinks, List.map_map]
  rfl

variable {core bus} in
/-- A link of a core leaves the far side of one of its caches, or one of its outlets. -/
theorem source_of_mem {link : Link} (member : link ∈ core.links bus) :
    (∃ path ∈ core.cachePaths, link.source = path ++ ".mem_side") ∨
      ∃ stream, link.source = core.outlet stream := by
  have source := (core.sources_perm bus).mem_iff.mp (List.mem_map_of_mem member)
  rcases List.mem_append.mp source with cached | outlet
  · obtain ⟨path, among, same⟩ := List.mem_map.mp cached
    exact .inl ⟨path, among, same.symm⟩
  · obtain ⟨stream, -, same⟩ := List.mem_map.mp outlet
    exact .inr ⟨stream, same.symm⟩

variable {core bus} in
/-- A link of a core leads into one of its caches, or to the bus. -/
theorem target_of_mem {link : Link} (member : link ∈ core.links bus) :
    (∃ path ∈ core.cachePaths, link.target = path ++ ".cpu_side") ∨
      link.target = respondingSide bus := by
  rcases List.mem_append.mp member with into | outward
  · obtain ⟨stream, cached, rfl⟩ := List.mem_map.mp into
    exact .inl ⟨_, core.cachePaths_eq ▸ List.mem_map_of_mem cached, rfl⟩
  · obtain ⟨stream, -, rfl⟩ := List.mem_map.mp outward
    exact .inr rfl

theorem inside_source {link : Link} (member : link ∈ core.links bus) :
    Inside core.path link.source := by
  obtain ⟨path, cached, source⟩ | ⟨stream, source⟩ := source_of_mem member
  · exact source ▸ (core.inside_of_mem_cachePaths cached).append _
  · exact source ▸ core.inside_outlet stream

theorem inside_target {link : Link} (member : link ∈ core.links bus) :
    Inside core.path link.target ∨ link.target = respondingSide bus := by
  obtain ⟨path, cached, target⟩ | target := target_of_mem member
  · exact .inl (target ▸ (core.inside_of_mem_cachePaths cached).append _)
  · exact .inr target

end Core

namespace Cluster

variable {cluster : Cluster} {bus : String}

def cachePaths (cluster : Cluster) : List String := cluster.cacheInstances.map (·.1)

/-- The bus that the cores of a cluster face memory at. -/
def entryBus (cluster : Cluster) (bus : String) : String :=
  if cluster.l2.isSome then cluster.l2Bus else bus

/-- The links of the second level. -/
def sharedLinks (cluster : Cluster) (bus : String) : List Link :=
  if cluster.l2.isSome then
    [⟨requestingSide cluster.l2Bus, cluster.l2Path ++ ".cpu_side"⟩,
      ⟨cluster.l2Path ++ ".mem_side", respondingSide bus⟩]
  else []

theorem mem_sharedLinks {link : Link} (member : link ∈ cluster.sharedLinks bus) :
    cluster.l2.isSome ∧
      (link = ⟨requestingSide cluster.l2Bus, cluster.l2Path ++ ".cpu_side"⟩ ∨
        link = ⟨cluster.l2Path ++ ".mem_side", respondingSide bus⟩) := by
  rw [sharedLinks] at member
  split at member
  next hasL2 => simpa [hasL2] using member
  next => cases member

/-- All links of a cluster that faces memory at a bus. -/
def links (cluster : Cluster) (bus : String) : List Link :=
  cluster.privateLinks ++ cluster.l2Links ++ cluster.memoryLinks bus

theorem privateLinks_subset : cluster.privateLinks ⊆ cluster.links bus :=
  List.subset_append_of_subset_left _ (List.subset_append_left ..)

theorem l2Links_subset : cluster.l2Links ⊆ cluster.links bus :=
  List.subset_append_of_subset_left _ (List.subset_append_right ..)

theorem memoryLinks_subset : cluster.memoryLinks bus ⊆ cluster.links bus :=
  List.subset_append_right ..

theorem cachePaths_eq : cluster.cachePaths = cluster.cores.flatMap Core.cachePaths ++
    if cluster.l2.isSome then [cluster.l2Path] else [] := by
  rw [cachePaths, cacheInstances, List.map_append, List.map_flatMap]
  cases cluster.l2 <;> rfl

theorem links_perm (wired : cluster.model.isSelfBridged = false) :
    (cluster.links bus).Perm
      (cluster.cores.flatMap (·.links (cluster.entryBus bus)) ++ cluster.sharedLinks bus) := by
  -- Wiring goes pass by pass over the cores; here the passes are brought together core by core.
  have regrouped : (cluster.cores.flatMap Core.privateLinks ++
      cluster.cores.flatMap (·.outwardLinks (cluster.entryBus bus))).Perm
      (cluster.cores.flatMap (·.links (cluster.entryBus bus))) :=
    List.flatMap_append_perm ..
  cases second : cluster.l2 with
  | none =>
      simp only [links, l2Links, memoryLinks, sharedLinks, entryBus, second, wired] at regrouped ⊢
      simpa [privateLinks] using regrouped
  | some cache =>
      simp only [links, l2Links, memoryLinks, sharedLinks, entryBus, second] at regrouped ⊢
      simpa [privateLinks] using regrouped.append_right _

/-- A bare cluster that is bridged into the machine by itself has no links. -/
theorem IsBare.links_eq_nil (bare : cluster.IsBare) (bridged : cluster.model.isSelfBridged) :
    cluster.links bus = [] := by
  have alone : cluster.privateLinks = [] := by
    rw [privateLinks, List.flatMap_eq_nil_iff]
    intro core member
    simp [Core.privateLinks, Core.cacheAt?, bare.caches core member]
  simp [links, l2Links, memoryLinks, alone, bare.l2, bridged]

theorem IsBare.cachePaths_eq_nil (bare : cluster.IsBare) : cluster.cachePaths = [] := by
  rw [cachePaths_eq, bare.l2, List.append_eq_nil_iff, List.flatMap_eq_nil_iff]
  refine ⟨fun core member => ?_, rfl⟩
  rw [Core.cachePaths, Core.cacheInstances, bare.caches core member]
  rfl

theorem l2Path_append (cluster : Cluster) (more : String) :
    cluster.l2Path ++ more = cluster.name ++ "." ++ ("l2" ++ more) := by
  rw [l2Path, String.append_assoc, String.append_assoc, ← @String.append_assoc "."]
  rfl

theorem l2Bus_append (cluster : Cluster) (more : String) :
    cluster.l2Bus ++ more = cluster.name ++ "." ++ ("toL2Bus" ++ more) := by
  rw [l2Bus, String.append_assoc, String.append_assoc, ← @String.append_assoc "."]
  rfl

theorem inside_l2Path (cluster : Cluster) : Inside cluster.name cluster.l2Path :=
  ⟨"l2", by rw [l2Path, String.append_assoc]; rfl⟩

theorem inside_l2Bus (cluster : Cluster) : Inside cluster.name cluster.l2Bus :=
  ⟨"toL2Bus", by rw [l2Bus, String.append_assoc]; rfl⟩

section Placed

variable (placed : cluster.IsPlaced)
include placed

theorem IsPlaced.numbered {core : Core} (member : core ∈ cluster.cores) :
    Numbered (cluster.name ++ ".cpus") core.path := by
  obtain ⟨place, path⟩ := placed.path_of_mem member
  exact path ▸ numbered_corePath _ _

theorem IsPlaced.inside {core : Core} (member : core ∈ cluster.cores) :
    Inside cluster.name core.path := by
  obtain ⟨place, path⟩ := placed.path_of_mem member
  exact path ▸ inside_corePath _ _

/-- Nothing inside of a core is taken for the second level or the bus in front of it. -/
theorem IsPlaced.ne_of_inside {core : Core} (member : core ∈ cluster.cores) {name rest : String}
    (inside : Inside core.path name) (other : firstChar? rest ≠ some 'c') :
    name ≠ cluster.name ++ "." ++ rest := by
  obtain ⟨place, path⟩ := placed.path_of_mem member
  rintro rfl
  exact other (firstChar?_of_inside_corePath (path ▸ inside))

theorem IsPlaced.ne_l2Path_append {core : Core} (member : core ∈ cluster.cores) {name : String}
    (inside : Inside core.path name) (more : String) : name ≠ cluster.l2Path ++ more := by
  rw [l2Path_append]
  exact placed.ne_of_inside member inside (by rw [firstChar?_append more rfl]; decide)

theorem IsPlaced.ne_l2Bus_append {core : Core} (member : core ∈ cluster.cores) {name : String}
    (inside : Inside core.path name) (more : String) : name ≠ cluster.l2Bus ++ more := by
  rw [l2Bus_append]
  exact placed.ne_of_inside member inside (by rw [firstChar?_append more rfl]; decide)

theorem IsPlaced.nodup_cachePaths : cluster.cachePaths.Nodup := by
  rw [cachePaths_eq, List.nodup_append]
  refine ⟨?_, ?_, ?_⟩
  · exact nodup_flatMap_inside (fun core => placed.numbered) placed.nodup_paths
      (fun core _ _ => core.inside_of_mem_cachePaths) fun core _ => core.nodup_cachePaths
  · split <;> simp
  · intro path among second isSecond
    obtain ⟨core, member, cached⟩ := List.mem_flatMap.mp among
    have apart := placed.ne_l2Path_append member (core.inside_of_mem_cachePaths cached) ""
    split at isSecond
    · obtain rfl := List.mem_singleton.mp isSecond
      simpa using apart
    · cases isSecond

/-- A cluster leaves no requesting end twice. -/
theorem IsPlaced.nodup_sources (wired : cluster.model.isSelfBridged = false) :
    ((cluster.links bus).map (·.source)).Nodup := by
  rw [((links_perm wired).map _).nodup_iff, List.map_append, List.map_flatMap, List.nodup_append]
  refine ⟨?_, ?_, ?_⟩
  · refine nodup_flatMap_inside (fun core => placed.numbered) placed.nodup_paths ?_
      fun core _ => core.nodup_sources _
    intro core _ source among
    obtain ⟨link, member, rfl⟩ := List.mem_map.mp among
    exact core.inside_source _ member
  · rw [sharedLinks]
    split
    · suffices requestingSide cluster.l2Bus ≠ cluster.l2Path ++ ".mem_side" by simpa
      intro same
      have last := lastChar?_requestingSide cluster.l2Bus
      rw [same, lastChar?_append _ rfl] at last
      cases last
    · exact List.nodup_nil
  · intro source among second isSecond
    obtain ⟨core, member, sources⟩ := List.mem_flatMap.mp among
    obtain ⟨link, isLink, rfl⟩ := List.mem_map.mp sources
    have inside := core.inside_source _ isLink
    obtain ⟨shared, isShared, rfl⟩ := List.mem_map.mp isSecond
    obtain ⟨-, rfl | rfl⟩ := mem_sharedLinks isShared
    · exact placed.ne_l2Bus_append member inside _
    · exact placed.ne_l2Path_append member inside _

/-- The links of a cluster leave ends inside of it, and lead to others or to the bus. -/
theorem IsPlaced.inside_of_mem_links (wired : cluster.model.isSelfBridged = false) {link : Link}
    (member : link ∈ cluster.links bus) :
    Inside cluster.name link.source ∧
      (Inside cluster.name link.target ∨ link.target = respondingSide bus) := by
  rcases List.mem_append.mp ((links_perm wired).mem_iff.mp member) with own | second
  · obtain ⟨core, among, isLink⟩ := List.mem_flatMap.mp own
    have inside := placed.inside among
    refine ⟨inside.trans (core.inside_source _ isLink), ?_⟩
    rcases core.inside_target _ isLink with within | outward
    · exact .inl (inside.trans within)
    · rw [outward, entryBus]
      split
      · exact .inl (cluster.inside_l2Bus.append _)
      · exact .inr rfl
  · obtain ⟨-, rfl | rfl⟩ := mem_sharedLinks second
    · exact ⟨cluster.inside_l2Bus.append _, .inl (cluster.inside_l2Path.append _)⟩
    · exact ⟨cluster.inside_l2Path.append _, .inr rfl⟩

end Placed

/-- Of the links of a cluster those that lead into a cache lead into its own, one into each. -/
theorem targets_into_caches (wired : cluster.model.isSelfBridged = false) :
    (((cluster.links bus).filter Link.isIntoCache).map (·.target)).Perm
      (cluster.cachePaths.map (· ++ ".cpu_side")) := by
  have own : (cluster.cores.flatMap fun core =>
      ((core.links (cluster.entryBus bus)).filter Link.isIntoCache).map (·.target)) =
      (cluster.cores.flatMap Core.cachePaths).map (· ++ ".cpu_side") := by
    rw [List.map_flatMap]
    exact List.flatMap_congr fun core _ => core.targets_into_caches _
  have second : ((cluster.sharedLinks bus).filter Link.isIntoCache).map (·.target) =
      (if cluster.l2.isSome then [cluster.l2Path] else []).map (· ++ ".cpu_side") := by
    rw [sharedLinks]
    split <;> simp
  refine (((links_perm wired).filter _).map _).trans (.of_eq ?_)
  rw [List.filter_append, List.filter_flatMap, List.map_append, List.map_flatMap, own, second,
    cachePaths_eq, List.map_append]

end Cluster

end Mainboard
