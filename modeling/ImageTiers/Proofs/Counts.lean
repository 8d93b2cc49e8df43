-- The counters of a linking. Each edge is counted when it is recorded, and each symbol when
-- the symbols of its library are told. The law: the counters are the sums of what the links
-- hold, and together they account for every name and symbol that a library declares.
import ImageTiers.Proofs.Links
import ImageTiers.Proofs.Policies
import Mathlib.Algebra.BigOperators.Group.List.Basic
import Mathlib.Algebra.GroupWithZero.Nat

namespace ImageTiers

/-! ## Edges -/

/-- A sum in which one of the parts counts one more. -/
theorem sum_map_raised {ids : List LibId} (hnodup : ids.Nodup) {raised : LibId}
    (hmem : raised ∈ ids) {f g : LibId → Nat}
    (hg : ∀ id, g id = if raised = id then f id + 1 else f id) :
    (ids.map g).sum = (ids.map f).sum + 1 := by
  induction ids with
  | nil => cases hmem
  | cons id ids ih =>
    obtain ⟨hnot, hnodup⟩ := List.nodup_cons.mp hnodup
    rw [List.map_cons, List.map_cons, List.sum_cons, List.sum_cons, hg]
    rcases List.mem_cons.mp hmem with rfl | hmem
    · have hrest : ids.map g = ids.map f := by
        apply List.map_congr_left
        intro id hid
        rw [hg, if_neg (ne_of_mem_of_not_mem hid hnot).symm]
      rw [if_pos rfl, hrest]
      omega
    · rw [if_neg (ne_of_mem_of_not_mem hmem hnot), ih hnodup hmem]
      omega

namespace Image

theorem map_nodes {α : Type} {img : Image} {f : Node → α} {g : LibId → α}
    (h : ∀ id node, img.node? id = some node → f node = g id) :
    img.nodes.toList.map f = img.ids.map g := by
  apply List.ext_getElem
  · simp [ids, size]
  · intro id hlt _
    rw [List.length_map, Array.length_toList] at hlt
    simp only [List.getElem_map, Array.getElem_toList, ids, List.getElem_range]
    exact h id _ (Array.getElem?_eq_getElem hlt)

theorem count_addEdge {img : Image} {edges : List Edge} (h : img.Holds edges) (count : Nat)
    (edge : Edge) :
    (addEdge (img, count) edge).2 = if edge ∈ edges then count else count + 1 := by
  obtain ⟨user, dep⟩ := edge
  have hmem : dep ∈ img.deps user ↔ (user, dep) ∈ edges := by rw [h.deps, mem_depsIn]
  by_cases hold : dep ∈ img.deps user
  · simp [addEdge, addEdge?, hold, hmem.mp hold]
  · simp [addEdge, addEdge?, hold, mt hmem.mpr hold]

/-- The counter of the edges is the sum of what the libraries need, and of what needs them. -/
theorem count_foldl_addEdge {img : Image} (edges : List Edge)
    (h : ∀ edge ∈ edges, edge.1 < img.size ∧ edge.2 < img.size) :
    (edges.foldl addEdge (img.clearLinks, 0)).2 =
        (img.ids.map fun id => (depsIn edges id).length).sum ∧
      (edges.foldl addEdge (img.clearLinks, 0)).2 =
        (img.ids.map fun id => (usersIn edges id).length).sum := by
  induction edges using List.reverseRecOn with
  | nil => simp [depsIn, usersIn]
  | append_singleton edges edge ih =>
    have hbefore : ∀ other ∈ edges, other.1 < img.size ∧ other.2 < img.size :=
      fun other hother => h other (List.mem_append_left _ hother)
    obtain ⟨hdeps, husers⟩ := ih hbefore
    have hcount := count_addEdge (holds_foldl_addEdge edges hbefore)
      (edges.foldl addEdge (img.clearLinks, 0)).2 edge
    obtain ⟨user, dep⟩ := edge
    obtain ⟨huser, hdep⟩ := h (user, dep) (by simp)
    rw [List.foldl_append, List.foldl_cons, List.foldl_nil, hcount]
    by_cases hold : (user, dep) ∈ edges
    · simp only [depsIn_concat, usersIn_concat, hold, not_true_eq_false, and_false, if_false,
        if_true]
      exact ⟨hdeps, husers⟩
    · rw [if_neg hold]
      refine ⟨?_, ?_⟩
      · rw [hdeps]
        refine (sum_map_raised List.nodup_range (List.mem_range.mpr huser) fun id => ?_).symm
        simp only [depsIn_concat, hold, not_false_eq_true, and_true, apply_ite List.length,
          List.length_append, List.length_singleton]
      · rw [husers]
        refine (sum_map_raised List.nodup_range (List.mem_range.mpr hdep) fun id => ?_).symm
        simp only [usersIn_concat, hold, not_false_eq_true, and_true, apply_ite List.length,
          List.length_append, List.length_singleton]

theorem depEdges_link {img : Image} (h : Indexed img) (fallback : Bool) :
    (img.link fallback).stats.depEdges =
        ((img.link fallback).image.nodes.toList.map (·.links.deps.length)).sum ∧
      (img.link fallback).stats.depEdges =
        ((img.link fallback).image.nodes.toList.map (·.links.users.length)).sum := by
  have hholds := holds_link h fallback
  have hids : (img.link fallback).image.ids = img.ids := by
    rw [ids, ids, size_of_clearLinks (clearLinks_link img fallback)]
  have hends : ∀ edge ∈ img.wantedEdges, edge.1 < img.size ∧ edge.2 < img.size := by
    rintro ⟨user, dep⟩ hedge
    rw [← length_libraries]
    exact foundBy_lt ((mem_wantedEdges h user dep).mp hedge)
  have hdeps : (img.link fallback).image.nodes.toList.map (·.links.deps.length) =
      (img.link fallback).image.ids.map fun id => (depsIn img.wantedEdges id).length :=
    map_nodes fun id node hnode => by rw [← hholds.deps, deps_of_node? hnode]
  have husers : (img.link fallback).image.nodes.toList.map (·.links.users.length) =
      (img.link fallback).image.ids.map fun id => (usersIn img.wantedEdges id).length :=
    map_nodes fun id node hnode => by rw [← hholds.users, users_of_node? hnode]
  rw [hdeps, husers, hids]
  exact count_foldl_addEdge img.wantedEdges hends

/-! ## Symbols -/

/-- A counter that goes over all libraries. -/
theorem foldl_add (f : Node → Nat) (nodes : List Node) :
    nodes.foldl (fun n node => n + f node) 0 = (nodes.map f).sum := by
  rw [List.sum_eq_foldl_nat, List.foldl_map]

theorem symbols_link (img : Image) (fallback : Bool) :
    (img.link fallback).stats.linkedSymbols =
        ((img.link fallback).image.nodes.toList.map (·.links.providers.size)).sum ∧
      (img.link fallback).stats.unresolvedSymbols =
        ((img.link fallback).image.nodes.toList.map (·.links.missing.size)).sum := by
  rw [← foldl_add, ← foldl_add]
  exact counters_link img fallback

end Image

/-- Each imported symbol is counted on one side. -/
theorem Links.Bound.size_add_size {links : Links} {libs : List Library} {fallback : Bool}
    {id : LibId} {lib : Library} (h : links.Bound libs fallback id lib) :
    links.providers.size + links.missing.size = lib.elf.imported.size := by
  have hset : ∀ s : SymbolSet, s.toList.Nodup := fun s =>
    s.distinct_toList.imp fun hne heq => hne (Std.LawfulEqCmp.compare_eq_iff_eq.mpr heq)
  have hperm : (links.providers.keys ++ links.missing.toList).Perm lib.elf.imported.toList := by
    rw [List.perm_ext_iff_of_nodup _ (hset _)]
    · intro s
      rw [List.mem_append, Std.ExtTreeMap.mem_keys, Std.ExtTreeSet.mem_toList,
        Std.ExtTreeSet.mem_toList]
      exact (h.sides s).2
    · rw [List.nodup_append]
      refine ⟨Std.ExtTreeMap.nodup_keys, hset _, ?_⟩
      rintro s hs _ hs' rfl
      rw [Std.ExtTreeMap.mem_keys] at hs
      rw [Std.ExtTreeSet.mem_toList] at hs'
      exact (h.sides s).1 ⟨hs, hs'⟩
  simpa using hperm.length_eq

theorem Image.imported_link {img : Image} (h : Indexed img) (fallback : Bool) :
    (img.link fallback).stats.linkedSymbols + (img.link fallback).stats.unresolvedSymbols =
      (img.libraries.map (·.elf.imported.size)).sum := by
  obtain ⟨hlinked, hunresolved⟩ := symbols_link img fallback
  rw [hlinked, hunresolved, ← List.sum_map_add,
    ← libraries_of_clearLinks (clearLinks_link img fallback), libraries, List.map_map]
  congr 1
  apply List.map_congr_left
  intro node hmem
  obtain ⟨id, hnode⟩ := List.mem_iff_getElem?.mp hmem
  rw [Array.getElem?_toList] at hnode
  exact (node?_link h fallback hnode).2.2.size_add_size

/-! ## Names -/

/-- The names that mean the library `id` itself. -/
def ownNames (means : String → Option LibId) (id : LibId) (names : List String) : List String :=
  names.filter (means · = some id)

/-- The names, with their places, that mean another library than `id`, which a name before
them means already. -/
def repeatedNames (means : String → Option LibId) (id : LibId) (names : List String) :
    List (String × Nat) :=
  names.zipIdx.filter fun (soname, place) =>
    (means soname).any fun dep => dep ≠ id && (names.take place).any (means · = some dep)

theorem repeatedNames_concat (means : String → Option LibId) (id : LibId) (names : List String)
    (soname : String) :
    repeatedNames means id (names ++ [soname]) = repeatedNames means id names ++
      if (means soname).any fun dep => dep ≠ id && names.any (means · = some dep) then
        [(soname, names.length)] else [] := by
  rw [repeatedNames, List.zipIdx_append, List.filter_append]
  congr 1
  · -- The names before the last one have the same names before them.
    apply List.filter_congr
    rintro ⟨other, place⟩ hmem
    have hlt := List.snd_lt_of_mem_zipIdx hmem
    simp only [List.take_append_of_le_length hlt.le]
  · simp [List.zipIdx_cons, List.filter_cons]

/-- Each name means nothing, the library itself, a library that was meant before, or one
more library. -/
theorem length_names (means : String → Option LibId) (id : LibId) (names : List String) :
    names.length =
      ((names.filterMap means).filter (· ≠ id)).eraseDups.length +
        (names.filter (means · = none)).length + (ownNames means id names).length +
        (repeatedNames means id names).length := by
  induction names using List.reverseRecOn with
  | nil => rfl
  | append_singleton names soname ih =>
    rw [repeatedNames_concat, ownNames, List.filter_append, List.filter_append, ← ownNames,
      List.filterMap_append, List.filter_append]
    simp only [List.length_append, ih]
    rcases hmeans : means soname with _ | dep
    · simp [hmeans]
      omega
    · by_cases hown : dep = id
      · simp [hmeans, hown]
        omega
      · have hold : dep ∈ (names.filterMap means).filter (· ≠ id) ↔
            names.any (means · = some dep) = true := by
          simp [hown]
        have hlast : ([soname].filterMap means).filter (· ≠ id) = [dep] := by simp [hmeans, hown]
        rw [hlast, eraseDups_concat, if_congr hold rfl rfl]
        by_cases hany : names.any (means · = some dep) = true
        · simp [hmeans, hown, hany]
          omega
        · simp [hmeans, hown, hany]
          omega

namespace Image

theorem depEdges_eq_mapIdx {img : Image} (h : Indexed img) (fallback : Bool) :
    (img.link fallback).stats.depEdges =
      (img.libraries.mapIdx fun id lib =>
        ((lib.elf.needed.filterMap (meant? img.libraries lib.group)).filter
          (· ≠ id)).eraseDups.length).sum := by
  rw [(depEdges_link h fallback).1]
  congr 1
  apply List.ext_getElem?
  intro id
  rw [List.getElem?_map, Array.getElem?_toList, List.getElem?_mapIdx,
    ← libraries_of_clearLinks (clearLinks_link img fallback), getElem?_libraries]
  cases hnode : (img.link fallback).image.node? id with
  | none => simpa [node?] using hnode
  | some node =>
    have hlib : img.libraries[id]? = some node.toLibrary := (node?_link h fallback hnode).1
    have hdeps := deps_link h fallback id
    rw [deps_of_node? hnode, foundBy, hlib] at hdeps
    rw [show (img.link fallback).image.nodes[id]? = some node from hnode]
    simp [hdeps, libraries_of_clearLinks (clearLinks_link img fallback)]

theorem missingDeps_link {img : Image} (h : Indexed img) (fallback : Bool) :
    (img.link fallback).stats.missingDeps = (unmet img.libraries).length := by
  rw [← (counts_link img fallback).1, deps_report_link h]

theorem needed_link {img : Image} (h : Indexed img) (fallback : Bool) :
    (img.libraries.map (·.elf.needed.length)).sum =
      (img.link fallback).stats.depEdges + (img.link fallback).stats.missingDeps +
        (img.libraries.mapIdx fun id lib =>
          (ownNames (meant? img.libraries lib.group) id lib.elf.needed).length).sum +
        (img.libraries.mapIdx fun id lib =>
          (repeatedNames (meant? img.libraries lib.group) id lib.elf.needed).length).sum := by
  have hzip : ∀ f : Library → Nat,
      img.libraries.map f = img.libraries.zipIdx.map fun entry => f entry.1 := by
    intro f
    rw [show (fun entry : Library × Nat => f entry.1) = f ∘ Prod.fst from rfl, ← List.map_map,
      List.zipIdx_map_fst]
  rw [depEdges_eq_mapIdx h, missingDeps_link h]
  simp only [List.mapIdx_eq_zipIdx_map, unmet, List.length_flatMap, List.length_map, hzip,
    ← List.sum_map_add]
  congr 1
  apply List.map_congr_left
  rintro ⟨lib, id⟩ _
  exact length_names (meant? img.libraries lib.group) id lib.elf.needed

end Image

namespace Linker

/-! ## The law -/

/-- A linking accounts for all that is declared. Each edge is counted once, with the library
that needs and with the one that is needed, and each imported symbol is counted as bound or
as missing. Each needed name counts as an edge or as missing, unless it means the library
itself, or another one that a name before it means already. -/
theorem a_linking_accounts_for_all_that_is_declared {l : Linker} (h : Reachable l)
    {stats : LinkStats} (hstats : l.resolve.outcome = .ok stats) :
    ∃ nodes libs, nodes = l.resolve.linker.image.nodes.toList ∧
      libs = l.resolve.linker.image.libraries ∧
      stats.depEdges = (nodes.map (·.links.deps.length)).sum ∧
      stats.depEdges = (nodes.map (·.links.users.length)).sum ∧
      stats.linkedSymbols = (nodes.map (·.links.providers.size)).sum ∧
      stats.unresolvedSymbols = (nodes.map (·.links.missing.size)).sum ∧
      stats.linkedSymbols + stats.unresolvedSymbols = (libs.map (·.elf.imported.size)).sum ∧
      stats.missingDeps = (unmet libs).length ∧
      (libs.map (·.elf.needed.length)).sum =
        stats.depEdges + stats.missingDeps +
          (libs.mapIdx fun id lib =>
            (ownNames (meant? libs lib.group) id lib.elf.needed).length).sum +
          (libs.mapIdx fun id lib =>
            (repeatedNames (meant? libs lib.group) id lib.elf.needed).length).sum := by
  have hindexed := h.indexed
  have hlibs : l.resolve.linker.image.libraries = l.image.libraries :=
    Image.libraries_of_clearLinks (Image.clearLinks_link _ _)
  have hlinked : stats = l.linked.stats := by
    rw [outcome_resolve] at hstats
    split at hstats
    · exact (Except.ok.inj hstats).symm
    · cases hstats
  subst hlinked
  refine ⟨_, _, rfl, rfl, (Image.depEdges_link hindexed _).1, (Image.depEdges_link hindexed _).2,
    (Image.symbols_link _ _).1, (Image.symbols_link _ _).2, ?_, ?_, ?_⟩
  · rw [hlibs]
    exact Image.imported_link hindexed _
  · rw [hlibs]
    exact Image.missingDeps_link hindexed _
  · rw [hlibs]
    exact Image.needed_link hindexed _

/-- Of the six names in the sample one means its own library, one comes a second time, and
one means nothing. -/
theorem three_of_the_six_names_in_the_sample_are_edges :
    Reachable (default.after sampleRun) ∧
      ∃ stats, (default.after sampleRun).resolve.outcome = .ok stats ∧
        stats.missingDeps = 1 ∧ stats.depEdges = 3 := by
  have hreach := (Reachable.fresh .default).after sampleRun
  have hok : (default.after sampleRun).resolve.outcome =
      .ok (default.after sampleRun).linked.stats := by
    rw [outcome_resolve, config_after]
    rfl
  obtain ⟨_, libs, _, hlibs, _, _, _, _, _, hmissing, hnames⟩ :=
    a_linking_accounts_for_all_that_is_declared hreach hok
  rw [Fresh.default.libraries_resolve] at hlibs
  rw [hlibs] at hmissing hnames
  have hone : (unmet (default.accepted sampleRun)).length = 1 := by decide +kernel
  have hsix : ((default.accepted sampleRun).map (·.elf.needed.length)).sum = 6 := by
    decide +kernel
  have hown : ((default.accepted sampleRun).mapIdx fun id lib =>
      (ownNames (meant? (default.accepted sampleRun) lib.group) id lib.elf.needed).length).sum =
        1 := by
    decide +kernel
  have hrepeated : ((default.accepted sampleRun).mapIdx fun id lib =>
      (repeatedNames (meant? (default.accepted sampleRun) lib.group) id
        lib.elf.needed).length).sum = 1 := by
    decide +kernel
  exact ⟨hreach, _, hok, by omega, by omega⟩

end Linker

end ImageTiers
