-- Reports. They name libraries by their paths, and they list paths, and libraries by their
-- paths, in order. The laws: two linkers whose images hold the same libraries with the same
-- edges print the same, wherever the libraries stand.
import ImageTiers.Proofs.Renumbering
import ImageTiers.Report

namespace ImageTiers

/-! ## Order -/

theorem pairwise_mergeSort_key {α : Type} (key : α → String) (l : List α) :
    (l.mergeSort (key · ≤ key ·)).Pairwise (key · ≤ key ·) := by
  have hsorted := @List.pairwise_mergeSort α (fun a b => decide (key a ≤ key b))
    (fun a b c hab hbc => by simpa using String.le_trans (by simpa using hab) (by simpa using hbc))
    (fun a b => by simpa using String.le_total (key a) (key b)) l
  simpa using hsorted

/-- Where no two keys are the same, each one in the order is less than those after it. -/
theorem pairwise_lt_mergeSort_key {α : Type} (key : α → String) {l : List α}
    (h : (l.map key).Nodup) : (l.mergeSort (key · ≤ key ·)).Pairwise (key · < key ·) := by
  have hnodup : ((l.mergeSort (key · ≤ key ·)).map key).Nodup :=
    ((List.mergeSort_perm l _).map key).nodup_iff.mpr h
  refine (pairwise_mergeSort_key key l).imp₂ ?_ (List.pairwise_map.mp hnodup)
  intro a b hle hne
  apply String.not_le.mp
  intro hge
  exact hne (String.le_antisymm hle hge)

/-- What is listed in order does not depend on the order it came in. -/
theorem mergeSort_eq_of_perm {a b : List String} (h : a.Perm b) :
    a.mergeSort (· ≤ ·) = b.mergeSort (· ≤ ·) := by
  apply List.Perm.eq_of_pairwise (fun _ _ _ _ => String.le_antisymm)
    (pairwise_mergeSort_key (fun s => s) a) (pairwise_mergeSort_key (fun s => s) b)
  exact ((List.mergeSort_perm a _).trans h).trans (List.mergeSort_perm b _).symm

namespace Report

theorem mem_sortedNodes (img : Image) (node : Node) :
    node ∈ sortedNodes img ↔ ∃ id, img.node? id = some node := by
  rw [sortedNodes, List.mem_mergeSort, Array.mem_toList_iff, Array.mem_iff_getElem?]
  rfl

/-- The libraries stand in the order of their paths, and no two share one. -/
theorem pairwise_sortedNodes {img : Image} (h : img.Indexed) :
    (sortedNodes img).Pairwise (·.path < ·.path) := by
  apply pairwise_lt_mergeSort_key fun node : Node => node.path
  have hnodup := h.paths_nodup
  rwa [Image.libraries, List.map_map] at hnodup

end Report

namespace Linker

variable {f : LibId → LibId} {keep : ElfClass → Prop} {l l' : Linker}

/-! ## Lists of libraries -/

namespace Alike

variable (h : Alike f keep l l')

include h

/-- Two lists of the same libraries have the same paths. -/
theorem paths {ids ids' : List LibId} (hnodup : ids.Nodup) (hnodup' : ids'.Nodup)
    (hlt : ∀ id ∈ ids, id < l.image.size) (hmem : ∀ id', id' ∈ ids' ↔ ∃ id ∈ ids, f id = id') :
    l'.image.paths ids' = l.image.paths ids := by
  simp only [← Image.length_libraries] at hlt
  have hmap : (ids.map f).Nodup := by
    apply hnodup.map_on
    intro a ha b hb
    exact h.libraries.inj a b (hlt a ha) (hlt b hb)
  have hperm : ids'.Perm (ids.map f) := by
    rw [List.perm_ext_iff_of_nodup hnodup' hmap]
    intro id'
    rw [hmem, List.mem_map]
  apply mergeSort_eq_of_perm
  apply (hperm.map l'.image.path).trans
  rw [List.map_map]
  apply List.Perm.of_eq
  apply List.map_congr_left
  intro id hid
  exact h.path (hlt id hid)

theorem toLibrary {id : LibId} {node node' : Node} (hnode : l.image.node? id = some node)
    (hnode' : l'.image.node? (f id) = some node') : node'.toLibrary = node.toLibrary := by
  have hlt := Image.lt_size_of_node? hnode
  rw [← Image.length_libraries] at hlt
  have hsame := h.node? hlt
  rwa [hnode, hnode', Option.map_some, Option.map_some, Option.some.injEq] at hsame

end Alike

/-! ## One library and what it needs -/

namespace Within

variable (h : Within f keep l l') {id : LibId} {node node' : Node}
  (hnode : l.image.node? id = some node) (hnode' : l'.image.node? (f id) = some node')

include h hnode

/-- The linked symbols as they are printed, with the paths of their providers. -/
theorem linked_paths (hproviders : node'.links.providers = node.links.providers.map fun _ => f) :
    node'.links.linked.map (fun (symbol, id) => (symbol, Json.string (l'.image.path id))) =
      node.links.linked.map fun (symbol, id) => (symbol, Json.string (l.image.path id)) := by
  rw [Links.linked, Links.linked, hproviders, Std.ExtTreeMap.toList_map, List.map_map]
  apply List.map_congr_left
  rintro ⟨s, provider⟩ hmem
  have hlt := h.reachable.sound.providers id node hnode s provider
    (Std.ExtTreeMap.mem_toList_iff_getElem?_eq_some.mp hmem)
  rw [← Image.length_libraries] at hlt
  simp only [Function.comp_apply, h.path hlt]

include hnode'

theorem paths_deps : l'.image.paths node'.links.deps = l.image.paths node.links.deps := by
  have hlt := Image.lt_size_of_node? hnode
  rw [← Image.length_libraries] at hlt
  rw [← Image.deps_of_node? hnode, ← Image.deps_of_node? hnode']
  apply h.paths (h.reachable.sound.nodup id) (h.reachable'.sound.nodup _)
  · intro dep hdep
    exact h.reachable.dep_lt_size hdep
  · intro id'
    rw [h.deps id hlt, List.mem_map]

theorem paths_users : l'.image.paths node'.links.users = l.image.paths node.links.users := by
  have hlt := Image.lt_size_of_node? hnode
  rw [← Image.length_libraries] at hlt
  have hnodup : ∀ {m : Linker} (a : LibId), Reachable m → (m.image.users a).Nodup := fun a hm =>
    (hm.sound.increasing a).imp Nat.ne_of_lt
  rw [← Image.users_of_node? hnode, ← Image.users_of_node? hnode']
  apply h.paths (hnodup id h.reachable) (hnodup _ h.reachable')
  · intro user huser
    exact h.reachable.user_lt_size huser
  · exact h.mem_users hlt

theorem depsLines (hmissing : node'.links.missing = node.links.missing) :
    Report.depsLines l'.image node' = Report.depsLines l.image node := by
  rw [Report.depsLines, Report.depsLines, h.paths_deps hnode hnode', h.toLibrary hnode hnode',
    Links.unresolved, hmissing, Links.unresolved]

theorem depsJson (hproviders : node'.links.providers = node.links.providers.map fun _ => f)
    (hmissing : node'.links.missing = node.links.missing) :
    Report.depsJson l'.image node' = Report.depsJson l.image node := by
  rw [Report.depsJson, Report.depsJson, h.paths_deps hnode hnode', h.paths_users hnode hnode',
    h.toLibrary hnode hnode', h.linked_paths hnode hproviders, Links.unresolved, hmissing,
    Links.unresolved]

end Within

/-! ## Whole reports -/

section

variable (h : Alike f (fun _ => True) l l')

include h

/-- What is printed of each library, if that hangs on the library and not on its number. -/
theorem Alike.map_sortedNodes {α : Type} {print print' : Node → α}
    (hprint : ∀ id node node', l.image.node? id = some node →
      l'.image.node? (f id) = some node' → print' node' = print node) :
    (Report.sortedNodes l'.image).map print' = (Report.sortedNodes l.image).map print := by
  have hsame : ∀ id node node', l.image.node? id = some node →
      l'.image.node? (f id) = some node' →
        (node'.path, print' node') = (node.path, print node) := by
    intro id node node' hnode hnode'
    rw [hprint id node node' hnode hnode', h.toLibrary hnode hnode']
  -- The paths are carried along: no two are the same, so they fix the order.
  have hpairs : (Report.sortedNodes l'.image).map (fun node => (node.path, print' node)) =
      (Report.sortedNodes l.image).map fun node => (node.path, print node) := by
    apply List.Pairwise.eq_of_mem_iff (r := fun a b : String × α => a.1 < b.1)
    · exact List.pairwise_map.mpr (Report.pairwise_sortedNodes h.reachable'.indexed)
    · exact List.pairwise_map.mpr (Report.pairwise_sortedNodes h.reachable.indexed)
    · intro pair
      simp only [List.mem_map, Report.mem_sortedNodes]
      constructor
      · rintro ⟨node', ⟨id', hnode'⟩, rfl⟩
        have hlib' : l'.image.libraries[id']? = some node'.toLibrary := by
          rw [Image.getElem?_libraries, hnode', Option.map_some]
        obtain ⟨id, rfl, hlib⟩ := h.libraries.onto id' _ hlib' trivial
        obtain ⟨node, hnode, _⟩ := Image.node?_of_libraries hlib
        exact ⟨node, ⟨id, hnode⟩, (hsame id node node' hnode hnode').symm⟩
      · rintro ⟨node, ⟨id, hnode⟩, rfl⟩
        have hlib : l.image.libraries[id]? = some node.toLibrary := by
          rw [Image.getElem?_libraries, hnode, Option.map_some]
        obtain ⟨node', hnode', _⟩ := Image.node?_of_libraries (h.libraries.moved id _ hlib).1
        exact ⟨node', ⟨f id, hnode'⟩, hsame id node node' hnode hnode'⟩
  simpa [List.map_map, Function.comp_def] using congrArg (List.map Prod.snd) hpairs

/-- Two lists have the same paths if each library is in both of them or in none. -/
theorem Alike.paths_of_all {ids ids' : List LibId} (hnodup : ids.Nodup) (hnodup' : ids'.Nodup)
    (hlt : ∀ id ∈ ids, id < l.image.size) (hlt' : ∀ id' ∈ ids', id' < l'.image.size)
    (hmem : ∀ id < l.image.libraries.length, f id ∈ ids' ↔ id ∈ ids) :
    l'.image.paths ids' = l.image.paths ids := by
  apply h.paths hnodup hnodup' hlt
  simp only [← Image.length_libraries] at hlt hlt'
  intro id'
  constructor
  · intro hid'
    obtain ⟨id, rfl, hlib⟩ :=
      h.libraries.onto id' _ (List.getElem?_eq_getElem (hlt' id' hid')) trivial
    exact ⟨id, (hmem id (List.getElem?_eq_some_iff.mp hlib).1).mp hid', rfl⟩
  · rintro ⟨id, hid, rfl⟩
    exact (hmem id (hlt id hid)).mpr hid

/-- The report on the HALs names the same libraries. -/
theorem Alike.spHal_report (format : Format) :
    Report.paths l'.image l'.spHal format = Report.paths l.image l.spHal format := by
  have hpaths : l'.image.paths l'.spHal = l.image.paths l.spHal := by
    apply h.paths_of_all (List.nodup_range.filter _) (List.nodup_range.filter _)
    · intro id
      exact lt_size_of_mem_spHal
    · intro id'
      exact lt_size_of_mem_spHal
    · intro id hid
      exact h.mem_spHal hid
  cases format <;> simp only [Report.paths, hpaths]

end

section

variable (h : Within f (fun _ => True) l l')

include h

theorem Within.tiers_report (oracle : Library → RefClass) (format : Format) :
    Report.tiers l'.image (l'.tiers oracle) format =
      Report.tiers l.image (l.tiers oracle) format := by
  have hpaths : ∀ tier, l'.image.paths ((l'.tiers oracle).members tier) =
      l.image.paths ((l.tiers oracle).members tier) := by
    intro tier
    apply h.paths_of_all (nodup_members h.reachable oracle tier)
      (nodup_members h.reachable' oracle tier)
    · intro id
      exact lt_size_of_mem_members h.reachable
    · intro id'
      exact lt_size_of_mem_members h.reachable'
    · intro id hid
      exact h.mem_members hid oracle tier
  cases format <;> simp only [Report.tiers, Tiers.named_eq, List.flatMap_map, List.map_map,
    Function.comp_def, hpaths]

theorem Within.deps_report (hsymbols : ∀ id node node', l.image.node? id = some node →
      l'.image.node? (f id) = some node' →
        node'.links.providers = node.links.providers.map (fun _ => f) ∧
          node'.links.missing = node.links.missing)
    (format : Format) : Report.deps l'.image format = Report.deps l.image format := by
  cases format with
  | text =>
    rw [Report.deps, Report.deps, List.flatMap_def, List.flatMap_def, h.map_sortedNodes]
    intro id node node' hnode hnode'
    exact h.depsLines hnode hnode' (hsymbols id node node' hnode hnode').2
  | json =>
    rw [Report.deps, Report.deps, h.map_sortedNodes]
    intro id node node' hnode hnode'
    obtain ⟨hproviders, hmissing⟩ := hsymbols id node node' hnode hnode'
    exact h.depsJson hnode hnode' hproviders hmissing

end

end Linker

end ImageTiers
