-- The symbols of a linked image. Linking goes over the imported symbols of a
-- library one by one, and puts each either with its provider or with the missing
-- ones. The laws: each imported symbol ends up on one side, and its provider is
-- the first exporter among the needed libraries, or else in the group.
import ImageTiers.Proofs.Edges

namespace ImageTiers

/-- The library at `id` exports the symbol `s`. -/
def exportsAt (libs : List Library) (s : String) (id : LibId) : Bool :=
  libs[id]?.any (·.elf.exports s)

/-- The library that should provide `s` to the library `id` of the group `g`, which needs
`deps`: the first of these that exports it, or else, with `fallback`, the first other
library of the group that does. -/
def exporter? (libs : List Library) (fallback : Bool) (id : LibId) (g : Group)
    (deps : List LibId) (s : String) : Option LibId :=
  (deps.find? (exportsAt libs s)).or
    (if fallback then
      (libs.findIdxs fun lib => lib.group = g && lib.elf.exports s).find? (· ≠ id)
     else none)

theorem findIdxs_exporting (libs : List Library) (g : Group) (s : String) :
    (libs.findIdxs fun lib => lib.group = g && lib.elf.exports s) =
      (libs.findIdxs (·.group = g)).filter (exportsAt libs s) := by
  apply List.Pairwise.eq_of_mem_iff List.pairwise_findIdxs (List.pairwise_findIdxs.filter _)
  intro id
  simp only [List.mem_filter, List.mem_findIdxs_iff_exists_getElem_pos, exportsAt]
  by_cases hlt : id < libs.length
  · simp [hlt]
  · simp [hlt]

/-- A provider is another library, exports the symbol, and is of the right word size. -/
theorem exporter?_cases {libs : List Library} {fallback : Bool} {id provider : LibId}
    {lib : Library} {deps : List LibId} {s : String} (hlib : libs[id]? = some lib)
    (hdeps : ∀ dep ∈ deps, dep ∈ foundBy libs id)
    (h : exporter? libs fallback id lib.group deps s = some provider) :
    provider ≠ id ∧ ∃ other, libs[provider]? = some other ∧ other.elf.exports s = true ∧
      other.elf.elfClass = lib.elf.elfClass := by
  unfold exporter? at h
  rw [Option.or_eq_some_iff] at h
  rcases h with h | ⟨_, h⟩
  · have hexports := List.find?_some h
    obtain ⟨hne, ulib, other, hulib, hother, hclass⟩ :=
      foundBy_cases (hdeps provider (List.mem_of_find?_eq_some h))
    rw [hlib, Option.some.injEq] at hulib
    subst hulib
    simp only [exportsAt, hother, Option.any_some] at hexports
    exact ⟨hne, other, hother, hexports, hclass⟩
  · split at h
    · have hmem := List.mem_of_find?_eq_some h
      have hne := List.find?_some h
      obtain ⟨other, hother, hp⟩ := mem_findIdxs_iff.mp hmem
      simp only [Bool.and_eq_true, decide_eq_true_eq] at hp hne
      exact ⟨hne, other, hother, hp.2, congrArg Group.elfClass hp.1⟩
    · cases h

/-- The symbols of a library, as its links tell them: an imported one has the provider
that it should have, or is missing if it should have none, and there are no others. -/
structure Links.Bound (links : Links) (libs : List Library) (fallback : Bool) (id : LibId)
    (lib : Library) : Prop where
  providers : ∀ s, links.providers[s]? =
    if s ∈ lib.elf.imported then exporter? libs fallback id lib.group links.deps s else none
  missing : ∀ s, s ∈ links.missing ↔
    s ∈ lib.elf.imported ∧ exporter? libs fallback id lib.group links.deps s = none

namespace Links.Bound

variable {links : Links} {libs : List Library} {fallback : Bool} {id : LibId} {lib : Library}

theorem mem_providers (h : links.Bound libs fallback id lib) (s : String) :
    s ∈ links.providers ↔
      s ∈ lib.elf.imported ∧ exporter? libs fallback id lib.group links.deps s ≠ none := by
  rw [← Std.ExtTreeMap.isSome_getElem?_iff_mem, h.providers]
  by_cases hs : s ∈ lib.elf.imported
  · simp [hs, Option.isSome_iff_ne_none]
  · simp [hs]

/-- Each imported symbol is on one side, and on one side only. -/
theorem sides (h : links.Bound libs fallback id lib) (s : String) :
    ¬ (s ∈ links.providers ∧ s ∈ links.missing) ∧
      (s ∈ links.providers ∨ s ∈ links.missing ↔ s ∈ lib.elf.imported) := by
  rw [h.mem_providers, h.missing]
  by_cases hs : exporter? libs fallback id lib.group links.deps s = none
  · simp [hs]
  · simp [hs]

theorem provider_cases (h : links.Bound libs fallback id lib) (hlib : libs[id]? = some lib)
    (hdeps : ∀ dep ∈ links.deps, dep ∈ foundBy libs id) {s : String} {provider : LibId}
    (hs : links.providers[s]? = some provider) :
    provider ≠ id ∧ ∃ other, libs[provider]? = some other ∧ other.elf.exports s = true ∧
      other.elf.elfClass = lib.elf.elfClass := by
  rw [h.providers] at hs
  split at hs
  · exact exporter?_cases hlib hdeps hs
  · cases hs

end Links.Bound

namespace Image

/-! ## One lookup -/

theorem exports_eq_exportsAt (img : Image) (id : LibId) (s : String) :
    img.exports id s = exportsAt img.libraries s id := by
  rw [exports, exportsAt, getElem?_libraries]
  cases img.node? id <;> rfl

theorem provider?_eq_exporter? {img : Image} (h : Indexed img) (fallback : Bool) (id : LibId)
    (node : Node) (s : String) :
    img.provider? fallback id node s =
      exporter? img.libraries fallback id node.group node.links.deps s := by
  have hexports : (img.exports · s) = exportsAt img.libraries s :=
    funext fun c => exports_eq_exportsAt img c s
  rw [provider?, exporter?, hexports]
  rcases hdeps : node.links.deps.find? (exportsAt img.libraries s) with _ | dep
  · -- No needed library exports the symbol, so leaving them out of the group changes nothing.
    rw [findIdxs_exporting, h.members, List.find?_filter, List.find?_filter]
    congr 2
    apply congrArg (List.find? · _)
    funext c
    rw [decide_eq_decide]
    by_cases hc : exportsAt img.libraries s c = true
    · have hnot : c ∉ node.links.deps := fun hmem => by
        simpa [hc] using List.find?_eq_none.mp hdeps c hmem
      simp [hc, hnot]
    · simp [hc]
  · simp

/-! ## All lookups of a library -/

theorem providers_foldl_bindSymbol (img : Image) (fallback : Bool) (id : LibId) (node : Node)
    (symbols : List String) (links : Links) (s : String) :
    (symbols.foldl (img.bindSymbol fallback id node) links).providers[s]? =
      if s ∈ symbols then (img.provider? fallback id node s).or links.providers[s]?
      else links.providers[s]? := by
  induction symbols generalizing links with
  | nil => simp
  | cons t symbols ih =>
    rw [List.foldl_cons, ih, bindSymbol]
    rcases ht : img.provider? fallback id node t with _ | provider
    · by_cases hst : s = t
      · subst hst
        simp [ht]
      · simp [hst]
    · simp only [Std.ExtTreeMap.getElem?_insert, Std.LawfulEqCmp.compare_eq_iff_eq]
      by_cases hst : s = t
      · subst hst
        simp [ht]
      · simp [hst, Ne.symm hst]

theorem missing_foldl_bindSymbol (img : Image) (fallback : Bool) (id : LibId) (node : Node)
    (symbols : List String) (links : Links) (s : String) :
    s ∈ (symbols.foldl (img.bindSymbol fallback id node) links).missing ↔
      s ∈ links.missing ∨ (s ∈ symbols ∧ img.provider? fallback id node s = none) := by
  induction symbols generalizing links with
  | nil => simp
  | cons t symbols ih =>
    rw [List.foldl_cons, ih, bindSymbol]
    rcases ht : img.provider? fallback id node t with _ | provider
    · simp only [Std.ExtTreeSet.mem_insert, Std.LawfulEqCmp.compare_eq_iff_eq, List.mem_cons]
      by_cases hst : s = t
      · subst hst
        simp [ht]
      · simp [hst, Ne.symm hst]
    · by_cases hst : s = t
      · subst hst
        simp [ht]
      · simp [hst]

theorem providers_bindSymbols (img : Image) (fallback : Bool) (id : LibId) (node : Node)
    (s : String) :
    (img.bindSymbols fallback id node).links.providers[s]? =
      if s ∈ node.elf.imported then img.provider? fallback id node s else none := by
  simp only [bindSymbols, providers_foldl_bindSymbol, Std.ExtTreeSet.mem_toList,
    Std.ExtTreeMap.getElem?_empty, Option.or_none]

theorem missing_bindSymbols (img : Image) (fallback : Bool) (id : LibId) (node : Node)
    (s : String) :
    s ∈ (img.bindSymbols fallback id node).links.missing ↔
      s ∈ node.elf.imported ∧ img.provider? fallback id node s = none := by
  simp [bindSymbols, missing_foldl_bindSymbol]

/-! ## The symbols of a linked image -/

theorem clearLinks_edged (img : Image) : img.edged.clearLinks = img.clearLinks := by
  rw [edged, clearLinks_foldl_addEdge, clearLinks_clearLinks]

/-- What linking writes on one library, told by the libraries of the image and by what
this one needs. -/
theorem node?_link {img : Image} (h : Indexed img) (fallback : Bool) {id : LibId} {node : Node}
    (hnode : (img.link fallback).image.node? id = some node) :
    img.libraries[id]? = some node.toLibrary ∧
      (∀ dep ∈ node.links.deps, dep ∈ foundBy img.libraries id) ∧
      node.links.Bound img.libraries fallback id node.toLibrary := by
  have hlibs : img.edged.libraries = img.libraries :=
    libraries_of_clearLinks (clearLinks_edged img)
  have hprovider := provider?_eq_exporter? (indexed_of_clearLinks h (clearLinks_edged img)) fallback
  rw [hlibs] at hprovider
  have hlib : (img.link fallback).image.libraries[id]? = some node.toLibrary := by
    rw [getElem?_libraries, hnode, Option.map_some]
  rw [libraries_of_clearLinks (clearLinks_link img fallback)] at hlib
  refine ⟨hlib, ?_, ?_⟩
  · intro dep hdep
    have hdeps := deps_link h fallback id
    simp only [Image.deps, hnode, Option.map_some, Option.getD_some] at hdeps
    rw [hdeps] at hdep
    exact List.mem_eraseDups.mp hdep
  · rw [image_link, node?_bindAll, Option.map_eq_some_iff] at hnode
    obtain ⟨old, _, rfl⟩ := hnode
    -- The symbols were looked up in the needed libraries, which no lookup changes.
    have hold : (img.edged.bindSymbols fallback id old).links.deps = old.links.deps :=
      (links_foldl_bindSymbol img.edged fallback id old _ _).1
    refine ⟨?_, ?_⟩
    · intro s
      rw [hold, providers_bindSymbols, hprovider]
      rfl
    · intro s
      rw [hold, missing_bindSymbols, hprovider]
      rfl

end Image

namespace Linker

/-! ## The law -/

/-- The symbols after the linking that ends a run. Each imported symbol has the first
exporter among the needed libraries, or else, with the fallback, the first other one of
the group, or else it is missing. A provider is never the library itself, and it always
exports the symbol at the same word size. -/
theorem an_imported_symbol_has_the_first_exporter_or_is_missing {start : Linker}
    (h : Fresh start) (calls : List Call) (id : LibId) (lib : Library)
    (hlib : (start.accepted calls)[id]? = some lib) :
    ∃ links, (start.after calls).resolve.linker.image.node? id = some ⟨lib, links⟩ ∧
      ∀ s,
        (s ∉ lib.elf.imported → s ∉ links.providers ∧ s ∉ links.missing) ∧
        (s ∈ lib.elf.imported →
          links.providers[s]? =
              exporter? (start.accepted calls) start.config.symbolFallback id lib.group
                links.deps s ∧
            (s ∈ links.missing ↔ links.providers[s]? = none)) ∧
        ¬ (s ∈ links.providers ∧ s ∈ links.missing) ∧
        (s ∈ links.providers ∨ s ∈ links.missing ↔ s ∈ lib.elf.imported) ∧
        ∀ provider, links.providers[s]? = some provider →
          provider ≠ id ∧ ∃ other, (start.accepted calls)[provider]? = some other ∧
            other.elf.exports s = true ∧ other.elf.elfClass = lib.elf.elfClass := by
  have hlast := hlib
  rw [← h.libraries_resolve calls] at hlast
  obtain ⟨⟨_, links⟩, hnode, rfl⟩ := Image.node?_of_libraries hlast
  obtain ⟨_, hdeps, hbound⟩ :=
    Image.node?_link ((Reachable.fresh h).after calls).indexed _ hnode
  rw [h.libraries_after] at hdeps hbound
  rw [config_after] at hbound
  refine ⟨links, hnode, ?_⟩
  intro s
  obtain ⟨hone, hboth⟩ := hbound.sides s
  refine ⟨?_, ?_, hone, hboth, ?_⟩
  · intro hs
    rw [← not_or, hboth]
    exact hs
  · intro hs
    have hprovider := hbound.providers s
    rw [if_pos hs] at hprovider
    refine ⟨hprovider, ?_⟩
    rw [hbound.missing, hprovider]
    simp only [hs, true_and]
  · intro provider hprovider
    exact hbound.provider_cases hlib hdeps hprovider

theorem the_sample_binds_a_needed_one_a_fallback_and_none :
    Fresh .default ∧
      (default.accepted sampleRun)[3]? =
        some (sampleLib "libend.so" ["libring.so"] ["end"] ["end", "open", "sin"]) ∧
      ∃ node, (default.after sampleRun).resolve.linker.image.node? 3 = some node ∧
        node.links.providers["open"]? = some 2 ∧ node.links.providers["sin"]? = some 1 ∧
        "end" ∈ node.links.missing := by
  have hlib : (default.accepted sampleRun)[3]? =
      some (sampleLib "libend.so" ["libring.so"] ["end"] ["end", "open", "sin"]) := by
    decide +kernel
  obtain ⟨links, hnode, hlaw⟩ :=
    an_imported_symbol_has_the_first_exporter_or_is_missing .default sampleRun 3 _ hlib
  have hdeps : (default.after sampleRun).resolve.linker.image.deps 3 = [2] := by decide +kernel
  simp only [Image.deps, hnode, Option.map_some, Option.getD_some] at hdeps
  rw [hdeps] at hlaw
  have hopen := (hlaw "open").2.1 (by decide +kernel)
  have hsin := (hlaw "sin").2.1 (by decide +kernel)
  have hend := (hlaw "end").2.1 (by decide +kernel)
  refine ⟨.default, hlib, _, hnode, ?_, ?_, ?_⟩
  · rw [hopen.1]
    decide +kernel
  · rw [hsin.1]
    decide +kernel
  · rw [hend.2, hend.1]
    decide +kernel

end Linker

end ImageTiers
