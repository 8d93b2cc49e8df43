-- Outlines. Symbols and byte orders have no part in the edges of an image. The law: two
-- images of one outline have the same edges, so their tiers can differ only by the settings
-- and by what the oracles say.
import ImageTiers.Proofs.Loading
import ImageTiers.Proofs.Tiers

namespace ImageTiers

/-! ## Libraries -/

/-- A library without its symbols, and with a fixed byte order. -/
def Library.outline (lib : Library) : Library :=
  { lib with elf := { lib.elf with byteOrder := .lsb, exported := ∅, imported := ∅ } }

theorem map_path_map_outline (libs : List Library) :
    (libs.map (·.outline)).map (·.path) = libs.map (·.path) := by
  rw [List.map_map]
  rfl

theorem meant?_map_outline (libs : List Library) (g : Group) (soname : String) :
    meant? (libs.map (·.outline)) g soname = meant? libs g soname := by
  simp only [meant?, meantIn?, List.findIdx?_map]
  rfl

/-- What a library finds by the names it needs is told by the outlines. -/
theorem foundBy_map_outline (libs : List Library) (id : LibId) :
    foundBy (libs.map (·.outline)) id = foundBy libs id := by
  rw [foundBy, foundBy, List.getElem?_map]
  cases libs[id]? with
  | none => rfl
  | some lib =>
    simp only [Option.map_some, meant?_map_outline]
    rfl

namespace Linker

/-! ## Images -/

/-- Two linked images with the same outlines and the same edges. -/
structure SameGraph (l l' : Linker) : Prop where
  reachable : Reachable l
  reachable' : Reachable l'
  outlines : l'.image.libraries.map (·.outline) = l.image.libraries.map (·.outline)
  deps : ∀ id, l'.image.deps id = l.image.deps id

/-- Two manifests with the same outlines have the same edges, whatever the settings. -/
theorem sameGraph_of_ofManifest {c c' : Config} {libs libs' : List Library} {l l' : Linker}
    (h : ofManifest c libs = .ok l) (h' : ofManifest c' libs' = .ok l')
    (houtlines : libs'.map (·.outline) = libs.map (·.outline)) : SameGraph l l' := by
  obtain ⟨start, hstart, hpaths, rfl⟩ := eq_holding_of_ofManifest h
  obtain ⟨start', hstart', hpaths', rfl⟩ := eq_holding_of_ofManifest h'
  have hfresh : Fresh start := .ofConfig hstart
  have hfresh' : Fresh start' := .ofConfig hstart'
  refine ⟨hfresh.reachable_holding libs, hfresh'.reachable_holding libs', ?_, ?_⟩
  · rw [hfresh.libraries_holding hpaths, hfresh'.libraries_holding hpaths', houtlines]
  · intro id
    rw [hfresh.deps_holding hpaths, hfresh'.deps_holding hpaths', ← foundBy_map_outline libs',
      houtlines, foundBy_map_outline]

namespace SameGraph

variable {l l' : Linker} (h : SameGraph l l')

include h

theorem size : l'.image.size = l.image.size := by
  have hlength := congrArg List.length h.outlines
  rwa [List.length_map, List.length_map, Image.length_libraries, Image.length_libraries] at hlength

theorem path (id : LibId) : l'.image.path id = l.image.path id := by
  have hpaths := congrArg (List.map (·.path)) h.outlines
  rw [map_path_map_outline, map_path_map_outline] at hpaths
  rw [Image.path_eq, Image.path_eq, hpaths]

theorem ndkKind? (hndk : l'.ndk = l.ndk) : l'.ndkKind? = l.ndkKind? := by
  funext id
  rw [Linker.ndkKind?, Linker.ndkKind?, h.path, hndk]

theorem isNdk (hndk : l'.ndk = l.ndk) : l'.isNdk = l.isNdk := by
  funext id
  rw [Linker.isNdk, Linker.isNdk, h.ndkKind? hndk]

theorem isLlNdk (hndk : l'.ndk = l.ndk) : l'.isLlNdk = l.isLlNdk := by
  funext id
  rw [Linker.isLlNdk, Linker.isLlNdk, h.ndkKind? hndk]

theorem spNdk (hndk : l'.ndk = l.ndk) : l'.spNdk = l.spNdk := by
  have hisSpNdk : l'.isSpNdk = l.isSpNdk := by
    funext id
    rw [isSpNdk, isSpNdk, h.ndkKind? hndk]
  rw [Linker.spNdk, Linker.spNdk, Image.ids, Image.ids, h.size, hisSpNdk]

theorem spHal (hrules : l'.spHalRules = l.spHalRules) : l'.spHal = l.spHal := by
  simp only [Linker.spHal, Image.ids, h.size, h.path, hrules]

theorem depsClosure (hndk : l'.ndk = l.ndk) :
    l'.image.depsClosure l'.isNdk = l.image.depsClosure l.isNdk := by
  funext roots
  rw [Image.depsClosure, Image.depsClosure, h.size, funext h.deps, h.isNdk hndk]

/-- The tiers differ only if the settings do, or what counts as generic. -/
theorem tiers {oracle oracle' : Library → RefClass} (hndk : l'.ndk = l.ndk)
    (hrules : l'.spHalRules = l.spHalRules)
    (hgeneric : ∀ id, l'.isGeneric oracle' id = l.isGeneric oracle id) :
    l'.tiers oracle' = l.tiers oracle := by
  simp only [Linker.tiers, h.spNdk hndk, h.spHal hrules, h.depsClosure hndk, h.isLlNdk hndk,
    funext hgeneric]

/-! ## Closures -/

/-- With fewer roots and a larger NDK, less is reached. -/
theorem mem_depsClosure_of_fewer {roots roots' : List LibId} {id : LibId}
    (hroots : roots' ⊆ roots) (hndk : ∀ id, l'.isNdk id = false → l.isNdk id = false)
    (hid : id ∈ l'.image.depsClosure l'.isNdk roots') :
    id ∈ l.image.depsClosure l.isNdk roots := by
  rw [h.reachable'.mem_depsClosure, funext h.deps] at hid
  rw [h.reachable.mem_depsClosure]
  obtain ⟨root, hroot, hchain⟩ := hid
  exact ⟨root, hroots hroot, hchain.mono hndk⟩

/-- With more roots nothing is lost, if what the NDK gained is among them. -/
theorem mem_depsClosure_of_more {roots roots' : List LibId} {id : LibId} (hroots : roots ⊆ roots')
    (hgained : ∀ id < l.image.size, l.isNdk id = false → l'.isNdk id = true → id ∈ roots')
    (hid : id ∈ l.image.depsClosure l.isNdk roots) :
    id ∈ l'.image.depsClosure l'.isNdk roots' := by
  rw [h.reachable.mem_depsClosure] at hid
  rw [h.reachable'.mem_depsClosure, funext h.deps]
  obtain ⟨root, hroot, hchain⟩ := hid
  have hcut : Chain l.image.deps l'.isNdk root id ∨ ∃ user first,
      Enters l.image.deps l.isNdk user first ∧ l'.isNdk first = true ∧
        Chain l.image.deps l'.isNdk first id := hchain.cut
  rcases hcut with hwhole | ⟨_, first, ⟨hdep, hold⟩, hnew, hrest⟩
  · exact ⟨root, hroots hroot, hwhole⟩
  · exact ⟨first, hgained first (h.reachable.dep_lt_size hdep) hold hnew, hrest⟩

end SameGraph

end Linker

end ImageTiers
