-- The order of a manifest. It gives each library its number, and it decides which of two
-- libraries comes first where a name or a symbol could mean both. The law: where no name
-- and no symbol is left to the order, two orders of one manifest give the same reports.
import ImageTiers.Proofs.Reports
import Mathlib.Data.List.Nodup

namespace ImageTiers

/-! ## What is left to the order -/

/-- No file name is left to the order: if two libraries of a group share theirs, then one of
the group sits under that name in the default directory. -/
def NamesClear (libs : List Library) : Prop :=
  ∀ a ∈ libs, ∀ b ∈ libs, a ≠ b → a.group = b.group → a.name = b.name →
    ∃ lib ∈ libs, lib.group = a.group ∧ lib.path = a.group.directory ++ a.name

/-- No symbol is left to the order: each one that a library imports comes from one other
library of its group at most. -/
def ExportsClear (libs : List Library) : Prop :=
  ∀ lib ∈ libs, ∀ s ∈ lib.elf.imported, ∀ a ∈ libs, ∀ b ∈ libs,
    a.group = lib.group → b.group = lib.group → a ≠ lib → b ≠ lib →
      a.elf.exports s = true → b.elf.exports s = true → a = b

instance (libs : List Library) : Decidable (NamesClear libs) :=
  inferInstanceAs (Decidable (∀ a ∈ libs, ∀ b ∈ libs, a ≠ b → a.group = b.group →
    a.name = b.name → ∃ lib ∈ libs, lib.group = a.group ∧ lib.path = a.group.directory ++ a.name))

instance (libs : List Library) : Decidable (ExportsClear libs) :=
  decidable_of_iff (∀ lib ∈ libs, ∀ s ∈ lib.elf.imported.toList, ∀ a ∈ libs, ∀ b ∈ libs,
    ¬ (a.group = lib.group ∧ b.group = lib.group ∧ a ≠ lib ∧ b ≠ lib ∧
      a.elf.exports s = true ∧ b.elf.exports s = true ∧ a ≠ b)) (by
    simp only [ExportsClear, Std.ExtTreeSet.mem_toList, not_and, not_not])

/-! ## Two orders -/

/-- The place in `libs'` of the library at `id` in `libs`. -/
def movedTo (libs libs' : List Library) (id : LibId) : LibId :=
  (libs[id]?).elim libs'.length (libs'.idxOf ·)

section

variable {libs libs' : List Library} (hperm : libs.Perm libs') (hpaths : (libs.map (·.path)).Nodup)

include hperm hpaths

theorem renumbers_movedTo : Renumbers (movedTo libs libs') (fun _ => True) libs libs' := by
  have hmoved : ∀ id lib, libs[id]? = some lib → libs'[movedTo libs libs' id]? = some lib := by
    intro id lib hlib
    rw [movedTo, hlib]
    exact List.getElem?_idxOf (hperm.mem_iff.mp (List.mem_of_getElem? hlib))
  have hpaths' : (libs'.map (·.path)).Nodup := (hperm.map _).nodup_iff.mp hpaths
  refine ⟨fun id lib hlib => ⟨hmoved id lib hlib, trivial⟩, ?_, ?_⟩
  · intro id' lib hlib _
    obtain ⟨id, hid⟩ := List.getElem?_of_mem (hperm.mem_iff.mpr (List.mem_of_getElem? hlib))
    exact ⟨id, place_eq_of_path_eq hpaths' (hmoved id lib hid) hlib rfl, hid⟩
  · intro a b ha hb heq
    have hla := hmoved a _ (List.getElem?_eq_getElem ha)
    have hlb := hmoved b _ (List.getElem?_eq_getElem hb)
    rw [heq, hlb, Option.some.injEq] at hla
    exact place_eq_of_path_eq hpaths (List.getElem?_eq_getElem ha)
      (hla ▸ List.getElem?_eq_getElem hb) rfl

/-- What one library at most has is found in any order. -/
theorem findIdx?_movedTo {p : Library → Bool}
    (h : ∀ a ∈ libs, ∀ b ∈ libs, p a = true → p b = true → a = b) :
    libs'.findIdx? p = (libs.findIdx? p).map (movedTo libs libs') := by
  apply (renumbers_movedTo hperm hpaths).findIdx? (fun _ _ => trivial)
  intro a ha b hb hab
  obtain ⟨alib, halib, hpa⟩ := mem_findIdxs_iff.mp ha
  obtain ⟨blib, hblib, hpb⟩ := mem_findIdxs_iff.mp hb
  obtain rfl := h alib (List.mem_of_getElem? halib) blib (List.mem_of_getElem? hblib) hpa hpb
  exact absurd (place_eq_of_path_eq hpaths halib hblib rfl) (Nat.ne_of_lt hab)

theorem sameNames_movedTo (hnames : NamesClear libs) :
    SameNames (movedTo libs libs') (fun _ => True) libs libs' := by
  intro g soname _
  have hdefault := findIdx?_movedTo hperm hpaths
    (p := fun lib => lib.group = g && lib.path = g.directory ++ soname) (by
      simp only [Bool.and_eq_true, decide_eq_true_eq]
      intro a ha b hb hpa hpb
      exact List.inj_on_of_nodup_map hpaths ha hb (hpa.2.trans hpb.2.symm))
  rw [meantIn?, meantIn?, Option.map_or, hdefault]
  -- The file name only counts where the default directory has no such library.
  cases hfound : libs.findIdx? fun lib => lib.group = g && lib.path = g.directory ++ soname with
  | some id => rfl
  | none =>
    rw [Option.map_none, Option.none_or, Option.none_or]
    apply findIdx?_movedTo hperm hpaths
    simp only [Bool.and_eq_true, decide_eq_true_eq]
    rintro a ha b hb ⟨rfl, rfl⟩ ⟨hgroup, hname⟩
    by_contra hne
    obtain ⟨lib, hlib, hlgroup, hlpath⟩ := hnames a ha b hb hne hgroup.symm hname.symm
    have hnone := List.findIdx?_eq_none_iff.mp hfound lib hlib
    simp [hlgroup, hlpath] at hnone

theorem sameExporters_movedTo (hexports : ExportsClear libs) :
    SameExporters (movedTo libs libs') libs libs' := by
  apply (renumbers_movedTo hperm hpaths).sameExporters
  rintro id lib hlib s hs a b ⟨hane, alib, halib, hagroup, haexports⟩
    ⟨hbne, blib, hblib, hbgroup, hbexports⟩ hab
  have hother : ∀ {other : LibId} {olib : Library}, libs[other]? = some olib → other ≠ id →
      olib ≠ lib := by
    rintro other olib hother hne rfl
    exact hne (place_eq_of_path_eq hpaths hother hlib rfl)
  -- There is one other exporter at most, so there is no order to keep.
  obtain rfl := hexports lib (List.mem_of_getElem? hlib) s hs alib (List.mem_of_getElem? halib)
    blib (List.mem_of_getElem? hblib) hagroup hbgroup (hother halib hane) (hother hblib hbne)
    haexports hbexports
  exact absurd (place_eq_of_path_eq hpaths halib hblib rfl) (Nat.ne_of_lt hab)

end

namespace Linker

/-! ## The law -/

/-- Two orders of one manifest. If the settings are refused, both fail alike. If not, both
are linked, and the HALs are reported alike. The tiers are reported alike if no name is left
to the order, and what each library needs is if no symbol is either. -/
theorem the_order_of_a_manifest_does_not_show_in_reports {c : Config}
    (hpolicy : c.policy = .lenient) {libs libs' : List Library} (hperm : libs.Perm libs')
    (hpaths : (libs.map (·.path)).Nodup) :
    (∀ e, ofConfig c = .error e →
        ofManifest c libs = .error e ∧ ofManifest c libs' = .error e) ∧
      ∀ start, ofConfig c = .ok start → ∃ l l',
        ofManifest c libs = .ok l ∧ ofManifest c libs' = .ok l' ∧ ∀ format,
          Report.paths l'.image l'.spHal format = Report.paths l.image l.spHal format ∧
          (NamesClear libs →
            (∀ oracle, Report.tiers l'.image (l'.tiers oracle) format =
              Report.tiers l.image (l.tiers oracle) format) ∧
            (ExportsClear libs → Report.deps l'.image format = Report.deps l.image format)) := by
  refine ⟨fun e he => ⟨ofManifest_of_error he libs, ofManifest_of_error he libs'⟩, ?_⟩
  intro start hstart
  have hpaths' : (libs'.map (·.path)).Nodup := (hperm.map _).nodup_iff.mp hpaths
  have hfresh : Fresh start := .ofConfig hstart
  have hrenumbers := renumbers_movedTo hperm hpaths
  have hlinked : ∀ {libs : List Library}, (libs.map (·.path)).Nodup →
      ofManifest c libs = .ok (start.holding libs) := by
    intro libs hpaths
    rw [ofManifest_of_ok hstart hpolicy, (repeated?_eq_none_iff List.nodup_nil _).mpr hpaths]
  refine ⟨_, _, hlinked hpaths, hlinked hpaths', ?_⟩
  intro format
  refine ⟨(alike_holding hfresh hpaths hpaths' hrenumbers).spHal_report format, ?_⟩
  intro hnames
  have hsame := sameNames_movedTo hperm hpaths hnames
  have hwithin := within_holding hfresh hpaths hpaths' hrenumbers hsame
  refine ⟨fun oracle => hwithin.tiers_report oracle format, ?_⟩
  intro hexports
  apply hwithin.deps_report
  intro id node node' hnode hnode'
  exact symbols_holding hfresh hpaths hpaths' hrenumbers hsame
    (sameExporters_movedTo hperm hpaths hexports) hnode hnode'

/-- A HAL, and two libraries of one name. -/
def twinsBeside (path : String) : List Library :=
  [⟨.vendor, "/vendor/lib/egl/libEGL_a.so", ⟨.elf32, .lsb, ["libcutils.so"], ∅, .ofList ["log"]⟩⟩,
    ⟨.vendor, "/vendor/lib/hw/libcutils.so", ⟨.elf32, .lsb, [], .ofList ["log"], ∅⟩⟩,
    ⟨.vendor, path, ⟨.elf32, .lsb, [], ∅, ∅⟩⟩]

theorem a_twin_in_the_default_directory_wins_in_any_order :
    NamesClear (twinsBeside "/vendor/lib/libcutils.so") ∧
      ExportsClear (twinsBeside "/vendor/lib/libcutils.so") ∧
      ∃ l l', ofManifest .default (twinsBeside "/vendor/lib/libcutils.so") = .ok l ∧
        ofManifest .default (twinsBeside "/vendor/lib/libcutils.so").reverse = .ok l' ∧
        Report.deps l'.image .json = Report.deps l.image .json := by
  have hnames : NamesClear (twinsBeside "/vendor/lib/libcutils.so") := by decide +kernel
  have hexports : ExportsClear (twinsBeside "/vendor/lib/libcutils.so") := by decide +kernel
  obtain ⟨_, hlaw⟩ := the_order_of_a_manifest_does_not_show_in_reports (c := .default) rfl
    (List.reverse_perm (twinsBeside "/vendor/lib/libcutils.so")).symm (by decide +kernel)
  obtain ⟨l, l', hl, hl', hreports⟩ := hlaw _ (ofConfig_eq_ok_iff.mpr ⟨_, rfl, rfl⟩)
  exact ⟨hnames, hexports, l, l', hl, hl', ((hreports .json).2 hnames).2 hexports⟩

-- Without a twin in the default directory, the HAL needs the one that comes first.
example : (ofManifest .default (twinsBeside "/vendor/lib/vndk/libcutils.so")).toOption.map
      (fun l => l.image.paths (l.image.deps 0)) = some ["/vendor/lib/hw/libcutils.so"] ∧
    (ofManifest .default (twinsBeside "/vendor/lib/vndk/libcutils.so").reverse).toOption.map
      (fun l => l.image.paths (l.image.deps 2)) = some ["/vendor/lib/vndk/libcutils.so"] := by
  decide +kernel

end Linker

end ImageTiers
