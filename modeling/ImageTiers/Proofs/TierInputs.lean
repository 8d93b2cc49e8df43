-- The inputs of the tiers. Of a library a run that reports the tiers sees the outline, and
-- of a reference image only which paths it has. The laws: runs that agree on these print the
-- same, and a reference image with more paths moves libraries out of two tiers into others.
import ImageTiers.Proofs.Invocations
import ImageTiers.Proofs.Outlines

namespace ImageTiers

/-! ## Reference images -/

/-- The reference image has a library at the path. If there is no such image, it counts as
one that has them all. -/
def Reference.hasPath (reference : Option Reference) (path : String) : Bool :=
  reference.all (·.contains path)

theorem Reference.classify_ne_newLib (r : Reference) (lib : Library) :
    decide (r.classify lib ≠ .newLib) = r.contains lib.path := by
  rw [contains, Std.ExtTreeMap.contains_eq_isSome_getElem?, classify]
  cases r.exports[lib.path]? with
  | none => rfl
  | some symbols =>
    dsimp only
    split
    · rfl
    · split <;> rfl

/-- A comparison with a reference image counts only for whether that has the path. -/
theorem Reference.compare_ne_newLib (reference : Option Reference) (lib : Library) :
    decide (compare reference lib ≠ .newLib) = hasPath reference lib.path := by
  cases reference with
  | none => rfl
  | some r => exact r.classify_ne_newLib lib

namespace Linker

theorem isGeneric_compare (l : Linker) (reference : Option Reference) (id : LibId) :
    l.isGeneric (Reference.compare reference) id =
      ((l.image.libraries.map (·.outline))[id]?).any fun lib =>
        lib.isSystem && Reference.hasPath reference lib.path := by
  rw [List.getElem?_map, Image.getElem?_libraries, Option.map_map, Option.any_map, isGeneric]
  simp only [Reference.compare_ne_newLib]
  rfl

/-- What counts as generic is told by the outlines and by the paths of the reference image. -/
theorem SameGraph.isGeneric {l l' : Linker} (h : SameGraph l l')
    {reference reference' : Option Reference}
    (hpaths : ∀ lib ∈ l.image.libraries,
      Reference.hasPath reference' lib.path = Reference.hasPath reference lib.path) (id : LibId) :
    l'.isGeneric (Reference.compare reference') id =
      l.isGeneric (Reference.compare reference) id := by
  rw [isGeneric_compare, isGeneric_compare, h.outlines, List.getElem?_map]
  cases hlib : l.image.libraries[id]? with
  | none => rfl
  | some lib =>
    simp only [Option.map_some, Option.any_some, Library.outline,
      hpaths lib (List.mem_of_getElem? hlib)]

/-- The report on the tiers differs only if the tiers do. -/
theorem SameGraph.tiers_report {l l' : Linker} (h : SameGraph l l') {t t' : Tiers} (ht : t' = t)
    (format : Format) : Report.tiers l'.image t' format = Report.tiers l.image t format := by
  have hpaths : l'.image.paths = l.image.paths := by
    funext ids
    rw [Image.paths, Image.paths, funext h.path]
  cases format <;> simp only [Report.tiers, hpaths, ht]

end Linker

/-- What more generic libraries make of the tiers `t`: the roots stay, and what is generic now
moves to other tiers. -/
structure Tiers.MoreGeneric (t t' : Tiers) : Prop where
  spHal : t'.spHal = t.spHal
  spNdk : t'.spNdk = t.spNdk
  spHalDep : t'.spHalDep ⊆ t.spHalDep
  spNdkIndirect : t'.spNdkIndirect ⊆ t.spNdkIndirect
  vndkSpHal : t.vndkSpHal ⊆ t'.vndkSpHal
  vndkSpBoth : t.vndkSpBoth ⊆ t'.vndkSpBoth
  moved : ∀ id ∈ t.spHalDep, id ∉ t'.spHalDep → id ∈ t'.vndkSpHal ∨ id ∈ t'.vndkSpBoth

theorem Linker.tiers_of_more_generic {l : Linker} (h : Reachable l)
    {oracle oracle' : Library → RefClass}
    (hgeneric : ∀ id, l.isGeneric oracle id = true → l.isGeneric oracle' id = true) :
    (l.tiers oracle).MoreGeneric (l.tiers oracle') := by
  have hless : ∀ id, l.isGeneric oracle' id = false → l.isGeneric oracle id = false := by
    simp only [Bool.eq_false_iff]
    intro id hid
    exact hid ∘ hgeneric id
  refine ⟨rfl, rfl, ?_, ?_, ?_, ?_, ?_⟩
  · intro id hid
    obtain ⟨hneeds, hbrought⟩ := (mem_members h oracle' id .spHalDep).mp hid
    exact (mem_members h oracle id .spHalDep).mpr ⟨hneeds, hless id hbrought⟩
  · intro id hid
    obtain ⟨hneeds, hnot⟩ := (mem_members h oracle' id .spNdkIndirect).mp hid
    refine (mem_members h oracle id .spNdkIndirect).mpr ⟨hneeds, ?_⟩
    rintro ⟨hhal, hold⟩
    exact hnot ⟨hhal, hgeneric id hold⟩
  · intro id hid
    obtain ⟨hneeds, hold, hnot⟩ := (mem_members h oracle id .vndkSpHal).mp hid
    exact (mem_members h oracle' id .vndkSpHal).mpr ⟨hneeds, hgeneric id hold, hnot⟩
  · intro id hid
    obtain ⟨hndk, hhal, hold⟩ := (mem_members h oracle id .vndkSpBoth).mp hid
    exact (mem_members h oracle' id .vndkSpBoth).mpr ⟨hndk, hhal, hgeneric id hold⟩
  · intro id hid hleft
    obtain ⟨hneeds, _⟩ := (mem_members h oracle id .spHalDep).mp hid
    have hnew : l.isGeneric oracle' id = true := by
      by_contra hold
      rw [Bool.not_eq_true] at hold
      exact hleft ((mem_members h oracle' id .spHalDep).mpr ⟨hneeds, hold⟩)
    by_cases hndk : id ∈ l.needsOf l.spNdk
    · exact Or.inr ((mem_members h oracle' id .vndkSpBoth).mpr ⟨hndk, hneeds, hnew⟩)
    · exact Or.inl ((mem_members h oracle' id .vndkSpHal).mpr ⟨hneeds, hnew, hndk⟩)

/-! ## Runs -/

/-- Two settings that put libraries into the NDK and among the HALs alike. -/
structure Config.SameLists (c c' : Config) : Prop where
  lowLevel : c'.extraLlNdk = c.extraLlNdk
  sameProcess : c'.extraSpNdk = c.extraSpNdk
  patterns : c'.extraSpHalPatterns = c.extraSpHalPatterns

/-- Under lenient settings with the same lists, manifests with the same outlines fail alike,
or are both linked. -/
theorem Config.SameLists.ofManifest_cases {c c' : Config} (h : c.SameLists c')
    (hpolicy : c.policy = .lenient) (hpolicy' : c'.policy = .lenient) {libs libs' : List Library}
    (houtlines : libs'.map (·.outline) = libs.map (·.outline)) :
    (∃ e, Linker.ofManifest c libs = .error e ∧ Linker.ofManifest c' libs' = .error e) ∨
      ∃ l l', Linker.ofManifest c libs = .ok l ∧ Linker.ofManifest c' libs' = .ok l' := by
  have hpaths : libs'.map (·.path) = libs.map (·.path) := by
    rw [← map_path_map_outline, houtlines, map_path_map_outline]
  cases hrules : SpHalRules.withExtra c.extraSpHalPatterns with
  | error text =>
    have hstart : Linker.ofConfig c = .error (.invalidPattern text) := by
      rw [Linker.ofConfig, hrules]
    have hstart' : Linker.ofConfig c' = .error (.invalidPattern text) := by
      rw [Linker.ofConfig, h.patterns, hrules]
    exact Or.inl ⟨_, Linker.ofManifest_of_error hstart libs,
      Linker.ofManifest_of_error hstart' libs'⟩
  | ok rules =>
    have hstart := Linker.ofConfig_eq_ok_iff.mpr ⟨rules, hrules, rfl⟩
    have hstart' := Linker.ofConfig_eq_ok_iff.mpr ⟨rules, h.patterns ▸ hrules, rfl⟩
    rw [Linker.ofManifest_of_ok hstart hpolicy, Linker.ofManifest_of_ok hstart' hpolicy', hpaths]
    split
    · exact Or.inl ⟨_, rfl, rfl⟩
    · exact Or.inr ⟨_, _, rfl, rfl⟩

/-- Such manifests have the same report on their tiers, if the reference images have the same
of their paths. -/
theorem Config.SameLists.tiers_report {c c' : Config} (h : c.SameLists c')
    (hpolicy : c.policy = .lenient) (hpolicy' : c'.policy = .lenient) {libs libs' : List Library}
    (houtlines : libs'.map (·.outline) = libs.map (·.outline))
    {reference reference' : Option Reference}
    (hpaths : ∀ lib ∈ libs,
      Reference.hasPath reference' lib.path = Reference.hasPath reference lib.path)
    (format : Format) :
    (Linker.ofManifest c' libs').map (fun l =>
        Report.tiers l.image (l.tiers (Reference.compare reference')) format) =
      (Linker.ofManifest c libs).map fun l =>
        Report.tiers l.image (l.tiers (Reference.compare reference)) format := by
  rcases h.ofManifest_cases hpolicy hpolicy' houtlines with ⟨e, he, he'⟩ | ⟨l, l', hl, hl'⟩
  · rw [he, he', Except.map, Except.map]
  · have hgraph := Linker.sameGraph_of_ofManifest hl hl' houtlines
    obtain ⟨hndk, hrules⟩ := Linker.settings_of_ofManifest hl
    obtain ⟨hndk', hrules'⟩ := Linker.settings_of_ofManifest hl'
    rw [h.patterns, hrules, Except.ok.injEq] at hrules'
    rw [h.lowLevel, h.sameProcess, ← hndk] at hndk'
    have htiers : l'.tiers (Reference.compare reference') =
        l.tiers (Reference.compare reference) := by
      apply hgraph.tiers hndk' hrules'.symm
      apply hgraph.isGeneric
      rwa [Linker.libraries_of_ofManifest hl]
    rw [hl, hl', Except.map, Except.map, hgraph.tiers_report htiers]

/-- A lenient run that reports the tiers, and what the files that it reads hold. -/
structure Invocation.ReportsTiers (inv : Invocation) (files : Files) (config : Option Config)
    (libs : List Library) (reference : Option Reference) : Prop where
  reads : inv.Reads files config libs reference
  help : inv.help = false
  command : inv.command = some .spLib
  lenient : (inv.settings config).policy = .lenient

/-! ## The law -/

/-- What a lenient run that reports the tiers prints, or why it fails, is told by the outlines
of the libraries, the lists of the settings, and the paths of the reference image; without
a reference image it is as with one that has all paths. And if a reference image has more
paths than another, it has more generic libraries. -/
theorem a_run_sees_only_outlines_and_known_paths :
    (∀ (inv inv' : Invocation) (files files' : Files) (config config' : Option Config)
        (libs libs' : List Library) (reference reference' : Option Reference),
      inv.ReportsTiers files config libs reference →
      inv'.ReportsTiers files' config' libs' reference' →
      inv'.format = inv.format →
      (inv.settings config).SameLists (inv'.settings config') →
      libs'.map (·.outline) = libs.map (·.outline) →
      (∀ lib ∈ libs,
        Reference.hasPath reference' lib.path = Reference.hasPath reference lib.path) →
      (inv'.outcome files').1 = (inv.outcome files).1) ∧
    ∀ (l : Linker) (reference reference' : Option Reference),
      Linker.Reachable l →
      (∀ path, Reference.hasPath reference path = true →
        Reference.hasPath reference' path = true) →
      (l.tiers (Reference.compare reference)).MoreGeneric
        (l.tiers (Reference.compare reference')) := by
  constructor
  · intro inv inv' files files' config config' libs libs' reference reference' h h' hformat hlists
      houtlines hpaths
    rw [h.reads.outcome h.help h.command, h'.reads.outcome h'.help h'.command, hformat]
    exact congrArg _ (hlists.tiers_report h.lenient h'.lenient houtlines hpaths _)
  · intro l reference reference' hl hmore
    apply Linker.tiers_of_more_generic hl
    intro id
    rw [Linker.isGeneric_compare, Linker.isGeneric_compare, Option.any_eq_true, Option.any_eq_true]
    rintro ⟨lib, hlib, hgeneric⟩
    rw [Bool.and_eq_true] at hgeneric
    exact ⟨lib, hlib, by rw [hgeneric.1, hmore _ hgeneric.2]; rfl⟩

/-- A run on a manifest of one library, without a reference image. -/
def plainRun : Invocation := { Invocation.empty with command := some .spLib, manifest := some "m" }

def plainFiles : Files := .ofTexts
  [("m", "[\x7b\"partition\":\"system\",\"path\":\"/system/lib/libEGL.so\",\"class\":\"32\"\x7d]")]

/-- A run on the same library with a symbol, and on a reference image that has it without. -/
def dumpRun : Invocation := { plainRun with genericRefs := some "r" }

def dumpFiles : Files := .ofTexts
  [("m", "[\x7b\"partition\":\"system\",\"path\":\"/system/lib/libEGL.so\",\"class\":\"32\"," ++
      "\"exported_symbols\":[\"s\"]\x7d]"),
    ("r", "\x7b\"/system/lib/libEGL.so\":[]\x7d")]

theorem a_symbol_and_a_reference_image_with_the_path_change_nothing :
    ∃ reference, Reference.classify reference ⟨.system, "/system/lib/libEGL.so",
        ⟨.elf32, .lsb, [], .ofList ["s"], ∅⟩⟩ = .exportSuperSet ∧
      plainRun.ReportsTiers plainFiles none
        [⟨.system, "/system/lib/libEGL.so", ⟨.elf32, .lsb, [], ∅, ∅⟩⟩] none ∧
      dumpRun.ReportsTiers dumpFiles none
        [⟨.system, "/system/lib/libEGL.so", ⟨.elf32, .lsb, [], .ofList ["s"], ∅⟩⟩]
        (some reference) ∧
      (dumpRun.outcome dumpFiles).1 = (plainRun.outcome plainFiles).1 := by
  have hplain : plainRun.ReportsTiers plainFiles none
      [⟨.system, "/system/lib/libEGL.so", ⟨.elf32, .lsb, [], ∅, ∅⟩⟩] none :=
    ⟨⟨.some (Files.hold_ofTexts rfl (by decide +kernel)), .none, .none⟩, rfl, rfl, rfl⟩
  have hdump : (Reference.ofText "\x7b\"/system/lib/libEGL.so\":[]\x7d").toOption.any
      (fun reference => reference.contains "/system/lib/libEGL.so" &&
        reference.classify ⟨.system, "/system/lib/libEGL.so",
          ⟨.elf32, .lsb, [], .ofList ["s"], ∅⟩⟩ = .exportSuperSet) = true := by
    decide +kernel
  cases hread : Reference.ofText "\x7b\"/system/lib/libEGL.so\":[]\x7d" with
  | error e =>
    rw [hread] at hdump
    cases hdump
  | ok reference =>
    rw [hread, Except.toOption, Option.any_some, Bool.and_eq_true, decide_eq_true_eq] at hdump
    have hreports : dumpRun.ReportsTiers dumpFiles none
        [⟨.system, "/system/lib/libEGL.so", ⟨.elf32, .lsb, [], .ofList ["s"], ∅⟩⟩]
        (some reference) :=
      ⟨⟨.some (Files.hold_ofTexts rfl (by decide +kernel)), .none,
        .some (Files.hold_ofTexts rfl hread)⟩, rfl, rfl, rfl⟩
    refine ⟨reference, hdump.2, hplain, hreports, ?_⟩
    apply a_run_sees_only_outlines_and_known_paths.1 _ _ _ _ _ _ _ _ _ _ hplain hreports rfl
      ⟨rfl, rfl, rfl⟩ rfl
    simp [Reference.hasPath, hdump.1]

end ImageTiers
