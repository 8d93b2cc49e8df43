-- The paths of the predefined HALs. Each rule of the table is a pattern for whole paths, so the
-- paths of its HALs can be said as forms. The laws: the table takes just the paths of five
-- forms, and such a path has a name of the table on it, after some slash, but not always
-- after the last one.
import ImageTiers.Proofs.Finding
import ImageTiers.Proofs.PatternParts
import ImageTiers.SpHal
import Mathlib.Data.List.Forall2

namespace ImageTiers

/-! ## The table in parts -/

namespace SpHalRules

/-- The stems of the libraries that load drivers. -/
def loaderStems : List String := ["libvulkan", "libEGL", "libGLESv1_CM", "libGLESv2", "libGLESv3"]

def loaderParts : List Part :=
  [.word "/system/lib", .optional "64", .word "/", .oneOf loaderStems, .word ".so"]

/-- A driver of the vendor whose name starts in a certain way. -/
def driverParts (start : String) : List Part :=
  [.word "/vendor/", .gap, .word ("/" ++ start), .gap, .word ".so"]

def renderscriptDriverParts : List Part := [.word "/vendor/", .gap, .word "/libPVRRS.so"]

def renderscriptParts : List Part := [.gap, .word "/android.hardware.renderscript@1.0-impl.so"]

def grallocParts : List Part := [.gap, .word "/gralloc.", .gap, .word ".so"]

def mapperParts : List Part :=
  [.gap, .word "/android.hardware.graphics.mapper@", .number, .word ".", .number, .word "-impl.so"]

/-- The parts of the rules that include. -/
def halParts : List (List Part) :=
  [driverParts "libEGL_", driverParts "libGLES_", driverParts "libGLESv1_CM_",
    driverParts "libGLESv2_", driverParts "libGLESv3_", driverParts "vulkan", renderscriptParts,
    renderscriptDriverParts, driverParts "libRSDriver", grallocParts, mapperParts]

end SpHalRules

open SpHalRules

/-- The engine finds the pattern of a text in just the paths that are made of the parts. -/
def PatternEngine.Reads (engine : PatternEngine) (text : String) (parts : List Part) : Prop :=
  ∃ pattern, engine.compile? text = some pattern ∧
    ∀ path, engine.finds pattern path = true ↔ MadeOf parts path

/-- The engine reads the patterns of the table as patterns for whole paths. -/
def PatternEngine.ReadsTable (engine : PatternEngine) : Prop :=
  List.Forall₂ (fun entry parts => engine.Reads entry.2.1 parts) table (loaderParts :: halParts)

theorem SpHalRules.table_patterns :
    table.map (fun entry => Pattern.ofText? entry.2.1) =
      (loaderParts :: halParts).map fun parts => some (.whole parts) := by
  decide +kernel

theorem PatternEngine.readsTable_standard : standard.ReadsTable := by
  have hpatterns := table_patterns
  rw [← List.forall₂_eq_eq_eq, List.forall₂_map_left_iff, List.forall₂_map_right_iff] at hpatterns
  exact hpatterns.imp fun _ parts hpattern =>
    ⟨.whole parts, hpattern, fun path => Pattern.matchesIn_whole parts path⟩

namespace SpHalRules

section

variable {engine : PatternEngine}

/-- Rules whose patterns are read keep the actions of their entries. -/
theorem ofEntries_of_reads {entries : List (RuleAction × String × String)}
    {forms : List (List Part)}
    (h : List.Forall₂ (fun entry parts => engine.Reads entry.2.1 parts) entries forms) :
    (ofEntries engine entries).map SpHalRule.action = entries.map Prod.fst ∧
      ∀ path, List.Forall₂ (fun rule parts => rule.applies path = true ↔ MadeOf parts path)
        (ofEntries engine entries) forms := by
  induction h with
  | nil => exact ⟨rfl, fun _ => .nil⟩
  | @cons entry parts entries forms hentry _ ih =>
    obtain ⟨action, text, label⟩ := entry
    obtain ⟨pattern, hpattern, hfinds⟩ := hentry
    have hrules : ofEntries engine ((action, text, label) :: entries) =
        ⟨action, text, engine.finds pattern, label⟩ :: ofEntries engine entries := by
      simp [ofEntries, SpHalRule.ofText?, hpattern]
    rw [hrules]
    exact ⟨by simp [ih.1], fun path => .cons (hfinds path) (ih.2 path)⟩

theorem exists_mem_iff_of_forall₂ {α β : Type} {P : α → Prop} {Q : β → Prop} {as : List α}
    {bs : List β} (h : List.Forall₂ (fun a b => P a ↔ Q b) as bs) :
    (∃ a ∈ as, P a) ↔ ∃ b ∈ bs, Q b := by
  induction h with
  | nil => simp
  | cons hab _ ih => simp [hab, ih]

/-- The table starts with the rule for the loaders, which excludes, and all others include. -/
theorem exists_builtIn_rules (h : engine.ReadsTable) :
    ∃ loaders hals, (builtIn engine).rules = loaders :: hals ∧ loaders.action = .exclusion ∧
      (∀ path, loaders.applies path = true ↔ MadeOf loaderParts path) ∧
      (∀ rule ∈ hals, rule.action = .inclusion) ∧
      ∀ path, (∃ rule ∈ hals, rule.applies path = true) ↔
        ∃ parts ∈ halParts, MadeOf parts path := by
  obtain ⟨hactions, hforms⟩ := ofEntries_of_reads h
  have htable : table.map Prod.fst = .exclusion :: List.replicate 11 .inclusion := rfl
  rw [htable] at hactions
  obtain ⟨loaders, hals, hrules, haction, hhals⟩ := List.map_eq_cons_iff.mp hactions
  rw [hrules] at hforms
  refine ⟨loaders, hals, hrules, haction, fun path => (List.forall₂_cons.mp (hforms path)).1, ?_,
    fun path => exists_mem_iff_of_forall₂ (List.forall₂_cons.mp (hforms path)).2⟩
  intro rule hrule
  have hmem := List.mem_map_of_mem (f := SpHalRule.action) hrule
  rw [hhals] at hmem
  exact List.eq_of_mem_replicate hmem

end

/-! ## Forms of paths -/

/-- The paths of the loaders. -/
def loaderPaths : List String :=
  ["", "64"].flatMap fun size =>
    loaderStems.map fun stem => "/system/lib" ++ size ++ "/" ++ stem ++ ".so"

/-- How the names of the drivers start. -/
def driverStarts : List String :=
  ["libEGL_", "libGLES_", "libGLESv1_CM_", "libGLESv2_", "libGLESv3_", "vulkan", "libRSDriver"]

end SpHalRules

/-- The forms of the paths of the predefined HALs. -/
inductive HalForm : String → Prop
  | driver {dir start rest : String} (hstart : start ∈ driverStarts) (hdir : OneLine dir)
    (hrest : OneLine rest) : HalForm ("/vendor/" ++ dir ++ "/" ++ start ++ rest ++ ".so")
  | renderscriptDriver {dir : String} (hdir : OneLine dir) :
    HalForm ("/vendor/" ++ dir ++ "/libPVRRS.so")
  | renderscript {dir : String} (hdir : OneLine dir) :
    HalForm (dir ++ "/android.hardware.renderscript@1.0-impl.so")
  | gralloc {dir rest : String} (hdir : OneLine dir) (hrest : OneLine rest) :
    HalForm (dir ++ "/gralloc." ++ rest ++ ".so")
  | mapper {dir major minor : String} (hdir : OneLine dir) (hmajor : IsNumber major)
    (hminor : IsNumber minor) :
    HalForm (dir ++ "/android.hardware.graphics.mapper@" ++ major ++ "." ++ minor ++ "-impl.so")

namespace SpHalRules

theorem madeOf_loaderParts (path : String) : MadeOf loaderParts path ↔ path ∈ loaderPaths := by
  simp only [loaderPaths, List.mem_flatMap, List.mem_map]
  constructor
  · rintro ⟨_, _, rfl, rfl, size, _, rfl, hsize, _, _, rfl, rfl, stem, _, rfl, hstem, _, _, rfl,
      rfl, rfl⟩
    refine ⟨size, ?_, stem, hstem, by simp [String.append_assoc]⟩
    rcases hsize with rfl | rfl <;> simp
  · rintro ⟨size, hsize, stem, hstem, rfl⟩
    have hfits : (Part.optional "64").Fits size := by simpa [Part.Fits] using hsize
    have hmade : MadeOf loaderParts _ := .cons rfl (.cons hfits (.cons rfl (.cons hstem
      (.cons rfl rfl))))
    simpa [String.append_assoc] using hmade

theorem mem_halParts {parts : List Part} :
    parts ∈ halParts ↔ (∃ start ∈ driverStarts, parts = driverParts start) ∨
      parts = renderscriptDriverParts ∨ parts = renderscriptParts ∨ parts = grallocParts ∨
        parts = mapperParts := by
  simp only [halParts, driverStarts, List.mem_cons, List.not_mem_nil, or_false, exists_eq_or_imp,
    exists_eq_left]
  tauto

theorem exists_halParts_iff (path : String) :
    (∃ parts ∈ halParts, MadeOf parts path) ↔ HalForm path := by
  constructor
  · rintro ⟨parts, hparts, hmade⟩
    obtain ⟨start, hstart, rfl⟩ | rfl | rfl | rfl | rfl := mem_halParts.mp hparts
    · obtain ⟨_, _, rfl, rfl, dir, _, rfl, hdir, _, _, rfl, rfl, rest, _, rfl, hrest, _, _, rfl,
        rfl, rfl⟩ := hmade
      simpa [String.append_assoc] using HalForm.driver hstart hdir hrest
    · obtain ⟨_, _, rfl, rfl, dir, _, rfl, hdir, _, _, rfl, rfl, rfl⟩ := hmade
      simpa [String.append_assoc] using HalForm.renderscriptDriver hdir
    · obtain ⟨dir, _, rfl, hdir, _, _, rfl, rfl, rfl⟩ := hmade
      exact .renderscript hdir
    · obtain ⟨dir, _, rfl, hdir, _, _, rfl, rfl, rest, _, rfl, hrest, _, _, rfl, rfl, rfl⟩ := hmade
      simpa [String.append_assoc] using HalForm.gralloc hdir hrest
    · obtain ⟨dir, _, rfl, hdir, _, _, rfl, rfl, major, _, rfl, hmajor, _, _, rfl, rfl, minor, _,
        rfl, hminor, _, _, rfl, rfl, rfl⟩ := hmade
      simpa [String.append_assoc] using HalForm.mapper hdir hmajor hminor
  · intro hform
    cases hform with
    | @driver dir start rest hstart hdir hrest =>
      have hmade : MadeOf (driverParts start) _ :=
        .cons rfl (.cons hdir (.cons rfl (.cons hrest (.cons rfl rfl))))
      refine ⟨_, mem_halParts.mpr (.inl ⟨start, hstart, rfl⟩), ?_⟩
      simpa [String.append_assoc] using hmade
    | renderscriptDriver hdir =>
      have hmade : MadeOf renderscriptDriverParts _ := .cons rfl (.cons hdir (.cons rfl rfl))
      refine ⟨_, mem_halParts.mpr (.inr (.inl rfl)), ?_⟩
      simpa [String.append_assoc] using hmade
    | renderscript hdir =>
      have hmade : MadeOf renderscriptParts _ := .cons hdir (.cons rfl rfl)
      refine ⟨_, mem_halParts.mpr (.inr (.inr (.inl rfl))), ?_⟩
      simpa [String.append_assoc] using hmade
    | gralloc hdir hrest =>
      have hmade : MadeOf grallocParts _ := .cons hdir (.cons rfl (.cons hrest (.cons rfl rfl)))
      refine ⟨_, mem_halParts.mpr (.inr (.inr (.inr (.inl rfl)))), ?_⟩
      simpa [String.append_assoc] using hmade
    | mapper hdir hmajor hminor =>
      have hmade : MadeOf mapperParts _ :=
        .cons hdir (.cons rfl (.cons hmajor (.cons rfl (.cons hminor (.cons rfl rfl)))))
      refine ⟨_, mem_halParts.mpr (.inr (.inr (.inr (.inr rfl)))), ?_⟩
      simpa [String.append_assoc] using hmade

end SpHalRules

/-! ## Names on a path -/

/-- How the names of drivers and of `gralloc` start; after that, anything may follow. -/
def SpHalRules.openStarts : List String := "gralloc." :: driverStarts

/-- How the names of HALs start, all of them. -/
def SpHalRules.nameStarts : List String :=
  openStarts ++ ["libPVRRS.so", "android.hardware.renderscript@1.0-impl.so",
    "android.hardware.graphics.mapper@"]

/-- The names of the predefined HALs. -/
inductive HalName : String → Prop
  | opened {start rest : String} (hstart : start ∈ openStarts) : HalName (start ++ rest)
  | renderscriptDriver : HalName "libPVRRS.so"
  | renderscript : HalName "android.hardware.renderscript@1.0-impl.so"
  | mapper {major minor : String} (hmajor : IsNumber major) (hminor : IsNumber minor) :
    HalName ("android.hardware.graphics.mapper@" ++ major ++ "." ++ minor ++ "-impl.so")

/-- The path leads through a directory whose name starts like that of a driver or of `gralloc`. -/
inductive InHalDirectory : String → Prop
  | driver {dir start more stem : String} (hstart : start ∈ driverStarts) (hdir : OneLine dir)
    (hmore : OneLine more) (hstem : OneLine stem) :
    InHalDirectory ("/vendor/" ++ dir ++ "/" ++ start ++ more ++ "/" ++ stem ++ ".so")
  | gralloc {dir more stem : String} (hdir : OneLine dir) (hmore : OneLine more)
    (hstem : OneLine stem) :
    InHalDirectory (dir ++ "/gralloc." ++ more ++ "/" ++ stem ++ ".so")

theorem HalName.exists_start {name : String} (h : HalName name) :
    ∃ start ∈ nameStarts, ∃ rest, name = start ++ rest := by
  cases h with
  | opened hstart => exact ⟨_, List.mem_append_left _ hstart, _, rfl⟩
  | renderscriptDriver => exact ⟨"libPVRRS.so", by decide, "", rfl⟩
  | renderscript => exact ⟨"android.hardware.renderscript@1.0-impl.so", by decide, "", rfl⟩
  | mapper => exact ⟨"android.hardware.graphics.mapper@", by decide, _, by
      simp only [String.append_assoc]; rfl⟩

theorem IsNumber.not_mem_slash {s : String} (h : IsNumber s) : '/' ∉ s.toList := by
  intro hslash
  have hdigit := h.2 '/' hslash
  revert hdigit
  decide

theorem OneLine.split {rest : String} (h : OneLine rest) (hslash : '/' ∈ rest.toList) :
    ∃ more stem, rest = more ++ "/" ++ stem ∧ OneLine more ∧ OneLine stem := by
  obtain ⟨more, stem, hrest⟩ := List.append_of_mem hslash
  have heq : rest = String.ofList more ++ "/" ++ String.ofList stem := by
    simp [← String.toList_inj, hrest]
  refine ⟨_, _, heq, ?_⟩
  simpa [OneLine, hrest] using h

/-- After some slash, the path goes on with a name of a HAL. If that has slashes of its own, it
is the name of a directory. -/
theorem HalForm.exists_name {path : String} (h : HalForm path) :
    ∃ dir name, path = dir ++ "/" ++ name ∧ HalName name ∧
      ('/' ∈ name.toList → InHalDirectory path) := by
  cases h with
  | @driver dir start rest hstart hdir hrest =>
    have hname : HalName (start ++ (rest ++ ".so")) := .opened (List.mem_cons_of_mem _ hstart)
    refine ⟨"/vendor/" ++ dir, _, by simp [← String.toList_inj], hname, fun hslash => ?_⟩
    have hno : ∀ start ∈ driverStarts, '/' ∉ start.toList := by decide
    obtain ⟨more, stem, rfl, hmore, hstem⟩ :=
      hrest.split (by simpa [hno start hstart] using hslash)
    simpa [String.append_assoc] using InHalDirectory.driver hstart hdir hmore hstem
  | @renderscriptDriver dir =>
    exact ⟨"/vendor/" ++ dir, _, by simp [← String.toList_inj], .renderscriptDriver, by simp⟩
  | @renderscript dir =>
    exact ⟨dir, _, by simp [← String.toList_inj], .renderscript, by simp⟩
  | @gralloc dir rest hdir hrest =>
    have hname : HalName ("gralloc." ++ (rest ++ ".so")) := .opened List.mem_cons_self
    refine ⟨dir, _, by simp [← String.toList_inj], hname, fun hslash => ?_⟩
    obtain ⟨more, stem, rfl, hmore, hstem⟩ := hrest.split (by simpa using hslash)
    simpa [String.append_assoc] using InHalDirectory.gralloc hdir hmore hstem
  | @mapper dir major minor _ hmajor hminor =>
    refine ⟨dir, _, by simp [← String.toList_inj], .mapper hmajor hminor, ?_⟩
    simp [hmajor.not_mem_slash, hminor.not_mem_slash]

theorem HalForm.exists_start {path : String} (h : HalForm path) :
    ∃ start ∈ nameStarts, ("/" ++ start).toList <:+: path.toList := by
  obtain ⟨dir, _, rfl, hname, _⟩ := h.exists_name
  obtain ⟨start, hstart, rest, rfl⟩ := hname.exists_start
  exact ⟨start, hstart, dir.toList, rest.toList, by simp⟩

theorem HalForm.file_or_directory {path : String} (h : HalForm path) :
    HalName (fileName path) ∨ InHalDirectory path := by
  obtain ⟨dir, name, rfl, hname, hdirectory⟩ := h.exists_name
  by_cases hslash : '/' ∈ name.toList
  · exact .inr (hdirectory hslash)
  · left
    rwa [(fileName_eq_iff _ name).mpr ⟨hslash, .inr ⟨dir, rfl⟩⟩]

theorem InHalDirectory.halForm {path : String} (h : InHalDirectory path) : HalForm path := by
  cases h with
  | @driver dir start more stem hstart hdir hmore hstem =>
    have hrest : OneLine (more ++ "/" ++ stem) := by simpa [OneLine] using ⟨hmore, hstem⟩
    simpa [String.append_assoc] using HalForm.driver hstart hdir hrest
  | @gralloc dir more stem hdir hmore hstem =>
    have hrest : OneLine (more ++ "/" ++ stem) := by simpa [OneLine] using ⟨hmore, hstem⟩
    simpa [String.append_assoc] using HalForm.gralloc hdir hrest

namespace SpHalRules

theorem not_halForm_of_mem_loaderPaths {path : String} (h : path ∈ loaderPaths) :
    ¬ HalForm path := by
  intro hform
  obtain ⟨start, hstart, hinfix⟩ := hform.exists_start
  have hnone : ∀ path ∈ loaderPaths, ∀ start ∈ nameStarts,
      ¬ ("/" ++ start).toList <:+: path.toList := by decide +kernel
  exact hnone path h start hstart hinfix

/-! ## The laws -/

section

variable {engine : PatternEngine} (h : engine.ReadsTable)

include h

/-- The rule for the loaders decides for their paths. -/
theorem matchingRule?_of_mem_loaderPaths {path : String} (hpath : path ∈ loaderPaths) :
    ∃ rule, (builtIn engine).matchingRule? path = some rule ∧ rule.action = .exclusion := by
  obtain ⟨loaders, hals, hrules, haction, hloaders, _⟩ := exists_builtIn_rules h
  have happlies := (hloaders path).mpr ((madeOf_loaderParts path).mpr hpath)
  refine ⟨loaders, ?_, haction⟩
  rw [matchingRule?, hrules]
  exact List.find?_cons_of_pos happlies

theorem isSpHal_builtIn_iff (path : String) :
    (builtIn engine).isSpHal path = true ↔ HalForm path := by
  by_cases hpath : path ∈ loaderPaths
  · obtain ⟨rule, hrule, haction⟩ := matchingRule?_of_mem_loaderPaths h hpath
    simp [isSpHal, hrule, haction, not_halForm_of_mem_loaderPaths hpath]
  · obtain ⟨loaders, hals, hrules, _, hloaders, haction, hhals⟩ := exists_builtIn_rules h
    have hnot : ¬ loaders.applies path = true := by rwa [hloaders, madeOf_loaderParts]
    have hfind : (builtIn engine).matchingRule? path = hals.find? (·.applies path) := by
      rw [matchingRule?, hrules]
      exact List.find?_cons_of_neg hnot
    rw [← exists_halParts_iff, ← hhals, isSpHal, hfind, Option.any_eq_true]
    constructor
    · rintro ⟨rule, hrule, _⟩
      have happlies := List.find?_some (p := fun rule : SpHalRule => rule.applies path) hrule
      exact ⟨rule, List.mem_of_find?_eq_some hrule, happlies⟩
    · intro hsome
      rw [← List.find?_isSome] at hsome
      obtain ⟨first, hfirst⟩ := Option.isSome_iff_exists.mp hsome
      exact ⟨first, hfirst, by simp [haction first (List.mem_of_find?_eq_some hfirst)]⟩

theorem matchingRule?_builtIn_eq_none_iff (path : String) :
    (builtIn engine).matchingRule? path = none ↔ path ∉ loaderPaths ∧ ¬ HalForm path := by
  obtain ⟨loaders, hals, hrules, _, hloaders, _, hhals⟩ := exists_builtIn_rules h
  rw [matchingRule?, hrules, List.find?_eq_none, List.forall_mem_cons, hloaders,
    madeOf_loaderParts, ← exists_halParts_iff, ← hhals]
  simp only [not_exists, not_and]

end

/-- The table takes just the paths of the five forms, and of these its exclusions apply to
none. -/
theorem the_table_takes_five_forms_of_path (path : String) :
    (builtIn.isSpHal path = true ↔ HalForm path) ∧
      ∀ rule ∈ builtIn.rules, rule.action = .exclusion → HalForm path →
        rule.applies path = false := by
  refine ⟨isSpHal_builtIn_iff PatternEngine.readsTable_standard path, ?_⟩
  intro rule hrule hexclusion hform
  obtain ⟨loaders, hals, hrules, _, hloaders, haction, _⟩ :=
    exists_builtIn_rules PatternEngine.readsTable_standard
  rw [hrules, List.mem_cons] at hrule
  rcases hrule with rfl | hrule
  · rw [← Bool.not_eq_true, hloaders, madeOf_loaderParts]
    exact fun hpath => not_halForm_of_mem_loaderPaths hpath hform
  · rw [haction rule hrule] at hexclusion
    cases hexclusion

theorem a_driver_outside_its_usual_place_is_a_hal :
    HalForm "/vendor/priv/libEGL_adreno.so" ∧
      builtIn.isSpHal "/vendor/priv/libEGL_adreno.so" = true ∧
      ∀ rule ∈ builtIn.rules, rule.action = .exclusion →
        rule.applies "/vendor/priv/libEGL_adreno.so" = false := by
  have hform : HalForm "/vendor/priv/libEGL_adreno.so" :=
    @HalForm.driver "priv" "libEGL_" "adreno" (by decide) (by simp [OneLine]) (by simp [OneLine])
  obtain ⟨hiff, hnone⟩ := the_table_takes_five_forms_of_path "/vendor/priv/libEGL_adreno.so"
  exact ⟨hform, hiff.mpr hform, fun rule hrule haction => hnone rule hrule haction hform⟩

/-- The table goes by file names for all paths but those below a directory with the name of a
HAL: there it takes each library, whatever its name. -/
theorem the_table_goes_by_file_names_unless_a_directory_has_one (path : String) :
    (builtIn.isSpHal path = true → HalName (fileName path)) ↔
      (InHalDirectory path → HalName (fileName path)) := by
  rw [isSpHal_builtIn_iff PatternEngine.readsTable_standard]
  constructor
  · intro hnames hdirectory
    exact hnames hdirectory.halForm
  · intro hnames hform
    exact hform.file_or_directory.elim id hnames

theorem not_halName_of_foo : ¬ HalName "libfoo.so" := by
  intro h
  obtain ⟨start, hstart, rest, hname⟩ := h.exists_start
  have hnone : ∀ start ∈ nameStarts, ¬ start.toList <+: "libfoo.so".toList := by decide
  apply hnone start hstart
  rw [hname, String.toList_append]
  exact List.prefix_append _ _

/-- Not every path of the table ends in the name of a HAL. -/
theorem foo_is_a_hal_in_a_directory_named_vulkan :
    builtIn.isSpHal "/vendor/lib64/vulkan/libfoo.so" = true ∧
      fileName "/vendor/lib64/vulkan/libfoo.so" = "libfoo.so" ∧ ¬ HalName "libfoo.so" := by
  refine ⟨?_, by decide +kernel, not_halName_of_foo⟩
  rw [isSpHal_builtIn_iff PatternEngine.readsTable_standard]
  exact @HalForm.driver "lib64" "vulkan" "/libfoo" (by decide) (by simp [OneLine])
    (by simp [OneLine])

end SpHalRules

end ImageTiers
