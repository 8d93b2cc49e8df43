-- The predefined same-process HALs, told by their path. The rules are tried
-- in order, and the first one that matches decides; a path that none matches
-- is no HAL. The loaders of the NDK come first, because their names look like
-- those of the drivers that they load. What a pattern is, and where it is found,
-- is up to an engine.
import ImageTiers.Pattern.Reading

namespace ImageTiers

/-! ## Engines -/

/-- What compiles patterns and looks for them in paths. -/
structure PatternEngine where
  Compiled : Type
  /-- The pattern that a text describes; `none` if it describes none. -/
  compile? : String → Option Compiled
  /-- A path has the pattern in it. -/
  finds : Compiled → String → Bool

/-- The engine that the program runs with. -/
def PatternEngine.standard : PatternEngine := ⟨Pattern, Pattern.ofText?, Pattern.matchesIn⟩

/-! ## Rules -/

inductive RuleAction
  | inclusion
  | exclusion
  deriving DecidableEq

/-- A rule: what it decides, for which paths, and a label that says why. -/
structure SpHalRule where
  action : RuleAction
  /-- The text of the pattern. -/
  text : String
  /-- Whether the pattern is found in a path. -/
  applies : String → Bool
  label : String

/-- A rule from the text of its pattern; `none` if that describes no pattern. -/
def SpHalRule.ofText? (engine : PatternEngine) (action : RuleAction) (text label : String) :
    Option SpHalRule :=
  (engine.compile? text).map fun pattern => ⟨action, text, engine.finds pattern, label⟩

/-- A list of rules, the first to be tried first. -/
structure SpHalRules where
  rules : List SpHalRule

namespace SpHalRules

/-! ## The table -/

/-- The rules every image starts from. -/
def table : List (RuleAction × String × String) :=
  [(.exclusion,
      r"^/system/lib(?:64)?/(?:libvulkan|libEGL|libGLESv1_CM|libGLESv2|libGLESv3)\.so$",
      "NDK loader"),
    (.inclusion, r"^/vendor/.*/libEGL_.*\.so$", "EGL driver"),
    (.inclusion, r"^/vendor/.*/libGLES_.*\.so$", "GLES driver"),
    (.inclusion, r"^/vendor/.*/libGLESv1_CM_.*\.so$", "GLES driver"),
    (.inclusion, r"^/vendor/.*/libGLESv2_.*\.so$", "GLES driver"),
    (.inclusion, r"^/vendor/.*/libGLESv3_.*\.so$", "GLES driver"),
    (.inclusion, r"^/vendor/.*/vulkan.*\.so$", "Vulkan driver"),
    (.inclusion, r"^.*/android\.hardware\.renderscript@1\.0-impl\.so$", "Renderscript HAL"),
    (.inclusion, r"^/vendor/.*/libPVRRS\.so$", "Renderscript driver"),
    (.inclusion, r"^/vendor/.*/libRSDriver.*\.so$", "Renderscript driver"),
    (.inclusion, r"^.*/gralloc\..*\.so$", "gralloc"),
    (.inclusion, r"^.*/android\.hardware\.graphics\.mapper@\d+\.\d+-impl\.so$", "gralloc mapper")]

/-- The rules of the entries whose texts are patterns. -/
def ofEntries (engine : PatternEngine) (entries : List (RuleAction × String × String)) :
    List SpHalRule :=
  entries.filterMap fun (action, text, label) => SpHalRule.ofText? engine action text label

/-- The rules of the table. For the standard engine all of its texts are patterns. -/
def builtIn (engine : PatternEngine := .standard) : SpHalRules := ⟨ofEntries engine table⟩

/-- The rules that a configuration adds, or the first text that is no pattern. -/
def extraRules (engine : PatternEngine) : List String → Except String (List SpHalRule)
  | [] => .ok []
  | text :: texts =>
    match SpHalRule.ofText? engine .inclusion text "config" with
    | none => .error text
    | some rule => (rule :: ·) <$> extraRules engine texts

/-- The rules of the table, and after them rules that include what matches one
of the given texts. -/
def withExtra (texts : List String) (engine : PatternEngine := .standard) :
    Except String SpHalRules :=
  (extraRules engine texts).map fun extra => ⟨(builtIn engine).rules ++ extra⟩

/-! ## Deciding -/

/-- The rule that decides for a path. -/
def matchingRule? (r : SpHalRules) (path : String) : Option SpHalRule :=
  r.rules.find? (·.applies path)

/-- The path is that of a predefined same-process HAL. -/
def isSpHal (r : SpHalRules) (path : String) : Bool :=
  (r.matchingRule? path).any (·.action = .inclusion)

end SpHalRules

end ImageTiers
