-- The libraries of the NDK, told by their path. A library counts only if it
-- sits directly in a library directory of the system partition, so a vendor
-- library with the same name is an ordinary one.

namespace ImageTiers

inductive NdkKind
  /-- Loaded into every process. -/
  | lowLevel
  /-- Loads drivers into its own process. -/
  | sameProcess
  | highLevel
  deriving DecidableEq

/-- The stems of the NDK libraries: their file names without the ending. -/
structure NdkLists where
  lowLevel : List String
  sameProcess : List String
  highLevel : List String
  deriving DecidableEq

namespace NdkLists

/-- The lists every image starts from. -/
def builtIn : NdkLists where
  lowLevel :=
    ["libandroid_net", "libc", "libdl", "liblog", "libm", "libstdc++", "libvndksupport", "libz"]
  sameProcess :=
    ["libEGL", "libGLESv1_CM", "libGLESv2", "libGLESv3", "libnativewindow", "libsync", "libvulkan"]
  highLevel :=
    ["libandroid", "libcamera2ndk", "libjnigraphics", "libmediandk", "libOpenMAXAL",
      "libOpenSLES"]

/-- The built-in lists with more low-level and same-process stems. -/
def withExtra (lowLevel sameProcess : List String) : NdkLists where
  lowLevel := builtIn.lowLevel ++ lowLevel
  sameProcess := builtIn.sameProcess ++ sameProcess
  highLevel := builtIn.highLevel

/-- The stem of a library that sits directly in `/system/lib` or `/system/lib64`. -/
def stem? (path : String) : Option String := do
  let inSystem ← "/system/".toList.isPrefixOf? path.toList
  let file ← ("lib64/".toList.isPrefixOf? inSystem).or ("lib/".toList.isPrefixOf? inSystem)
  if file.contains '/' then none
  let stem ← ".so".toList.isSuffixOf? file
  return String.ofList stem

/-- The part of the NDK that the library at `path` belongs to. A stem on two
lists belongs to the first of them. -/
def classify (lists : NdkLists) (path : String) : Option NdkKind := do
  let stem ← stem? path
  if lists.lowLevel.contains stem then some .lowLevel
  else if lists.sameProcess.contains stem then some .sameProcess
  else if lists.highLevel.contains stem then some .highLevel
  else none

end NdkLists

end ImageTiers
