-- A linker: an image together with the settings, the NDK lists and the HAL
-- rules that apply to it. Every operation leaves a linker, a log, and what it
-- came to, also when it fails.
import ImageTiers.Closure
import ImageTiers.Config
import ImageTiers.Error
import ImageTiers.Linking
import ImageTiers.Ndk
import ImageTiers.SpHal

namespace ImageTiers

structure Linker where
  config : Config
  ndk : NdkLists
  spHalRules : SpHalRules
  image : Image

/-- What an operation on a linker leaves behind. -/
structure Step (α : Type) where
  linker : Linker
  log : Log
  outcome : Except LinkError α

namespace Linker

/-! ## Setting up -/

/-- A linker with the default settings and no libraries. -/
def default : Linker := ⟨.default, .builtIn, .builtIn, .empty⟩

/-- A linker with the given settings and no libraries. -/
def ofConfig (c : Config) : Except LinkError Linker :=
  match SpHalRules.withExtra c.extraSpHalPatterns with
  | .error text => .error (.invalidPattern text)
  | .ok rules => .ok ⟨c, .withExtra c.extraLlNdk c.extraSpNdk, rules, .empty⟩

/-! ## Adding libraries -/

/-- Adds a library. A linker that refuses it stays as it is. -/
def add (l : Linker) (lib : Library) : Step LibId :=
  match l.image.add? lib with
  | none => ⟨l, [], .error (.duplicatePath lib.path)⟩
  | some img => ⟨{ l with image := img }, [.added lib.group lib.path], .ok l.image.size⟩

/-- Adds libraries in order, up to the first one that is refused. -/
def load (l : Linker) : List Library → Step Unit
  | [] => ⟨l, [], .ok ()⟩
  | lib :: libs =>
    match l.add lib with
    | ⟨l, log, .error e⟩ => ⟨l, log, .error e⟩
    | ⟨l, log, .ok _⟩ =>
      let rest := load l libs
      { rest with log := log ++ rest.log }

/-- The library at `path`, which should be there. -/
def require (l : Linker) (path : String) : Except LinkError LibId :=
  match l.image.find? path with
  | some id => .ok id
  | none => .error (.unknownPath path)

/-! ## Linking -/

/-- Links the whole image. A strict linker fails if anything was not found, but
the image is linked all the same. -/
def resolve (l : Linker) : Step LinkStats :=
  let linked := l.image.link l.config.symbolFallback
  { linker := { l with image := linked.image }
    log := linked.log
    outcome :=
      if l.config.policy = .strict && !linked.report.isEmpty then
        .error (.unresolved linked.report)
      else .ok linked.stats }

/-! ## Telling libraries apart -/

def ndkKind? (l : Linker) (id : LibId) : Option NdkKind := l.ndk.classify (l.image.path id)

def isNdk (l : Linker) (id : LibId) : Bool := (l.ndkKind? id).isSome

def isLlNdk (l : Linker) (id : LibId) : Bool := l.ndkKind? id = some .lowLevel

def isSpNdk (l : Linker) (id : LibId) : Bool := l.ndkKind? id = some .sameProcess

def isHlNdk (l : Linker) (id : LibId) : Bool := l.ndkKind? id = some .highLevel

def llNdk (l : Linker) : List LibId := l.image.ids.filter l.isLlNdk

def spNdk (l : Linker) : List LibId := l.image.ids.filter l.isSpNdk

/-- The predefined same-process HALs of the image. -/
def spHal (l : Linker) : List LibId :=
  l.image.ids.filter fun id => l.spHalRules.isSpHal (l.image.path id)

end Linker

end ImageTiers
