-- Linking an image. Every name a library needs is looked up in its own
-- partition and then in the other one, always at its own word size. Every
-- symbol it imports is looked up in the libraries it needs, and then, if
-- that is allowed, in the rest of its group. What is not found is recorded
-- and stops nothing.
import ImageTiers.Image
import ImageTiers.Log

namespace ImageTiers

namespace Node

def clear (node : Node) : Node := { node with links := .empty }

def addDep (node : Node) (dep : LibId) : Node :=
  { node with links := { node.links with deps := node.links.deps ++ [dep] } }

def addUser (node : Node) (user : LibId) : Node :=
  { node with links := { node.links with users := node.links.users ++ [user] } }

end Node

namespace Image

/-- Drops what an earlier linking found out. -/
def clearLinks (img : Image) : Image := { img with nodes := img.nodes.map Node.clear }

/-! ## Needed libraries -/

/-- The library that the name `soname` means inside one group: the one in the
default directory if there is one, or else the first added with that file name. -/
def locate? (img : Image) (g : Group) (soname : String) : Option LibId :=
  (img.findIn? g (g.directory ++ soname)).or ((img.bucket g).named soname)[0]?

/-- The library that the name `soname` means to a library of the group `g`. -/
def target? (img : Image) (g : Group) (soname : String) : Option LibId :=
  (img.locate? g soname).or (img.locate? ⟨g.partition.other, g.elfClass⟩ soname)

end Image

/-- What came of looking up the needed names of one library. -/
structure Lookup where
  /-- The libraries that the names mean, repeats kept. -/
  found : List LibId
  /-- The names that mean no library. -/
  missing : List Miss
  log : Log

namespace Lookup

def empty : Lookup := ⟨[], [], []⟩

/-- The edges that the lookups of all libraries ask for, user by user. The first
lookup is that of the library `first`. -/
def edges (lookups : List Lookup) (first : LibId) : List (LibId × LibId) :=
  (lookups.zipIdx first).flatMap fun (lookup, user) => lookup.found.map (user, ·)

end Lookup

namespace Image

/-- Looks up one more name, ahead of those looked up already. A library never
needs itself. -/
def lookUpName (img : Image) (id : LibId) (node : Node) (soname : String) (rest : Lookup) :
    Lookup :=
  match img.target? node.group soname with
  | none =>
    { rest with
      missing := ⟨node.path, soname⟩ :: rest.missing
      log := .missingNeeded node.path soname :: rest.log }
  | some dep =>
    if dep = id then { rest with log := .needsItself node.path :: rest.log }
    else { rest with found := dep :: rest.found }

def lookUp (img : Image) (id : LibId) (node : Node) : Lookup :=
  node.elf.needed.foldr (img.lookUpName id node) .empty

/-- Records that `user` needs `dep`, on both of them, unless that is recorded
already. Nothing else writes `deps` or `users`. -/
def addEdge? (img : Image) (user dep : LibId) : Option Image :=
  if (img.deps user).contains dep then none
  else some { img with nodes := (img.nodes.modify user (·.addDep dep)).modify dep (·.addUser user) }

/-- Records one more edge, and counts it if it is new. -/
def addEdge : Image × Nat → LibId × LibId → Image × Nat
  | (img, count), (user, dep) =>
    match img.addEdge? user dep with
    | none => (img, count)
    | some img => (img, count + 1)

/-! ## Imported symbols -/

/-- The library that provides the symbol `s` to `id`: the first library it needs
that exports it, or else, with `fallback`, the first other one of its group. -/
def provider? (img : Image) (fallback : Bool) (id : LibId) (node : Node) (s : String) :
    Option LibId :=
  (node.links.deps.find? (img.exports · s)).or
    (if fallback then
      ((img.bucket node.group).members.toList.filter fun c =>
        c ≠ id && !node.links.deps.contains c).find? (img.exports · s)
     else none)

def bindSymbol (img : Image) (fallback : Bool) (id : LibId) (node : Node) (links : Links)
    (s : String) : Links :=
  match img.provider? fallback id node s with
  | some provider => { links with providers := links.providers.insert s provider }
  | none => { links with missing := links.missing.insert s }

def bindSymbols (img : Image) (fallback : Bool) (id : LibId) (node : Node) : Node :=
  { node with
    links := node.elf.imported.toList.foldl (img.bindSymbol fallback id node)
      { node.links with providers := ∅, missing := ∅ } }

end Image

/-! ## The whole image -/

/-- What is known of the symbols while they are stored, library by library. -/
structure Tally where
  /-- The libraries whose symbols are stored. -/
  nodes : Array Node
  /-- The symbols of these libraries that found no provider. -/
  missing : List Miss
  log : Log
  linkedSymbols : Nat
  unresolvedSymbols : Nat

namespace Tally

def empty : Tally := ⟨#[], [], [], 0, 0⟩

/-- Stores one more library with its symbols, tells of those that found no provider, and
counts them all. -/
def store (t : Tally) (node : Node) : Tally where
  nodes := t.nodes.push node
  missing := t.missing ++ node.links.unresolved.map (⟨node.path, ·⟩)
  log := t.log ++ node.links.unresolved.map (.unresolvedSymbol node.path ·)
  linkedSymbols := t.linkedSymbols + node.links.providers.size
  unresolvedSymbols := t.unresolvedSymbols + node.links.missing.size

end Tally

/-- What linking an image comes to. -/
structure Linked where
  image : Image
  stats : LinkStats
  report : UnresolvedReport
  log : Log

namespace Image

/-- What each library of the image needs, in order. The edges are still to be recorded. -/
def lookups (img : Image) : List Lookup := img.nodes.toList.mapIdx img.lookUp

/-- The libraries with their symbols, looked up in an image with all its edges. -/
def boundNodes (img : Image) (fallback : Bool) : Array Node :=
  img.nodes.mapIdx (img.bindSymbols fallback)

/-- Links the image anew, and tells what was found and what was not. Names are looked up before
the first edge is recorded, and symbols after the last edge and before the first is stored. -/
def link (img : Image) (fallback : Bool) : Linked :=
  let lookups := img.clearLinks.lookups
  let (edged, depEdges) := (Lookup.edges lookups 0).foldl addEdge (img.clearLinks, 0)
  let tally := (edged.boundNodes fallback).foldl Tally.store .empty
  let report := ⟨lookups.flatMap (·.missing), tally.missing⟩
  let stats :=
    { depEdges
      missingDeps := report.deps.length
      linkedSymbols := tally.linkedSymbols
      unresolvedSymbols := tally.unresolvedSymbols }
  { image := { edged with nodes := tally.nodes }, stats, report
    log := lookups.flatMap (·.log) ++ tally.log ++ [.linked img.size stats] }

end Image

end ImageTiers
