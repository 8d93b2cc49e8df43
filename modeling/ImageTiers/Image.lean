-- The libraries of an image, in the order they were added, and the ways to
-- find one: by its path, in the whole image or inside a group, and by its file
-- name inside a group. Each library also carries its links, which are empty
-- until the image is linked.
import ImageTiers.Library
import Std.Data.ExtTreeMap

namespace ImageTiers

/-! ## Nodes -/

/-- A library is known by its place in the order of adding, counted from zero. -/
abbrev LibId := Nat

/-- What linking found out about one library. -/
structure Links where
  /-- The libraries it needs, in declaration order, each once. -/
  deps : List LibId
  /-- The libraries that need it, in the order they were added. -/
  users : List LibId
  /-- The library that provides each imported symbol, where one does. -/
  providers : Std.ExtTreeMap String LibId
  /-- The imported symbols that no library provides. -/
  missing : SymbolSet
  deriving DecidableEq

namespace Links

/-- The links of a library that was never linked. -/
def empty : Links := ⟨[], [], ∅, ∅⟩

/-- The symbols that found a provider, with it, in byte order. -/
def linked (l : Links) : List (String × LibId) := l.providers.toList

/-- The symbols that found none, in byte order. -/
def unresolved (l : Links) : List String := l.missing.toList

end Links

structure Node extends Library where
  links : Links
  deriving DecidableEq

/-! ## Buckets -/

/-- The libraries of one group, in the order they were added, by path, and by
file name. -/
structure Bucket where
  members : Array LibId
  byPath : Std.ExtTreeMap String LibId
  byName : Std.ExtTreeMap String (Array LibId)

namespace Bucket

def empty : Bucket := ⟨#[], ∅, ∅⟩

def find? (b : Bucket) (path : String) : Option LibId := b.byPath[path]?

/-- The members with the file name `name`, in the order they were added. -/
def named (b : Bucket) (name : String) : Array LibId := b.byName.getD name #[]

/-- Adds a library, whose path should be new. -/
def add (b : Bucket) (path : String) (id : LibId) : Bucket where
  members := b.members.push id
  byPath := b.byPath.insert path id
  byName := b.byName.insert (fileName path) ((b.named (fileName path)).push id)

end Bucket

structure Buckets where
  system32 : Bucket
  system64 : Bucket
  vendor32 : Bucket
  vendor64 : Bucket

namespace Buckets

def empty : Buckets := ⟨.empty, .empty, .empty, .empty⟩

def get (b : Buckets) : Group → Bucket
  | ⟨.system, .elf32⟩ => b.system32
  | ⟨.system, .elf64⟩ => b.system64
  | ⟨.vendor, .elf32⟩ => b.vendor32
  | ⟨.vendor, .elf64⟩ => b.vendor64

def modify (b : Buckets) (f : Bucket → Bucket) : Group → Buckets
  | ⟨.system, .elf32⟩ => { b with system32 := f b.system32 }
  | ⟨.system, .elf64⟩ => { b with system64 := f b.system64 }
  | ⟨.vendor, .elf32⟩ => { b with vendor32 := f b.vendor32 }
  | ⟨.vendor, .elf64⟩ => { b with vendor64 := f b.vendor64 }

/-- A change to one bucket is seen there and nowhere else. -/
theorem get_modify (b : Buckets) (f : Bucket → Bucket) (g h : Group) :
    (b.modify f g).get h = if g = h then f (b.get g) else b.get h := by
  obtain ⟨p, c⟩ := g
  obtain ⟨q, d⟩ := h
  cases p <;> cases c <;> cases q <;> cases d <;> rfl

end Buckets

/-! ## Images -/

/-- The libraries of an image. No two have the same path. -/
structure Image where
  nodes : Array Node
  byPath : Std.ExtTreeMap String LibId
  buckets : Buckets

namespace Image

def empty : Image := ⟨#[], ∅, .empty⟩

def size (img : Image) : Nat := img.nodes.size

def ids (img : Image) : List LibId := List.range img.size

def node? (img : Image) (id : LibId) : Option Node := img.nodes[id]?

def find? (img : Image) (path : String) : Option LibId := img.byPath[path]?

def bucket (img : Image) (g : Group) : Bucket := img.buckets.get g

/-- The id of the library at `path` if it belongs to the group `g`. -/
def findIn? (img : Image) (g : Group) (path : String) : Option LibId := (img.bucket g).find? path

/-- Puts a library at the end, without links, whether its path is free or not. -/
def push (img : Image) (lib : Library) : Image where
  nodes := img.nodes.push { lib with links := .empty }
  byPath := img.byPath.insert lib.path img.size
  buckets := img.buckets.modify (·.add lib.path img.size) lib.group

def add? (img : Image) (lib : Library) : Option Image :=
  if img.byPath.contains lib.path then none else some (img.push lib)

/-! ## Reading the links -/

def deps (img : Image) (id : LibId) : List LibId :=
  ((img.node? id).map (·.links.deps)).getD []

def users (img : Image) (id : LibId) : List LibId :=
  ((img.node? id).map (·.links.users)).getD []

def exports (img : Image) (id : LibId) (s : String) : Bool :=
  (img.node? id).any (·.elf.exports s)

/-- The path of a library; empty for an id that names none. -/
def path (img : Image) (id : LibId) : String :=
  ((img.node? id).map (·.path)).getD ""

/-- The paths of some libraries, in byte order, repeats kept. -/
def paths (img : Image) (ids : List LibId) : List String :=
  (ids.map img.path).mergeSort (· ≤ ·)

/-- The ids of a partition, the 32-bit libraries first. -/
def partitionIds (img : Image) (p : Partition) : List LibId :=
  ElfClass.all.flatMap fun c => (img.bucket ⟨p, c⟩).members.toList

end Image

end ImageTiers
