-- A reference image: which libraries it has, and what each one exports. A
-- library of another image is compared with the one at the same path.
import ImageTiers.Json.Decode
import ImageTiers.Library
import Std.Data.ExtTreeMap

namespace ImageTiers

/-- How the exports of a library compare with the reference. -/
inductive RefClass
  /-- The reference has no library at this path. -/
  | newLib
  | exportEqual
  /-- It exports all that the reference does, and more. -/
  | exportSuperSet
  /-- It lacks some export of the reference. -/
  | modified
  deriving DecidableEq

namespace RefClass

def all : List RefClass := [.newLib, .exportEqual, .exportSuperSet, .modified]

def name : RefClass → String
  | newLib => "new_lib"
  | exportEqual => "export_equal"
  | exportSuperSet => "export_super_set"
  | modified => "modified"

end RefClass

/-- The exports of a reference image, by path. -/
structure Reference where
  exports : Std.ExtTreeMap String SymbolSet

namespace Reference

def empty : Reference := ⟨∅⟩

/-- Adds a library; one at the same path is replaced. -/
def add (r : Reference) (path : String) (symbols : List String) : Reference :=
  ⟨r.exports.insert path (.ofList symbols)⟩

def contains (r : Reference) (path : String) : Bool := r.exports.contains path

def size (r : Reference) : Nat := r.exports.size

def classify (r : Reference) (lib : Library) : RefClass :=
  match r.exports[lib.path]? with
  | none => .newLib
  | some reference =>
    if lib.elf.exported = reference then .exportEqual
    else if reference.toList.all lib.elf.exports then .exportSuperSet
    else .modified

/-! ## Decoding -/

/-- A dump is an object from paths to lists of symbols. -/
def decoder : Json.Decoder Reference
  | .object members ending => do
    let r ← members.foldlM (fun r (key, value) => do
      let path ← Json.decodeString (.string key)
      let symbols ← Json.decodeList Json.decodeString value
      return r.add path symbols) empty
    Json.ensure (ending = .closed)
    return r
  | _ => .error .malformed

def ofText (text : String) : Except Json.DecodeError Reference := Json.decode decoder text

end Reference

end ImageTiers
