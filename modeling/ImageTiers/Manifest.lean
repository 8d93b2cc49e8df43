-- Manifests: the libraries of an image as a JSON list. An entry names the
-- partition and the path of a library, and beside these the fields of its
-- ELF view.
import ImageTiers.ElfRecord
import ImageTiers.Library

namespace ImageTiers

open Json (Decoder DecodeError)

namespace Library

/-! ## Encoding -/

def toJson (lib : Library) : Json :=
  .object <| [("partition", .string lib.partition.root), ("path", .string lib.path)] ++
    lib.elf.jsonMembers

/-! ## Decoding -/

/-- How deep the values inside an entry may be nested. With the list and the
entry around them that makes 127. -/
def entryRoom : Nat := 125

/-- The fields of an entry seen so far. Members that may belong to the ELF view
are kept, in order, until the entry ends. -/
structure Slots where
  partition : Option Partition
  path : Option String
  kept : List Json.Member

def decodePartition : Decoder Partition :=
  Json.decodeChoice .direct (Partition.all.map fun p => (p.root, p))

/-- Takes in one member of an entry. -/
def put (s : Slots) : Json.Member → Except DecodeError Slots
  | (none, _) => .error .malformed
  | (some "partition", d) => do
    return { s with partition := ← Json.fill "partition" s.partition decodePartition d }
  | (some "path", d) => do
    return { s with path := ← Json.fill "path" s.path Json.decodeString d }
  | (some name, d) => do
    Json.ensure (d.isKeepable entryRoom)
    return { s with kept := s.kept ++ [(some name, d)] }

def decoder : Decoder Library
  | .object members ending => do
    let slots ← members.foldlM put ⟨none, none, []⟩
    Json.ensure (ending = .closed)
    let partition ← Json.required "partition" slots.partition
    let path ← Json.required "path" slots.path
    let elf ← slots.kept.foldlM (Elf.put .kept) .empty
    return ⟨partition, path, ← elf.elf⟩
  | _ => .error .malformed

end Library

namespace Manifest

def toJson (libs : List Library) : Json := .array (libs.map (·.toJson))

def ofText (text : String) : Except DecodeError (List Library) :=
  Json.decode (Json.decodeList Library.decoder) text

end Manifest

end ImageTiers
