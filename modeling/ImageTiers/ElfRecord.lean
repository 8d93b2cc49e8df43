-- The JSON form of the ELF view of a library. Only the word size has to be
-- there; keys that mean nothing here are passed over.
import ImageTiers.Elf
import ImageTiers.Json.Decode
import ImageTiers.Json.Value

namespace ImageTiers

open Json (Draft Decoder DecodeError Stage)

namespace Elf

/-! ## Encoding -/

/-- The members of the JSON form, which may stand in a larger object. -/
def jsonMembers (elf : Elf) : List (String × Json) :=
  [("class", .string elf.elfClass.name), ("data", .string elf.byteOrder.name),
    ("dt_needed", .strings elf.needed), ("exported_symbols", .strings elf.exported.toList),
    ("imported_symbols", .strings elf.imported.toList)]

def toJson (elf : Elf) : Json := .object elf.jsonMembers

/-! ## Decoding -/

/-- The fields seen so far. -/
structure Slots where
  elfClass : Option ElfClass
  byteOrder : Option ByteOrder
  needed : Option (List String)
  exported : Option SymbolSet
  imported : Option SymbolSet

namespace Slots

def empty : Slots := ⟨none, none, none, none, none⟩

/-- The record, if the word size was seen. -/
def elf (s : Slots) : Except DecodeError Elf := do
  let elfClass ← Json.required "class" s.elfClass
  return {
    elfClass
    byteOrder := s.byteOrder.getD .lsb
    needed := s.needed.getD []
    exported := s.exported.getD ∅
    imported := s.imported.getD ∅ }

end Slots

def decodeClass (stage : Stage) : Decoder ElfClass :=
  Json.decodeChoice stage (ElfClass.all.map fun c => (c.name, c))

def decodeByteOrder (stage : Stage) : Decoder ByteOrder :=
  Json.decodeChoice stage (ByteOrder.all.map fun b => (b.name, b))

def decodeNames : Decoder (List String) := Json.decodeList Json.decodeString

def decodeSymbols : Decoder SymbolSet := fun d => do
  return .ofList (← decodeNames d)

/-- Takes in one member of the object. A known key must be new. -/
def put (stage : Stage) (s : Slots) : Json.Member → Except DecodeError Slots
  | (none, _) => .error .malformed
  | (some "class", d) => do
    return { s with elfClass := ← Json.fill "class" s.elfClass (decodeClass stage) d }
  | (some "data", d) => do
    return { s with byteOrder := ← Json.fill "data" s.byteOrder (decodeByteOrder stage) d }
  | (some "dt_needed", d) => do
    return { s with needed := ← Json.fill "dt_needed" s.needed decodeNames d }
  | (some "exported_symbols", d) => do
    return { s with exported := ← Json.fill "exported_symbols" s.exported decodeSymbols d }
  | (some "imported_symbols", d) => do
    return { s with imported := ← Json.fill "imported_symbols" s.imported decodeSymbols d }
  | (some _, d) => do
    Json.ensure d.isComplete
    return s

/-- The fields without their names, in the order they are written. All but the
first may be left out at the end. -/
def ofItems (items : List Draft) : Except DecodeError Elf := do
  let (elfClass, items) ← Json.takeItem (decodeClass .direct) items
  let (byteOrder, items) ← Json.takeItem (decodeByteOrder .direct) items
  let (needed, items) ← Json.takeItem decodeNames items
  let (exported, items) ← Json.takeItem decodeSymbols items
  let (imported, items) ← Json.takeItem decodeSymbols items
  Json.ensure (elfClass.isSome && items.isEmpty)
  Slots.elf ⟨elfClass, byteOrder, needed, exported, imported⟩

def decoder : Decoder Elf
  | .object members ending => do
    let slots ← members.foldlM (put .direct) .empty
    Json.ensure (ending = .closed)
    slots.elf
  | .array items ending => do
    let elf ← ofItems items
    Json.ensure (ending = .closed)
    return elf
  | _ => .error .malformed

def ofText (text : String) : Except DecodeError Elf := Json.decode decoder text

end Elf

end ImageTiers
