-- What the linker knows of one shared library: its word size, its byte
-- order, the names it needs, and the symbols it exports and imports.
-- Reading these out of a library file happens elsewhere.
import Std.Data.ExtTreeSet

namespace ImageTiers

/-! ## Word size and byte order -/

/-- The word size of a library. Libraries of two sizes never meet in one process. -/
inductive ElfClass
  | elf32
  | elf64
  deriving DecidableEq

namespace ElfClass

/-- Both word sizes, the small one first. -/
def all : List ElfClass := [.elf32, .elf64]

/-- The number of bits, as written in manifests and reports. -/
def name : ElfClass → String
  | elf32 => "32"
  | elf64 => "64"

/-- The word size as written in messages. -/
def title (c : ElfClass) : String := "ELF" ++ c.name

/-- The directory of a partition that holds the libraries of this size. -/
def libDir : ElfClass → String
  | elf32 => "lib"
  | elf64 => "lib64"

end ElfClass

/-- The byte order of a library. It is carried along and decides nothing. -/
inductive ByteOrder
  | lsb
  | msb
  deriving DecidableEq

namespace ByteOrder

def all : List ByteOrder := [.lsb, .msb]

def name : ByteOrder → String
  | lsb => "lsb"
  | msb => "msb"

end ByteOrder

/-! ## Libraries as the linker sees them -/

/-- A set of symbol names. It is listed in byte order, and two sets with the
same names are equal. -/
abbrev SymbolSet := Std.ExtTreeSet String

/-- The dynamic-linking view of one library. -/
structure Elf where
  elfClass : ElfClass
  byteOrder : ByteOrder
  /-- The names of the libraries it needs, as declared, repeats kept. -/
  needed : List String
  exported : SymbolSet
  imported : SymbolSet
  deriving DecidableEq

/-- The library offers the symbol `s` to others. -/
def Elf.exports (elf : Elf) (s : String) : Bool := elf.exported.contains s

end ImageTiers
