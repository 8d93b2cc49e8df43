-- A library of an image: where it is installed, on which partition, and its
-- ELF view. Libraries of one partition and one word size form a group, and
-- a name is always looked up inside one group.
import ImageTiers.Elf
import ImageTiers.Path

namespace ImageTiers

/-! ## Partitions -/

/-- The partition of an image that a library is installed on. -/
inductive Partition
  | system
  | vendor
  deriving DecidableEq

namespace Partition

/-- Both partitions, the system one first. -/
def all : List Partition := [.system, .vendor]

/-- The top directory of the partition, which is also its name. -/
def root : Partition → String
  | system => "system"
  | vendor => "vendor"

def other : Partition → Partition
  | system => vendor
  | vendor => system

end Partition

/-! ## Groups -/

/-- A partition and a word size. -/
structure Group where
  partition : Partition
  elfClass : ElfClass
  deriving DecidableEq

/-- The directory where the libraries of a group sit by default, with the
slash after it. -/
def Group.directory (g : Group) : String :=
  "/" ++ g.partition.root ++ "/" ++ g.elfClass.libDir ++ "/"

/-! ## Libraries -/

structure Library where
  partition : Partition
  path : String
  elf : Elf
  deriving DecidableEq

namespace Library

def name (lib : Library) : String := fileName lib.path

def group (lib : Library) : Group := ⟨lib.partition, lib.elf.elfClass⟩

def isSystem (lib : Library) : Bool := lib.partition = .system

def isVendor (lib : Library) : Bool := lib.partition = .vendor

end Library

end ImageTiers
