-- A tree of files in memory, with a working directory at its root. Files are
-- found by their names in the way a file system does it.
import ImageTiers.Error

namespace ImageTiers

inductive FileTree
  | file (content : ByteArray)
  | directory (entries : List (String × FileTree))

namespace FileTree

/-- The parts of a name between its slashes. -/
def parts (name : String) : List String := name.splitOn "/"

/-- Follows the parts of a name. `up` are the directories above, the nearest
first; above them there are only empty ones. -/
def follow (up : List FileTree) : FileTree → List String → Except FileError ByteArray
  | file content, [] => .ok content
  | directory _, [] => .error .isADirectory
  | file _, _ :: _ => .error .notADirectory
  | directory entries, part :: rest =>
    if part = "" ∨ part = "." then follow up (directory entries) rest
    else if part = ".." then follow up.tail (up.headD (directory [])) rest
    else
      match entries.lookup part with
      | some tree => follow (directory entries :: up) tree rest
      | none => .error .notFound

/-- The content of the file with the given name. A name that starts with a
slash lies outside the tree. -/
def read (tree : FileTree) (name : String) : Except FileError ByteArray :=
  if name.contains '\x00' then .error .invalidInput
  else if name = "" then .error .notFound
  else if name.toList.head? = some '/' then follow [] (directory []) (parts name)
  else follow [] tree (parts name)

end FileTree

end ImageTiers
