-- The three reports on a linked image, as text and as JSON. Libraries stand
-- in the order of their paths.
import ImageTiers.Json.Value
import ImageTiers.Tiers

namespace ImageTiers

/-- How a report is written. -/
inductive Format
  | text
  | json
  deriving DecidableEq

namespace Report

/-- One line for each text. -/
def lines (ls : List String) : String := String.join (ls.map (· ++ "\n"))

/-! ## What each library needs -/

/-- The nodes of the image, in the order of their paths. -/
def sortedNodes (img : Image) : List Node := img.nodes.toList.mergeSort (·.path ≤ ·.path)

/-- The lines of one library: its path, what it needs, and the symbols that it
imports and nobody provides. -/
def depsLines (img : Image) (node : Node) : List String :=
  node.path :: (img.paths node.links.deps).map ("\t" ++ ·) ++
    node.links.unresolved.map ("\tunresolved: " ++ ·)

def depsJson (img : Image) (node : Node) : Json :=
  .object
    [("path", .string node.path), ("partition", .string node.partition.root),
      ("class", .string node.elf.elfClass.name),
      ("deps", .strings (img.paths node.links.deps)),
      ("users", .strings (img.paths node.links.users)),
      ("linked_symbols",
        .object (node.links.linked.map fun (symbol, id) => (symbol, .string (img.path id)))),
      ("unresolved_symbols", .strings node.links.unresolved)]

/-- Every library with what it needs. -/
def deps (img : Image) : Format → String
  | .text => lines ((sortedNodes img).flatMap (depsLines img))
  | .json => (Json.array ((sortedNodes img).map (depsJson img))).pretty

/-! ## Same-process HALs and tiers -/

def paths (img : Image) (ids : List LibId) : Format → String
  | .text => lines (img.paths ids)
  | .json => (Json.strings (img.paths ids)).pretty

/-- The members of each tier. In text, each line starts with the name of the tier. -/
def tiers (img : Image) (t : Tiers) : Format → String
  | .text => lines (t.named.flatMap fun (name, ids) => (img.paths ids).map (name ++ "\t" ++ ·))
  | .json => (Json.object (t.named.map fun (name, ids) => (name, .strings (img.paths ids)))).pretty

end Report

end ImageTiers
