-- The tally of a linking. The symbols of the libraries are stored one library after the other,
-- and what is missing is told and counted on the way. The law: the report, the log and the
-- counters agree with what the finished libraries hold.
import ImageTiers.Linking
import Mathlib.Data.List.Induction

namespace ImageTiers

/-! ## Stored libraries -/

/-- The symbols of a library that found no provider. -/
def Node.misses (node : Node) : List Miss := node.links.unresolved.map (⟨node.path, ·⟩)

/-- What the log tells of a symbol that found no provider. -/
def Miss.unresolved (miss : Miss) : LogEntry := .unresolvedSymbol miss.user miss.wanted

namespace Tally

/-- The tally that is right for some libraries. -/
def of (nodes : List Node) : Tally where
  nodes := nodes.toArray
  missing := nodes.flatMap Node.misses
  log := (nodes.flatMap Node.misses).map Miss.unresolved
  linkedSymbols := nodes.foldl (fun n node => n + node.links.providers.size) 0
  unresolvedSymbols := nodes.foldl (fun n node => n + node.links.missing.size) 0

theorem store_of (nodes : List Node) (node : Node) :
    (of nodes).store node = of (nodes ++ [node]) := by
  simp [store, of, Node.misses, Miss.unresolved, Function.comp_def]

theorem foldl_store (nodes : List Node) : nodes.foldl store .empty = of nodes := by
  induction nodes using List.reverseRecOn with
  | nil => rfl
  | append_singleton nodes node ih =>
    rw [List.foldl_append, ih, List.foldl_cons, List.foldl_nil, store_of]

end Tally

/-! ## The tally of an image -/

namespace Image

/-- The edges that linking asks for, in the order in which it records them. -/
def wantedEdges (img : Image) : List (LibId × LibId) := Lookup.edges img.clearLinks.lookups 0

/-- The image with all its edges, before the first symbol is looked up. -/
def edged (img : Image) : Image := (img.wantedEdges.foldl addEdge (img.clearLinks, 0)).1

/-- The image with its symbols stored. -/
def bindAll (img : Image) (fallback : Bool) : Image :=
  { img with nodes := img.boundNodes fallback }

/-- The symbols that found no provider, in the order of the libraries. -/
def missingSymbols (img : Image) : List Miss := img.nodes.toList.flatMap Node.misses

theorem tally_eq (img : Image) (fallback : Bool) :
    (img.boundNodes fallback).foldl Tally.store .empty =
      .of (img.bindAll fallback).nodes.toList := by
  rw [← Array.foldl_toList, Tally.foldl_store, bindAll]

theorem image_link (img : Image) (fallback : Bool) :
    (img.link fallback).image = img.edged.bindAll fallback := by
  simp only [link, tally_eq]
  rfl

/-- What the report tells of symbols is what the finished libraries miss. -/
theorem missing_link (img : Image) (fallback : Bool) :
    (img.link fallback).report.symbols = (img.link fallback).image.missingSymbols := by
  rw [image_link]
  simp only [link, tally_eq]
  rfl

/-- The log tells what came of the names, then the symbols of the report, and then the counters. -/
theorem log_link (img : Image) (fallback : Bool) :
    (img.link fallback).log =
      img.clearLinks.lookups.flatMap (·.log) ++
        (img.link fallback).report.symbols.map Miss.unresolved ++
        [.linked img.size (img.link fallback).stats] := by
  simp only [link, tally_eq]
  rfl

/-- The counters go over the finished libraries. -/
theorem counters_link (img : Image) (fallback : Bool) :
    (img.link fallback).stats.linkedSymbols =
        (img.link fallback).image.nodes.toList.foldl
          (fun n node => n + node.links.providers.size) 0 ∧
      (img.link fallback).stats.unresolvedSymbols =
        (img.link fallback).image.nodes.toList.foldl
          (fun n node => n + node.links.missing.size) 0 := by
  rw [image_link]
  simp only [link, tally_eq]
  exact ⟨rfl, rfl⟩

end Image

end ImageTiers
