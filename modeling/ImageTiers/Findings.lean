-- What linking looks for and does not find, and how much it finds.

namespace ImageTiers

/-- A name that a library needs and no library answers to, or a symbol that it
imports and no library provides. -/
structure Miss where
  user : String
  wanted : String
  deriving DecidableEq

/-- Everything that linking did not find, in the order of the libraries. -/
structure UnresolvedReport where
  deps : List Miss
  symbols : List Miss
  deriving DecidableEq

namespace UnresolvedReport

def isEmpty (r : UnresolvedReport) : Bool := r.deps.isEmpty && r.symbols.isEmpty

/-- The counts, and the first miss, so that the text stays short on a large image. -/
def message (r : UnresolvedReport) : String :=
  toString r.deps.length ++ " missing DT_NEEDED, " ++ toString r.symbols.length ++
    " unresolved symbols" ++
    match r.deps, r.symbols with
    | first :: _, _ => " (first: " ++ first.user ++ " needs " ++ first.wanted ++ ")"
    | [], first :: _ => " (first: " ++ first.user ++ " imports " ++ first.wanted ++ ")"
    | [], [] => ""

end UnresolvedReport

/-- How much linking found and did not find. -/
structure LinkStats where
  depEdges : Nat
  missingDeps : Nat
  linkedSymbols : Nat
  unresolvedSymbols : Nat
  deriving DecidableEq

end ImageTiers
