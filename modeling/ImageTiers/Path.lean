-- Install paths. A path is plain text; only its slashes matter here, and
-- most of all the last one, which starts the file name.

namespace ImageTiers

/-- The part of a path after its last slash, or the whole path if it has no
slash. Libraries ask for each other by this name. -/
def fileName (path : String) : String :=
  String.ofList (path.toList.reverse.takeWhile (· ≠ '/')).reverse

end ImageTiers
