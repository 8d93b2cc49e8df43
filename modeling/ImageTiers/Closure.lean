-- Everything that can be reached from some libraries along their links.
-- Libraries may need each other in a circle, so the walk remembers what it
-- has found and visits each library once.
import ImageTiers.Image

namespace ImageTiers

/-- The walk behind a closure. `found` lists what was found so far, and `queue`
is the part of it that was not visited yet. A visit appends the neighbours that
are neither found nor excluded. -/
def walk (next : LibId → List LibId) (excluded : LibId → Bool) :
    Nat → List LibId → List LibId → List LibId
  | _, found, [] => found
  | 0, found, _ :: _ => found
  | visits + 1, found, id :: queue =>
    let fresh := ((next id).filter fun n => !found.contains n && !excluded n).eraseDups
    walk next excluded visits (found ++ fresh) (queue ++ fresh)

/-- The roots, and all that can be reached from them over libraries that are
not excluded. Roots are kept and visited even if excluded. No library is found
twice, so as many visits as there are libraries are enough. -/
def closure (libraries : Nat) (next : LibId → List LibId) (excluded : LibId → Bool)
    (roots : List LibId) : List LibId :=
  walk next excluded (libraries + roots.length) roots.eraseDups roots.eraseDups

namespace Image

/-- What the roots need, directly or not, entering no excluded library. -/
def depsClosure (img : Image) (excluded : LibId → Bool) (roots : List LibId) : List LibId :=
  closure img.size img.deps excluded roots

/-- What needs the roots, directly or not, entering no excluded library. -/
def usersClosure (img : Image) (excluded : LibId → Bool) (roots : List LibId) : List LibId :=
  closure img.size img.users excluded roots

end Image

end ImageTiers
