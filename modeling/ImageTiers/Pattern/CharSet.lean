-- Sets of characters, as a pattern describes them.
import ImageTiers.Unicode.Fold
import ImageTiers.Unicode.Space
import ImageTiers.Unicode.Word

namespace ImageTiers

inductive CharSet
  | none
  /-- All characters from the first to the last. -/
  | range (first last : Char)
  | digit
  | space
  | word
  | complement (s : CharSet)
  | union (s t : CharSet)
  | intersection (s t : CharSet)
  /-- The set together with the case variants of its characters. -/
  | folding (s : CharSet)
  deriving DecidableEq

namespace CharSet

def single (c : Char) : CharSet := range c c

def all : CharSet := complement none

def difference (s t : CharSet) : CharSet := intersection s (complement t)

def symmetricDifference (s t : CharSet) : CharSet := union (difference s t) (difference t s)

/-- The characters of some ranges. -/
def ofRanges : List (Char × Char) → CharSet
  | [] => none
  | [(a, b)] => range a b
  | (a, b) :: rs => union (range a b) (ofRanges rs)

/-- The set, or its complement. -/
def negatedIf (b : Bool) (s : CharSet) : CharSet := if b then complement s else s

def contains : CharSet → Char → Bool
  | none, _ => false
  | range a b, c => a ≤ c && c ≤ b
  | digit, c => Unicode.isDigit c
  | space, c => Unicode.isSpace c
  | word, c => Unicode.isWord c
  | complement s, c => !s.contains c
  | union s t, c => s.contains c || t.contains c
  | intersection s t, c => s.contains c && t.contains c
  | folding s, c => (Unicode.caseVariants c).any s.contains

/-- The set as it is when case matters: nothing is folded. -/
def unfolded : CharSet → CharSet
  | complement s => complement s.unfolded
  | union s t => union s.unfolded t.unfolded
  | intersection s t => intersection s.unfolded t.unfolded
  | folding s => s.unfolded
  | s => s

/-- About how many steps it takes to spell the set out in bytes, beyond the one
that every set takes: two for each range of a table, and ten for a complement,
which reaches over characters of every length. -/
def weight : CharSet → Nat
  | none => 0
  | range _ _ => 0
  | digit => 2 * Unicode.digits.length
  | space => 2 * Unicode.spaces.length
  | word => 2 * (Unicode.letters.length + Unicode.otherWord.length)
  | complement s => s.weight + 10
  | union s t => s.weight + t.weight
  | intersection s t => s.weight + t.weight
  | folding s => s.weight

end CharSet

end ImageTiers
