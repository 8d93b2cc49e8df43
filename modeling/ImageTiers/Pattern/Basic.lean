-- Patterns for paths, and the search for a match anywhere in a text. The
-- search keeps the set of all positions that a match may have come to, so it
-- needs no backtracking and always ends. A position is the number of
-- characters before it.
import ImageTiers.Pattern.CharSet

namespace ImageTiers

/-! ## Boundaries -/

/-- A condition on a position, told from the characters beside it. -/
inductive Boundary
  | textStart
  | textEnd
  | lineStart
  | lineEnd
  /-- A line start where a carriage return may also end a line. -/
  | anyLineStart
  /-- A line end where a carriage return may also end a line. -/
  | anyLineEnd
  /-- A word starts or ends here. -/
  | word
  | notWord
  | wordStart
  | wordEnd
  /-- There is no word character in front. -/
  | wordStartHalf
  /-- There is no word character behind. -/
  | wordEndHalf
  deriving DecidableEq

namespace Boundary

/-- The condition between two characters, either of which may be missing. -/
def holds (b : Boundary) (before after : Option Char) : Bool :=
  let wordBefore := before.any Unicode.isWord
  let wordAfter := after.any Unicode.isWord
  match b with
  | textStart => before.isNone
  | textEnd => after.isNone
  | lineStart => before.isNone || before = some '\n'
  | lineEnd => after.isNone || after = some '\n'
  | anyLineStart =>
    before.isNone || before = some '\n' || (before = some '\r' && after ≠ some '\n')
  | anyLineEnd => after.isNone || after = some '\r' || (after = some '\n' && before ≠ some '\r')
  | word => wordBefore != wordAfter
  | notWord => wordBefore == wordAfter
  | wordStart => !wordBefore && wordAfter
  | wordEnd => wordBefore && !wordAfter
  | wordStartHalf => !wordBefore
  | wordEndHalf => !wordAfter

/-- For each position of a text, whether the condition holds there. -/
def spots (b : Boundary) (before : Option Char) : List Char → List Bool
  | [] => [b.holds before none]
  | c :: cs => b.holds before (some c) :: spots b (some c) cs

end Boundary

/-! ## Patterns -/

inductive Pattern
  /-- Matches the empty text. -/
  | empty
  /-- Matches one character of the set. -/
  | chars (s : CharSet)
  /-- Matches the empty text where the condition holds. -/
  | boundary (b : Boundary)
  | seq (p q : Pattern)
  | alt (p q : Pattern)
  /-- Matches `p` over and over, at least `min` times, and at most `max` times
  if there is a bound. -/
  | times (p : Pattern) (min : Nat) (max : Option Nat)
  deriving DecidableEq

namespace Pattern

/-- How many single steps the pattern spells out to. -/
def weight : Pattern → Nat
  | empty => 0
  | chars s => s.weight + 1
  | boundary _ => 1
  | seq p q => p.weight + q.weight
  | alt p q => p.weight + q.weight + 1
  | times p min none => (p.weight + 1) * (if min = 0 then 1 else min)
  | times p _ (some max) => p.weight * max

end Pattern

/-! ## Sets of positions -/

/-- The number whose binary digits are the given ones, the lowest first. A set
of positions is such a number: position `i` is in it if digit `i` is one. -/
def bits : List Bool → Nat
  | [] => 0
  | b :: bs => b.toNat + 2 * bits bs

/-- Applies a step `n` times. It stops early where a step changes nothing. -/
def stepTimes (step : Nat → Nat) : Nat → Nat → Nat
  | 0, spots => spots
  | n + 1, spots =>
    let next := step spots
    if next = spots then spots else stepTimes step n next

/-- Adds to a set all that up to `n` steps reach. -/
def stepUpTo (step : Nat → Nat) : Nat → Nat → Nat
  | 0, reached => reached
  | n + 1, reached =>
    let more := reached ||| step reached
    if more = reached then reached else stepUpTo step n more

/-! ## Patterns over a text -/

/-- A pattern over a text. Instead of sets of characters and conditions it has
the sets of positions where these are met. -/
inductive Overlay
  | empty
  | chars (spots : Nat)
  | boundary (spots : Nat)
  | seq (p q : Overlay)
  | alt (p q : Overlay)
  /-- Repeats `p` at least `min` times, and then up to `more` times. -/
  | times (p : Overlay) (min more : Nat)
  deriving DecidableEq

/-- Lays a pattern over a text. A repetition that reaches all it can does so in
as many rounds as the text has characters. -/
def Pattern.over (text : List Char) : Pattern → Overlay
  | empty => .empty
  | chars s => .chars (bits (text.map s.contains))
  | boundary b => .boundary (bits (b.spots none text))
  | seq p q => .seq (p.over text) (q.over text)
  | alt p q => .alt (p.over text) (q.over text)
  | times p min none => .times (p.over text) min text.length
  | times p min (some max) => .times (p.over text) min (Nat.min (max - min) text.length)

/-- The positions where a match can end that starts at one of the given ones. -/
def Overlay.advance : Overlay → Nat → Nat
  | empty, starts => starts
  | chars spots, starts => (starts &&& spots) <<< 1
  | boundary spots, starts => starts &&& spots
  | seq p q, starts => q.advance (p.advance starts)
  | alt p q, starts => p.advance starts ||| q.advance starts
  | times p min more, starts => stepUpTo p.advance more (stepTimes p.advance min starts)

/-- The pattern matches some part of the text. -/
def Pattern.matchesIn (p : Pattern) (text : String) : Bool :=
  (p.over text.toList).advance ((1 <<< (text.toList.length + 1)) - 1) ≠ 0

end ImageTiers
