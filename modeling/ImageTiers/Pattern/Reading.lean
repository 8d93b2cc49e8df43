-- From the tokens of a pattern text to the pattern. Flags hold from where
-- they stand to the end of their group, across its bars.
import ImageTiers.Pattern.Token

namespace ImageTiers.Pattern

/-! ## Modes -/

/-- The flags that change what an element matches. -/
structure Mode where
  ignoreCase : Bool
  multiLine : Bool
  dotAll : Bool
  crlf : Bool

namespace Mode

def initial : Mode := ⟨false, false, false, false⟩

def change (m : Mode) (changes : FlagChanges) : Mode where
  ignoreCase := (changes.lookup .ignoreCase).getD m.ignoreCase
  multiLine := (changes.lookup .multiLine).getD m.multiLine
  dotAll := (changes.lookup .dotAll).getD m.dotAll
  crlf := (changes.lookup .crlf).getD m.crlf

/-- What a dot matches: any character, but no line end unless `dotAll` is on. -/
def anySet (m : Mode) : CharSet :=
  if m.dotAll then .all
  else if m.crlf then .complement (.union (.single '\n') (.single '\r'))
  else .complement (.single '\n')

/-- What a caret matches. -/
def start (m : Mode) : Boundary :=
  if !m.multiLine then .textStart else if m.crlf then .anyLineStart else .lineStart

/-- What a dollar sign matches. -/
def stop (m : Mode) : Boundary :=
  if !m.multiLine then .textEnd else if m.crlf then .anyLineEnd else .lineEnd

/-- What an atom matches. -/
def atom (m : Mode) : Atom → Pattern
  | .char c => .chars (if m.ignoreCase then .folding (.single c) else .single c)
  | .set s _ => .chars (if m.ignoreCase then s else s.unfolded)
  | .boundary b => .boundary b

end Mode

/-! ## Pieces -/

/-- A pattern with the depth of its text. Flags make a piece that matches the
empty text and cannot be repeated. -/
structure Piece where
  pattern : Pattern
  depth : Nat
  repeatable : Bool

def Atom.depth : Atom → Nat
  | .set _ depth => depth
  | _ => 0

/-- Pieces one after the other. They are listed backwards. -/
def joinSeq : List Piece → Piece
  | [] => ⟨.empty, 0, false⟩
  | [p] => p
  | p :: ps =>
    ⟨ps.foldl (fun q r => .seq r.pattern q) p.pattern,
      ps.foldl (fun d r => Nat.max d r.depth) p.depth + 1, true⟩

/-- Pieces between bars. They are listed backwards. -/
def joinAlt : List Piece → Piece
  | [] => ⟨.empty, 0, false⟩
  | [p] => p
  | p :: ps =>
    ⟨ps.foldl (fun q r => .alt r.pattern q) p.pattern,
      ps.foldl (fun d r => Nat.max d r.depth) p.depth + 1, true⟩

/-! ## Groups -/

/-- A group that is still open: its mode, the pieces before its last bar, and
those since then. Both are listed backwards. -/
structure Level where
  mode : Mode
  branches : List Piece
  items : List Piece

namespace Level

def push (l : Level) (p : Piece) : Level := { l with items := p :: l.items }

def whole (l : Level) : Piece := joinAlt (joinSeq l.items :: l.branches)

/-- Repeats the last piece, if there is one that can be repeated. -/
def repeatLast (l : Level) (min : Nat) (max : Option Nat) : Option Level :=
  match l.items with
  | p :: ps =>
    if p.repeatable then
      some { l with items := ⟨.times p.pattern min max, p.depth + 1, true⟩ :: ps }
    else none
  | [] => none

end Level

/-- Takes in the tokens one after the other. `outer` are the groups around the
current one, the inner one first. Every group has to end. -/
def assemble (l : Level) (outer : List Level) : List Token → Option Piece
  | [] => if outer.isEmpty then some l.whole else none
  | .atom a :: ts => assemble (l.push ⟨l.mode.atom a, a.depth, true⟩) outer ts
  | .any :: ts => assemble (l.push ⟨.chars l.mode.anySet, 0, true⟩) outer ts
  | .start :: ts => assemble (l.push ⟨.boundary l.mode.start, 0, true⟩) outer ts
  | .stop :: ts => assemble (l.push ⟨.boundary l.mode.stop, 0, true⟩) outer ts
  | .bar :: ts => assemble ⟨l.mode, joinSeq l.items :: l.branches, []⟩ outer ts
  | .times min max :: ts =>
    match l.repeatLast min max with
    | some l => assemble l outer ts
    | none => none
  | .openGroup _ changes :: ts => assemble ⟨l.mode.change changes, [], []⟩ (l :: outer) ts
  | .closeGroup :: ts =>
    match outer with
    | parent :: outer =>
      assemble (parent.push ⟨l.whole.pattern, l.whole.depth + 1, true⟩) outer ts
    | [] => none
  | .setFlags changes :: ts =>
    assemble { (l.push ⟨.empty, 0, false⟩) with mode := l.mode.change changes } outer ts

/-! ## Limits -/

/-- How deep a pattern text may be nested. -/
def depthLimit : Nat := 250

/-- How many single steps a pattern may spell out to. -/
def weightLimit : Nat := 327680

/-- The pattern that a text describes; `none` if it describes none, or one that
is too deep or too large. -/
def ofText? (text : String) : Option Pattern := do
  let piece ← assemble ⟨.initial, [], []⟩ [] (← tokens text)
  if piece.depth ≤ depthLimit ∧ piece.pattern.weight ≤ weightLimit then return piece.pattern
  else none

end ImageTiers.Pattern
