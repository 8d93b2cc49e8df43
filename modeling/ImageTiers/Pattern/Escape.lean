-- The single elements of a pattern text that stand for a character, for a
-- class of characters or for a boundary, and the escapes that name them.
import ImageTiers.Hex
import ImageTiers.Pattern.Basic

namespace ImageTiers.Pattern

/-- An element of a pattern text. -/
inductive Atom
  | char (c : Char)
  /-- A set of characters; its text nests brackets `depth` deep. -/
  | set (s : CharSet) (depth : Nat)
  | boundary (b : Boundary)

/-! ## Blanks -/

/-- Passes over white space, and over comments, which run from `#` to the end
of the line. -/
def skipBlanks (inComment : Bool) : List Char → List Char
  | [] => []
  | c :: cs =>
    if inComment then skipBlanks (c ≠ '\n') cs
    else if Unicode.isSpace c then skipBlanks false cs
    else if c = '#' then skipBlanks true cs
    else c :: cs

/-- Passes over blanks where these may stand between the elements. -/
def skipIf (spaced : Bool) (cs : List Char) : List Char :=
  if spaced then skipBlanks false cs else cs

/-- The characters before the first `stop`, without white space if this may
stand between them, and what comes after `stop`. -/
def takeUntil (spaced : Bool) (stop : Char) (cs : List Char) : Option (List Char × List Char) :=
  match cs.dropWhile (· ≠ stop) with
  | [] => none
  | _ :: rest =>
    let inside := cs.takeWhile (· ≠ stop)
    some (if spaced then inside.filter (!Unicode.isSpace ·) else inside, rest)

/-! ## Characters by number -/

/-- The first `n` characters that are not blanks. -/
def takeSome (spaced : Bool) : Nat → List Char → Option (List Char × List Char)
  | 0, cs => some ([], cs)
  | n + 1, cs => do
    let c :: cs := skipIf spaced cs | none
    let (taken, rest) ← takeSome spaced n cs
    return (c :: taken, rest)

/-- A character by its number: `digits` hexadecimal digits, or any number of
them in braces. -/
def scanNumbered (spaced : Bool) (digits : Nat) (cs : List Char) : Option (Char × List Char) := do
  let cs := skipIf spaced cs
  let (taken, rest) ← if cs.head? = some '\x7b' then takeUntil spaced '\x7d' (cs.drop 1)
    else takeSome spaced digits cs
  if taken.isEmpty then none
  let n ← hexNumber? taken
  if n.isValidChar then return (Char.ofNat n, skipIf spaced rest) else none

/-! ## Word boundaries -/

/-- The word boundaries that have a name. -/
def namedBoundaries : List (String × Boundary) :=
  [("start", .wordStart), ("end", .wordEnd), ("start-half", .wordStartHalf),
    ("end-half", .wordEndHalf)]

/-- A character of the name of a word boundary. -/
def isNameChar (c : Char) : Bool := c.isAlpha || c = '-'

/-- The rest of a word boundary after its letter. A name in braces may follow;
other braces belong to a repetition. -/
def scanWordBoundary (spaced : Bool) (cs : List Char) : Option (Boundary × List Char) :=
  match cs with
  | '\x7b' :: inside =>
    match skipIf spaced inside with
    | [] => none
    | c :: _ =>
      if isNameChar c then do
        let (name, rest) ← takeUntil spaced '\x7d' inside
        let b ← namedBoundaries.lookup (String.ofList name)
        return (b, rest)
      else some (.word, cs)
  | _ => some (.word, cs)

/-! ## Escapes -/

/-- The characters that have a letter as escape. -/
def letterEscapes : List (Char × Char) :=
  [('a', '\x07'), ('f', '\x0c'), ('t', '\t'), ('n', '\n'), ('r', '\r'), ('v', '\x0b')]

/-- Classes and boundaries that have a letter as escape. -/
def namedEscapes : List (Char × Atom) :=
  [('d', .set .digit 0), ('D', .set (.complement .digit) 0),
    ('s', .set .space 0), ('S', .set (.complement .space) 0),
    ('w', .set .word 0), ('W', .set (.complement .word) 0),
    ('A', .boundary .textStart), ('z', .boundary .textEnd), ('B', .boundary .notWord),
    ('<', .boundary .wordStart), ('>', .boundary .wordEnd)]

/-- Reads what follows a backslash. Letters and digits without a meaning are
refused, and so is every character that is not ASCII. -/
def scanEscape (spaced : Bool) : List Char → Option (Atom × List Char)
  | [] => none
  | 'x' :: cs => (scanNumbered spaced 2 cs).map fun (c, rest) => (.char c, rest)
  | 'u' :: cs => (scanNumbered spaced 4 cs).map fun (c, rest) => (.char c, rest)
  | 'U' :: cs => (scanNumbered spaced 8 cs).map fun (c, rest) => (.char c, rest)
  | 'b' :: cs => (scanWordBoundary spaced cs).map fun (b, rest) => (.boundary b, rest)
  | c :: cs =>
    match namedEscapes.lookup c, letterEscapes.lookup c with
    | some a, _ => some (a, cs)
    | none, some d => some (.char d, cs)
    | none, none => if c.toNat < 128 && !c.isAlphanum then some (.char c, cs) else none

end ImageTiers.Pattern
