-- The tokens of a pattern text: atoms, repetitions, bars, and groups with
-- their names and flags.
import ImageTiers.Pattern.Bracket

namespace ImageTiers.Pattern

/-! ## Flags -/

/-- A switch that a pattern text can turn on and off. -/
inductive Flag
  | ignoreCase
  | multiLine
  | dotAll
  /-- Swaps the two kinds of repetition, which find the same matches. -/
  | swapGreed
  | crlf
  /-- White space and comments between the elements mean nothing. -/
  | spaced
  /-- Characters are taken as Unicode has them. -/
  | unicode
  deriving DecidableEq

def Flag.ofChar? : Char → Option Flag
  | 'i' => some .ignoreCase
  | 'm' => some .multiLine
  | 's' => some .dotAll
  | 'U' => some .swapGreed
  | 'R' => some .crlf
  | 'x' => some .spaced
  | 'u' => some .unicode
  | _ => none

/-- Flags with their new settings, in the order they are written. -/
abbrev FlagChanges := List (Flag × Bool)

/-- Reads flags up to the colon or bracket that ends them. `negated` holds after
the dash, and `dangling` directly after it. No flag may come twice, and Unicode
cannot be turned off, because a path is Unicode text. -/
def scanFlags (negated dangling : Bool) (changes : FlagChanges) :
    List Char → Option (FlagChanges × Char × List Char)
  | [] => none
  | c :: cs =>
    if c = ':' ∨ c = ')' then
      if dangling then none else some (changes.reverse, c, cs)
    else if c = '-' then
      if negated then none else scanFlags true true changes cs
    else do
      let flag ← Flag.ofChar? c
      if (changes.lookup flag).isSome then none
      if flag = .unicode ∧ negated then none
      scanFlags negated false ((flag, !negated) :: changes) cs

/-! ## Tokens -/

inductive Token
  | atom (a : Atom)
  /-- A dot. -/
  | any
  /-- A caret. -/
  | start
  /-- A dollar sign. -/
  | stop
  | times (min : Nat) (max : Option Nat)
  | bar
  | openGroup (name : Option String) (changes : FlagChanges)
  | closeGroup
  /-- Flags that hold for the rest of the group. -/
  | setFlags (changes : FlagChanges)

/-! ## Repetitions -/

/-- Passes over the question mark that makes a repetition prefer few rounds. It
changes which match is found, but not whether there is one. -/
def skipLazy : List Char → List Char
  | '?' :: cs => cs
  | cs => cs

/-- A count below 2 to the 32, with white space around it. -/
def scanCount (spaced : Bool) (cs : List Char) : Option (Nat × List Char) := do
  let cs := cs.dropWhile Unicode.isSpace
  let isPart := fun c : Char => c.isDigit || (spaced && Unicode.isSpace c)
  let digits := (cs.takeWhile isPart).filter Char.isDigit
  if digits.isEmpty then none
  let n := digits.foldl (fun n c => n * 10 + (c.toNat - '0'.toNat)) 0
  if n < 1 <<< 32 then return (n, skipIf spaced ((cs.dropWhile isPart).dropWhile Unicode.isSpace))
  else none

/-- A repetition in braces, after the opening one. -/
def scanCounts (spaced : Bool) (cs : List Char) : Option (Token × List Char) := do
  let (min, rest) ← scanCount spaced (skipIf spaced cs)
  let (max, rest) ← match rest with
    | ',' :: rest => match skipIf spaced rest with
      | '\x7d' :: rest => some (none, '\x7d' :: rest)
      | rest => do
        let (max, rest) ← scanCount spaced rest
        if min ≤ max then some (some max, rest) else none
    | rest => some (some min, rest)
  match rest with
  | '\x7d' :: rest => return (.times min max, skipLazy (skipIf spaced rest))
  | _ => none

/-! ## Groups -/

/-- A group name starts with a letter or an underscore. -/
def isNameStart (c : Char) : Bool := c = '_' || Unicode.isLetter c

def isNamePart (c : Char) : Bool :=
  c = '_' || c = '.' || c = '[' || c = ']' || Unicode.isAlphanumeric c

/-- A group name up to its closing bracket. -/
def scanName (cs : List Char) : Option (Token × List Char) :=
  let name := cs.takeWhile (· ≠ '>')
  match cs.dropWhile (· ≠ '>') with
  | _ :: rest =>
    if name.head?.any isNameStart && name.all isNamePart then
      some (.openGroup (some (String.ofList name)) [], rest)
    else none
  | [] => none

/-- Reads what follows the opening bracket of a group. There is no looking
ahead or behind. -/
def scanGroup (spaced : Bool) (cs : List Char) : Option (Token × List Char) :=
  match skipIf spaced cs with
  | '?' :: '=' :: _ => none
  | '?' :: '!' :: _ => none
  | '?' :: '<' :: '=' :: _ => none
  | '?' :: '<' :: '!' :: _ => none
  | '?' :: 'P' :: '<' :: cs => scanName cs
  | '?' :: '<' :: cs => scanName cs
  | '?' :: cs => do
    let (changes, last, rest) ← scanFlags false false [] cs
    if last = ':' then return (.openGroup none changes, rest)
    else if changes.isEmpty then none
    else return (.setFlags changes, rest)
  | cs => some (.openGroup none [], cs)

/-! ## Whole texts -/

/-- The token that starts with `c`, and what comes after it. -/
def scanToken (spaced : Bool) (c : Char) (cs : List Char) : Option (Token × List Char) :=
  match c with
  | '(' => scanGroup spaced cs
  | ')' => some (.closeGroup, cs)
  | '|' => some (.bar, cs)
  | '[' => (scanBracket spaced cs).map fun (n, rest) => (.atom (.set n.set n.depth), rest)
  | '?' => some (.times 0 (some 1), skipLazy cs)
  | '*' => some (.times 0 none, skipLazy cs)
  | '+' => some (.times 1 none, skipLazy cs)
  | '\x7b' => scanCounts spaced cs
  | '\\' => (scanEscape spaced cs).map fun (a, rest) => (.atom a, rest)
  | '.' => some (.any, cs)
  | '^' => some (.start, cs)
  | '$' => some (.stop, cs)
  | c => some (.atom (.char c), cs)

/-- What the reading of the rest depends on: whether blanks are passed over, in
the current group and in those around it, and the group names so far. -/
structure Context where
  spaced : Bool
  outer : List Bool
  names : List String

/-- The context after a token. No two groups may have the same name. -/
def Context.after (x : Context) : Token → Option Context
  | .openGroup name changes =>
    if name.any x.names.contains then none
    else
      some ⟨(changes.lookup .spaced).getD x.spaced, x.spaced :: x.outer, name.toList ++ x.names⟩
  | .closeGroup => some ⟨x.outer.headD x.spaced, x.outer.tail, x.names⟩
  | .setFlags changes => some { x with spaced := (changes.lookup .spaced).getD x.spaced }
  | _ => some x

/-- The tokens of a text whose first characters, as many as the number says,
belong to a token that was already read. -/
def tokensAfter (x : Context) : Nat → List Char → Option (List Token)
  | _, [] => some []
  | n + 1, _ :: cs => tokensAfter x n cs
  | 0, c :: cs =>
    if x.spaced && (skipBlanks false (c :: cs)).length ≤ cs.length then
      tokensAfter x (cs.length - (skipBlanks false (c :: cs)).length) cs
    else
      match scanToken x.spaced c cs with
      | none => none
      | some (t, rest) =>
        match x.after t with
        | none => none
        | some y => (tokensAfter y (cs.length - rest.length) cs).map (t :: ·)

/-- The tokens of a pattern text; `none` if it has a part that is no token. -/
def tokens (text : String) : Option (List Token) := tokensAfter ⟨false, [], []⟩ 0 text.toList

end ImageTiers.Pattern
