-- Bracketed classes of a pattern text, such as `[a-z_]` or `[^/]`. They may
-- be nested, and combined by `&&`, `--` and `~~`.
import ImageTiers.Pattern.Escape

namespace ImageTiers.Pattern

/-! ## Items and sets -/

/-- A set with the depth of the brackets and combinations in its text. -/
structure Nested where
  set : CharSet
  depth : Nat

/-- The union of the items between two brackets or operators, which are listed
backwards. -/
def unite : List Nested → Nested
  | [] => ⟨.none, 0⟩
  | [item] => item
  | item :: items =>
    ⟨items.foldl (fun s i => .union i.set s) item.set,
      items.foldl (fun d i => Nat.max d i.depth) item.depth + 1⟩

inductive Operator
  | intersection
  | difference
  | symmetricDifference

/-- Combines two sets. Each is folded by itself first. -/
def Operator.apply : Operator → CharSet → CharSet → CharSet
  | intersection, s, t => .intersection (.folding s) (.folding t)
  | difference, s, t => .difference (.folding s) (.folding t)
  | symmetricDifference, s, t => .symmetricDifference (.folding s) (.folding t)

/-- A bracket or an operator that waits for what comes after it. -/
inductive Pending
  | bracket (negated : Bool) (items : List Nested)
  | operator (op : Operator) (left : Nested)

/-- The set up to here: the items since the last operator, combined with what
stands before it. Operators group to the left. -/
def combined (items : List Nested) : List Pending → Nested × List Pending
  | .operator op left :: pending =>
    let right := unite items
    (⟨op.apply left.set right.set, Nat.max left.depth right.depth + 1⟩, pending)
  | pending => (unite items, pending)

/-! ## Parts of a bracket -/

/-- The classes of ASCII characters that have a name. -/
def asciiClasses : List (String × List (Char × Char)) :=
  [("alnum", [('0', '9'), ('A', 'Z'), ('a', 'z')]), ("alpha", [('A', 'Z'), ('a', 'z')]),
    ("ascii", [('\x00', '\x7f')]), ("blank", [('\t', '\t'), (' ', ' ')]),
    ("cntrl", [('\x00', '\x1f'), ('\x7f', '\x7f')]), ("digit", [('0', '9')]),
    ("graph", [('!', '~')]), ("lower", [('a', 'z')]), ("print", [(' ', '~')]),
    ("punct", [('!', '/'), (':', '@'), ('[', '\x60'), ('\x7b', '~')]),
    ("space", [('\t', '\r'), (' ', ' ')]), ("upper", [('A', 'Z')]),
    ("word", [('0', '9'), ('A', 'Z'), ('_', '_'), ('a', 'z')]),
    ("xdigit", [('0', '9'), ('A', 'F'), ('a', 'f')])]

/-- A class such as `[:alpha:]` or `[:^alpha:]`, after its bracket. -/
def scanAsciiClass : List Char → Option (CharSet × List Char)
  | ':' :: cs =>
    let negated := cs.head? = some '^'
    let cs := if negated then cs.drop 1 else cs
    match cs.dropWhile (· ≠ ':') with
    | ':' :: ']' :: rest => do
      let ranges ← asciiClasses.lookup (String.ofList (cs.takeWhile (· ≠ ':')))
      return ((CharSet.ofRanges ranges).negatedIf negated, rest)
    | _ => none
  | _ => none

/-- The start of a bracket: whether it is negated, and the dashes or the
closing bracket that stand for themselves there. -/
def scanOpening (spaced : Bool) (cs : List Char) : Bool × List Nested × List Char :=
  let cs := skipIf spaced cs
  let negated := cs.head? = some '^'
  let cs := if negated then skipIf spaced (cs.drop 1) else cs
  match cs with
  | '-' :: _ =>
    let dashes := cs.takeWhile (· = '-')
    (negated, dashes.map fun c => ⟨.single c, 0⟩, cs.drop dashes.length)
  | ']' :: cs => (negated, [⟨.single ']', 0⟩], cs)
  | _ => (negated, [], cs)

/-- A character or an escape inside a bracket. -/
def scanItem (spaced : Bool) : List Char → Option (Atom × List Char)
  | [] => none
  | '\\' :: cs => scanEscape spaced cs
  | c :: cs => some (.char c, cs)

/-- An item of a bracket: a character, a class, or a range of characters. -/
def scanRange (spaced : Bool) (cs : List Char) : Option (Nested × List Char) := do
  let (first, rest) ← scanItem spaced cs
  let rest := skipIf spaced rest
  let isRange := match rest with
    | '-' :: rest => match skipIf spaced rest with
      | ']' :: _ => false
      | '-' :: _ => false
      | _ => true
    | _ => false
  if isRange then
    let (last, rest) ← scanItem spaced (skipIf spaced (rest.drop 1))
    match first, last with
    | .char a, .char b => if a ≤ b then return (⟨.range a b, 0⟩, rest) else none
    | _, _ => none
  else
    match first with
    | .char c => return (⟨.single c, 0⟩, rest)
    | .set s depth => return (⟨s, depth⟩, rest)
    | .boundary _ => none

/-- The operator that two characters make. -/
def operator? (c : Char) (cs : List Char) : Option Operator :=
  if cs.head? ≠ some c then none
  else match c with
    | '&' => some .intersection
    | '-' => some .difference
    | '~' => some .symmetricDifference
    | _ => none

/-! ## Whole brackets -/

/-- Reads on in a bracket. The first characters, as many as the number says,
were already read. `items` are the items since the last operator, listed
backwards. -/
def bracketAfter (spaced : Bool) (pending : List Pending) (items : List Nested) :
    Nat → List Char → Option (Nested × List Char)
  | _, [] => none
  | n + 1, _ :: cs => bracketAfter spaced pending items n cs
  | 0, c :: cs =>
    if spaced && (skipBlanks false (c :: cs)).length ≤ cs.length then
      bracketAfter spaced pending items (cs.length - (skipBlanks false (c :: cs)).length) cs
    else if c = '[' then
      match scanAsciiClass cs with
      | some (s, rest) =>
        bracketAfter spaced pending (⟨s, 0⟩ :: items) (cs.length - rest.length) cs
      | none =>
        let (negated, first, rest) := scanOpening spaced cs
        bracketAfter spaced (.bracket negated items :: pending) first.reverse
          (cs.length - rest.length) cs
    else if c = ']' then
      match combined items pending with
      | (inside, .bracket negated outer :: pending) =>
        let whole : Nested := ⟨(CharSet.folding inside.set).negatedIf negated, inside.depth + 1⟩
        if pending.isEmpty then some (whole, cs)
        else bracketAfter spaced pending (whole :: outer) 0 cs
      | _ => none
    else
      match operator? c cs with
      | some op =>
        let (left, pending) := combined items pending
        bracketAfter spaced (.operator op left :: pending) [] 1 cs
      | none => do
        let (item, rest) ← scanRange spaced (c :: cs)
        bracketAfter spaced pending (item :: items) (cs.length - rest.length) cs

/-- Reads a class after its opening bracket. -/
def scanBracket (spaced : Bool) (cs : List Char) : Option (Nested × List Char) :=
  let (negated, first, rest) := scanOpening spaced cs
  bracketAfter spaced [.bracket negated []] first.reverse 0 rest

end ImageTiers.Pattern
