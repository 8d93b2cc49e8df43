-- The tokens of a JSON text: brackets, commas, colons, words, numbers and
-- strings.
import ImageTiers.Hex
import ImageTiers.Json.Numeral

namespace ImageTiers.Json

/-- The text of a string. It is `none` if the string names half of a surrogate
pair, which is no character: such a string can be passed over but not kept. -/
abbrev Text := Option String

inductive Token
  | openArray
  | closeArray
  | openObject
  | closeObject
  | comma
  | colon
  | null
  | bool (b : Bool)
  | number (n : Numeral)
  | string (s : Text)
  deriving DecidableEq

/-! ## Characters -/

/-- The four characters that may stand between tokens. -/
def isBlank (c : Char) : Bool := c = ' ' || c = '\t' || c = '\n' || c = '\r'

def digitValue (c : Char) : Nat := c.toNat - '0'.toNat

/-! ## Strings -/

/-- What one place of a string names: a character, or by `\u` a 16-bit unit. -/
inductive Unit16
  | char (c : Char)
  | unit (n : Nat)

/-- The character after a backslash, and what it stands for. -/
def escaped? : Char → Option Char
  | '\"' => some '\"'
  | '\\' => some '\\'
  | '/' => some '/'
  | 'b' => some '\x08'
  | 'f' => some '\x0c'
  | 'n' => some '\n'
  | 'r' => some '\r'
  | 't' => some '\t'
  | _ => none

/-- Reads a string after its opening quote, up to its closing one: what it
names, and the number of characters it takes up. Control characters and
unknown escapes end the reading. What was read before is listed backwards. -/
def scanString (before : List Unit16) (used : Nat) : List Char → Option (List Unit16 × Nat)
  | '\"' :: _ => some (before.reverse, used + 1)
  | '\\' :: 'u' :: a :: b :: c :: d :: cs =>
    match hexNumber? [a, b, c, d] with
    | some n => scanString (.unit n :: before) (used + 6) cs
    | none => none
  | '\\' :: e :: cs =>
    match escaped? e with
    | some c => scanString (.char c :: before) (used + 2) cs
    | none => none
  | c :: cs => if c < ' ' then none else scanString (.char c :: before) (used + 1) cs
  | [] => none

/-- Joins the two halves of each surrogate pair; `none` if a half stands alone.
What was joined before is listed backwards. -/
def joinHalves (before : List Char) : List Unit16 → Option (List Char)
  | [] => some before.reverse
  | .char c :: us => joinHalves (c :: before) us
  | .unit n :: us =>
    if n < 0xD800 ∨ 0xDFFF < n then joinHalves (Char.ofNat n :: before) us
    else match us with
      | .unit m :: us =>
        if n < 0xDC00 ∧ 0xDC00 ≤ m ∧ m ≤ 0xDFFF then
          joinHalves (Char.ofNat (0x10000 + (n - 0xD800) * 0x400 + (m - 0xDC00)) :: before) us
        else none
      | _ => none

/-! ## Numbers -/

/-- The power of ten that may follow the digits of a number, and its length.
There may be none, but a started one has to have digits. -/
def scanExponent : List Char → Option (Int × Nat)
  | e :: cs =>
    if e = 'e' ∨ e = 'E' then
      let (sign, signLength) : Int × Nat := match cs with
        | '+' :: _ => (1, 1)
        | '-' :: _ => (-1, 1)
        | _ => (1, 0)
      let digits := (cs.drop signLength).takeWhile Char.isDigit
      if digits.isEmpty then none
      else
        let value := digits.foldl (fun v d => v * 10 + digitValue d) 0
        some (sign * value, 1 + signLength + digits.length)
    else some (0, 0)
  | [] => some (0, 0)

/-- The digits that may follow a decimal point, and their length with the point. -/
def scanFraction : List Char → Option (List Nat × Nat)
  | '.' :: cs =>
    let digits := cs.takeWhile Char.isDigit
    if digits.isEmpty then none else some (digits.map digitValue, 1 + digits.length)
  | _ => some ([], 0)

/-- Reads a number: its digits, and the number of characters it takes up. A
zero in front stands alone. -/
def scanNumber (cs : List Char) : Option (Numeral × Nat) := do
  let negative := cs.head? = some '-'
  let signLength := if negative then 1 else 0
  let body := cs.drop signLength
  let whole := if body.head? = some '0' then ['0'] else body.takeWhile Char.isDigit
  if whole.isEmpty then failure
  let (fraction, fractionLength) ← scanFraction (body.drop whole.length)
  let (exponent, exponentLength) ← scanExponent (body.drop (whole.length + fractionLength))
  return (⟨negative, whole.map digitValue, fraction, exponent⟩,
    signLength + whole.length + fractionLength + exponentLength)

/-! ## Tokens -/

/-- The token that starts with `c`, and how many of the characters after `c`
belong to it. -/
def scanToken (c : Char) (cs : List Char) : Option (Token × Nat) :=
  match c, cs with
  | '[', _ => some (.openArray, 0)
  | ']', _ => some (.closeArray, 0)
  | '\x7b', _ => some (.openObject, 0)
  | '\x7d', _ => some (.closeObject, 0)
  | ',', _ => some (.comma, 0)
  | ':', _ => some (.colon, 0)
  | 'n', 'u' :: 'l' :: 'l' :: _ => some (.null, 3)
  | 't', 'r' :: 'u' :: 'e' :: _ => some (.bool true, 3)
  | 'f', 'a' :: 'l' :: 's' :: 'e' :: _ => some (.bool false, 4)
  | '\"', cs => (scanString [] 0 cs).map fun (us, used) =>
      (.string ((joinHalves [] us).map String.ofList), used)
  | c, cs => (scanNumber (c :: cs)).map fun (n, used) => (.number n, used - 1)

end ImageTiers.Json
