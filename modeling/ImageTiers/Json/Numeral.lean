-- Numbers of a JSON text. Nothing here needs their value. What counts is
-- whether they fit a double, because a number that does not is an error
-- wherever its value would have to be kept.

namespace ImageTiers.Json

/-- A number as it is written: digits before and after the point, and the
power of ten after the `e`. -/
structure Numeral where
  negative : Bool
  whole : List Nat
  fraction : List Nat
  exponent : Int
  deriving DecidableEq

/-! ## Rounding -/

/-- A natural number rounded to 53 binary digits, a tie to the even neighbour. -/
def roundToDouble (n : Nat) : Nat :=
  let excess := n.log2 + 1 - 53
  let unit := 1 <<< excess
  let kept := n / unit
  let left := n % unit
  if 2 * left > unit ∨ (2 * left = unit ∧ kept % 2 = 1) then (kept + 1) * unit else kept * unit

/-- The first natural number that rounds to no finite double. -/
def doubleLimit : Nat := (1 <<< 1024) - (1 <<< 970)

/-! ## Size -/

namespace Numeral

/-- Digits are gathered into a significand as long as it fits 64 bits. -/
def fits (significand digit : Nat) : Bool := significand * 10 + digit < 1 <<< 64

/-- The significand of the digits before the point, and how many digits after
the first one that no longer fits it leaves out. -/
def wholePart (digits : List Nat) : Nat × Nat :=
  digits.foldl (fun (s, dropped) d =>
    if dropped = 0 && fits s d then (s * 10 + d, 0) else (s, dropped + 1)) (0, 0)

/-- Adds the digits after the point, up to the first one that no longer fits:
the significand, and the number of digits added. -/
def addFraction : Nat → List Nat → Nat × Nat
  | s, [] => (s, 0)
  | s, d :: ds =>
    if fits s d then
      let (s, added) := addFraction (s * 10 + d) ds
      (s, added + 1)
    else (s, 0)

/-- The number without its sign is about the first part times ten to the power
of the second. -/
def scaled (n : Numeral) : Nat × Int :=
  let (s, dropped) := wholePart n.whole
  let (s, added) := addFraction s n.fraction
  (s, dropped - added + n.exponent)

/-- The number fits a double: its significand and its power of ten, each
rounded, have a product that rounds to a finite one. -/
def isFinite (n : Numeral) : Bool :=
  match n.scaled with
  | (0, _) => true
  | (_, .negSucc _) => true
  | (s, .ofNat e) => e ≤ 308 && roundToDouble s * roundToDouble (Nat.pow 10 e) < doubleLimit

end Numeral

end ImageTiers.Json
