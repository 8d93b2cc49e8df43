-- Limits of what is read. A value is kept for later if it is complete, its strings are text, its
-- numbers fit a double, and it is nested no deeper than there is room. The law: the check finds
-- just these values.
import Mathlib.Data.List.Nodup
import ImageTiers.Proofs.JsonTexts

namespace ImageTiers.Json.Draft

/-! ## Depth, strings and numbers -/

mutual

/-- How deep arrays and objects are nested in a value. -/
def depth : Draft → Nat
  | array items _ => itemsDepth items + 1
  | object members _ => membersDepth members + 1
  | _ => 0

def itemsDepth : List Draft → Nat
  | [] => 0
  | d :: ds => max d.depth (itemsDepth ds)

def membersDepth : List (Text × Draft) → Nat
  | [] => 0
  | (_, d) :: ms => max d.depth (membersDepth ms)

end

mutual

/-- All strings of a value, its keys among them. -/
def texts : Draft → List Text
  | string s => [s]
  | array items _ => itemsTexts items
  | object members _ => membersTexts members
  | _ => []

def itemsTexts : List Draft → List Text
  | [] => []
  | d :: ds => d.texts ++ itemsTexts ds

def membersTexts : List (Text × Draft) → List Text
  | [] => []
  | (k, d) :: ms => k :: (d.texts ++ membersTexts ms)

end

mutual

/-- All numbers of a value. -/
def numerals : Draft → List Numeral
  | number n => [n]
  | array items _ => itemsNumerals items
  | object members _ => membersNumerals members
  | _ => []

def itemsNumerals : List Draft → List Numeral
  | [] => []
  | d :: ds => d.numerals ++ itemsNumerals ds

def membersNumerals : List (Text × Draft) → List Numeral
  | [] => []
  | (_, d) :: ms => d.numerals ++ membersNumerals ms

end

/-! ## What can be kept -/

/-- The value is complete, no string names half of a surrogate pair, no number overflows, and
arrays and objects are nested at most `room` deep. -/
@[mk_iff readable_iff]
structure Readable (d : Draft) (room : Nat) : Prop where
  complete : d.isComplete = true
  texts : ∀ t ∈ d.texts, t.isSome = true
  numerals : ∀ n ∈ d.numerals, n.isFinite = true
  depth : d.depth ≤ room

mutual

theorem isKeepable_iff : ∀ (d : Draft) (room : Nat), d.isKeepable room = true ↔ d.Readable room
  | null, room => by simp [readable_iff, isKeepable, isComplete, texts, numerals, depth]
  | bool b, room => by simp [readable_iff, isKeepable, isComplete, texts, numerals, depth]
  | number n, room => by simp [readable_iff, isKeepable, isComplete, texts, numerals, depth]
  | string s, room => by simp [readable_iff, isKeepable, isComplete, texts, numerals, depth]
  | broken, room => by simp [readable_iff, isKeepable, isComplete]
  -- Without room an array or object is refused, however little it holds.
  | array items ending, 0 => by simp [readable_iff, isKeepable, depth]
  | array items ending, room + 1 => by
    simp [readable_iff, isKeepable, isComplete, texts, numerals, depth, allKeepable_iff items room,
      and_assoc]
  | object members ending, 0 => by simp [readable_iff, isKeepable, depth]
  | object members ending, room + 1 => by
    simp [readable_iff, isKeepable, isComplete, texts, numerals, depth,
      membersKeepable_iff members room, and_assoc]

theorem allKeepable_iff : ∀ (ds : List Draft) (room : Nat), allKeepable room ds = true ↔
    allComplete ds = true ∧ (∀ t ∈ itemsTexts ds, t.isSome = true) ∧
      (∀ n ∈ itemsNumerals ds, n.isFinite = true) ∧ itemsDepth ds ≤ room
  | [], room => by simp [allKeepable, allComplete, itemsTexts, itemsNumerals, itemsDepth]
  | d :: ds, room => by
    have hd := (isKeepable_iff d room).trans (readable_iff d room)
    have hds := allKeepable_iff ds room
    simp only [allKeepable, allComplete, itemsTexts, itemsNumerals, itemsDepth,
      Bool.and_eq_true, hd, hds, List.forall_mem_append, Nat.max_le]
    tauto

theorem membersKeepable_iff : ∀ (ms : List (Text × Draft)) (room : Nat),
    membersKeepable room ms = true ↔
      membersComplete ms = true ∧ (∀ t ∈ membersTexts ms, t.isSome = true) ∧
        (∀ n ∈ membersNumerals ms, n.isFinite = true) ∧ membersDepth ms ≤ room
  | [], room => by
    simp [membersKeepable, membersComplete, membersTexts, membersNumerals, membersDepth]
  | (k, d) :: ms, room => by
    have hd := (isKeepable_iff d room).trans (readable_iff d room)
    have hms := membersKeepable_iff ms room
    simp only [membersKeepable, membersComplete, membersTexts, membersNumerals, membersDepth,
      Bool.and_eq_true, hd, hms, List.forall_mem_cons, List.forall_mem_append, Nat.max_le]
    tauto

end

theorem isKeepable_strings (ss : List String) {room : Nat} (hroom : 0 < room) :
    (Json.strings ss).draft.isKeepable room = true := by
  obtain ⟨room, rfl⟩ := Nat.exists_eq_add_one.mpr hroom
  have hitems : ∀ ss : List String,
      allKeepable room (itemDrafts (ss.map Json.string)) = true := by
    intro ss
    induction ss with
    | nil => rfl
    | cons s ss ih => simp [itemDrafts, Json.draft, allKeepable, isKeepable, ih]
  simp [Json.strings, Json.draft, isKeepable, hitems]

end ImageTiers.Json.Draft
