-- Patterns for whole paths. Such a pattern is a row of parts between the start and the end of the
-- text: words, gaps, numbers, and words of which one may be left out or chosen. The law of a row:
-- it matches just the texts that can be cut into pieces that fit its parts.
import ImageTiers.Proofs.Matching

namespace ImageTiers

/-! ## Parts -/

/-- A part of a pattern for whole paths. -/
inductive Part
  | word (text : String)
  /-- Any characters of one line. -/
  | gap
  /-- One decimal digit or more. -/
  | number
  /-- A word that may be missing. -/
  | optional (text : String)
  /-- One of some words. -/
  | oneOf (texts : List String)

def OneLine (s : String) : Prop := '\n' ∉ s.toList

/-- Decimal digits of any script, and at least one of them. -/
def IsNumber (s : String) : Prop := s ≠ "" ∧ ∀ c ∈ s.toList, Unicode.isDigit c = true

/-- The pieces of text that a part stands for. -/
def Part.Fits : Part → String → Prop
  | word text, s => s = text
  | gap, s => OneLine s
  | number, s => IsNumber s
  | optional text, s => s = "" ∨ s = text
  | oneOf texts, s => s ∈ texts

/-- The text is made of pieces, one for each part. -/
def MadeOf : List Part → String → Prop
  | [], s => s = ""
  | part :: parts, s => ∃ piece rest, s = piece ++ rest ∧ part.Fits piece ∧ MadeOf parts rest

theorem MadeOf.cons {part : Part} {parts : List Part} {piece rest : String}
    (hpiece : part.Fits piece) (hrest : MadeOf parts rest) :
    MadeOf (part :: parts) (piece ++ rest) :=
  ⟨piece, rest, rfl, hpiece, hrest⟩

namespace Pattern

/-- Patterns one after the other. -/
def inOrder : List Pattern → Pattern
  | [] => .empty
  | [p] => p
  | p :: ps => .seq p (inOrder ps)

/-- Any of some patterns. -/
def anyOf : List Pattern → Pattern
  | [] => .chars .none
  | [p] => p
  | p :: ps => .alt p (anyOf ps)

def ofWord (text : String) : List Pattern := text.toList.map fun c => .chars (.single c)

end Pattern

open Pattern (inOrder anyOf ofWord)

def Part.patterns : Part → List Pattern
  | word text => ofWord text
  | gap => [.times (.chars (.complement (.single '\n'))) 0 none]
  | number => [.times (.chars .digit) 1 none]
  | optional text => [.times (inOrder (ofWord text)) 0 (some 1)]
  | oneOf texts => [anyOf (texts.map fun text => inOrder (ofWord text))]

/-- The pattern for the whole texts that are made of the parts. -/
def Pattern.whole (parts : List Part) : Pattern :=
  inOrder (.boundary .textStart :: (parts.flatMap Part.patterns ++ [.boundary .textEnd]))

/-! ## What they match -/

theorem CharSet.contains_single {c d : Char} : (single c).contains d = true ↔ d = c := by
  simp only [single, contains, Bool.and_eq_true, decide_eq_true_eq]
  exact ⟨fun h => Char.le_antisymm h.2 h.1, fun h => h ▸ ⟨Char.le_refl d, Char.le_refl d⟩⟩

theorem CharSet.contains_notSingle {c d : Char} :
    (complement (single c)).contains d = true ↔ d ≠ c := by
  rw [contains, Bool.not_eq_true', ← Bool.not_eq_true, contains_single]

namespace Pattern

variable {before middle after : List Char}

theorem matches_inOrder_cons {p : Pattern} {ps : List Pattern} :
    (inOrder (p :: ps)).Matches before middle after ↔ ∃ first second, middle = first ++ second ∧
      p.Matches before first (second ++ after) ∧
        (inOrder ps).Matches (before ++ first) second after := by
  cases ps with
  | nil => simp [inOrder, Matches]
  | cons q ps => rfl

theorem matches_anyOf {ps : List Pattern} :
    (anyOf ps).Matches before middle after ↔ ∃ p ∈ ps, p.Matches before middle after := by
  induction ps with
  | nil => simp [anyOf, Matches, CharSet.contains]
  | cons p ps ih =>
    cases ps with
    | nil => simp [anyOf]
    | cons q ps =>
      rw [show (anyOf (p :: q :: ps)).Matches before middle after ↔ _ ∨ _ from Iff.rfl, ih]
      simp

theorem matches_ofWord_append {text : String} {ps : List Pattern} :
    (inOrder (ofWord text ++ ps)).Matches before middle after ↔ ∃ rest,
      middle = text.toList ++ rest ∧ (inOrder ps).Matches (before ++ text.toList) rest after := by
  rw [ofWord]
  induction text.toList generalizing before middle with
  | nil => simp
  | cons c cs ih =>
    rw [List.map_cons, List.cons_append, matches_inOrder_cons]
    simp only [ih, matches_chars, CharSet.contains_single]
    constructor
    · rintro ⟨_, _, rfl, ⟨_, rfl, rfl⟩, rest, rfl, hrest⟩
      exact ⟨rest, rfl, by simpa using hrest⟩
    · rintro ⟨rest, rfl, hrest⟩
      exact ⟨[c], cs ++ rest, rfl, ⟨c, rfl, rfl⟩, rest, rfl, by simpa using hrest⟩

theorem matches_ofWord {text : String} :
    (inOrder (ofWord text)).Matches before middle after ↔ middle = text.toList := by
  rw [← List.append_nil (ofWord text), matches_ofWord_append]
  simp [inOrder, Matches]

theorem rounds_chars {s : CharSet} (n : Nat) :
    Rounds (chars s).Matches n before middle after ↔
      middle.length = n ∧ ∀ c ∈ middle, s.contains c = true := by
  induction n generalizing before middle with
  | zero =>
    rw [Rounds, List.length_eq_zero_iff]
    exact ⟨fun h => ⟨h, by simp [h]⟩, And.left⟩
  | succ n ih =>
    simp only [Rounds, ih, matches_chars]
    constructor
    · rintro ⟨_, rest, rfl, ⟨c, rfl, hc⟩, rfl, hrest⟩
      refine ⟨by simp, ?_⟩
      simpa using ⟨hc, hrest⟩
    · rintro ⟨hlength, hall⟩
      obtain ⟨c, rest, rfl⟩ := List.exists_cons_of_length_eq_add_one hlength
      rw [List.forall_mem_cons] at hall
      exact ⟨[c], rest, rfl, ⟨c, rfl, hall.1⟩, by simpa using hlength, hall.2⟩

theorem matches_times_chars {s : CharSet} {min : Nat} :
    (times (chars s) min none).Matches before middle after ↔
      min ≤ middle.length ∧ ∀ c ∈ middle, s.contains c = true := by
  simp only [matches_times, rounds_chars]
  constructor
  · rintro ⟨more, _, hlength, hall⟩
    exact ⟨by omega, hall⟩
  · rintro ⟨hmin, hall⟩
    exact ⟨middle.length - min, nofun, by omega, hall⟩

theorem matches_optional {p : Pattern} :
    (times p 0 (some 1)).Matches before middle after ↔
      middle = [] ∨ p.Matches before middle after := by
  simp only [matches_times, Option.mem_def, Option.some.injEq, forall_eq', Nat.sub_zero,
    Nat.zero_add]
  constructor
  · rintro ⟨more, hmore, hrounds⟩
    cases more with
    | zero => exact .inl hrounds
    | succ more =>
      obtain rfl : more = 0 := by omega
      obtain ⟨piece, _, rfl, hpiece, rfl⟩ := hrounds
      right
      simpa using hpiece
  · rintro (rfl | hmatch)
    · exact ⟨0, Nat.zero_le 1, rfl⟩
    · exact ⟨1, Nat.le_refl 1, middle, [], by simp, by simpa using hmatch, rfl⟩

/-- What a part matches are the pieces that fit it, whatever stands around them. -/
theorem matches_part_append {part : Part} {ps : List Pattern} :
    (inOrder (part.patterns ++ ps)).Matches before middle after ↔
      ∃ (piece : String) (rest : List Char), middle = piece.toList ++ rest ∧ part.Fits piece ∧
        (inOrder ps).Matches (before ++ piece.toList) rest after := by
  have hlone : ∀ {p : Pattern}, (∀ before middle after, p.Matches before middle after ↔
      part.Fits (String.ofList middle)) → ((inOrder (p :: ps)).Matches before middle after ↔
        ∃ (piece : String) (rest : List Char), middle = piece.toList ++ rest ∧ part.Fits piece ∧
          (inOrder ps).Matches (before ++ piece.toList) rest after) := by
    intro p hp
    rw [matches_inOrder_cons]
    simp only [hp]
    constructor
    · rintro ⟨piece, rest, rfl, hpiece, hrest⟩
      exact ⟨String.ofList piece, rest, by simp, hpiece, by simpa using hrest⟩
    · rintro ⟨piece, rest, rfl, hpiece, hrest⟩
      exact ⟨piece.toList, rest, rfl, by simpa using hpiece, hrest⟩
  cases part with
  | word text =>
    rw [Part.patterns, matches_ofWord_append]
    constructor
    · rintro ⟨rest, rfl, hrest⟩
      exact ⟨text, rest, rfl, rfl, hrest⟩
    · rintro ⟨_, rest, rfl, rfl, hrest⟩
      exact ⟨rest, rfl, hrest⟩
  | gap =>
    refine hlone fun before middle after => ?_
    rw [matches_times_chars]
    simp only [Nat.zero_le, true_and, Part.Fits, OneLine, String.toList_ofList,
      CharSet.contains_notSingle]
    exact ⟨fun h hmem => h _ hmem rfl, fun h c hc heq => h (heq ▸ hc)⟩
  | number =>
    refine hlone fun before middle after => ?_
    rw [matches_times_chars]
    simp only [Part.Fits, IsNumber, String.toList_ofList, CharSet.contains, ne_eq,
      String.ofList_eq_empty_iff, Nat.succ_le_iff, List.length_pos_iff]
  | optional text =>
    refine hlone fun before middle after => ?_
    rw [matches_optional, matches_ofWord, Part.Fits, String.ofList_eq_empty_iff,
      ← String.toList_inj, String.toList_ofList]
  | oneOf texts =>
    refine hlone fun before middle after => ?_
    rw [matches_anyOf, Part.Fits]
    constructor
    · rintro ⟨p, hp, hmatch⟩
      obtain ⟨text, htext, rfl⟩ := List.mem_map.mp hp
      rwa [matches_ofWord.mp hmatch, String.ofList_toList]
    · intro h
      exact ⟨_, List.mem_map_of_mem h, matches_ofWord.mpr (by rw [String.toList_ofList])⟩

theorem matches_parts_append {parts : List Part} {ps : List Pattern} :
    (inOrder (parts.flatMap Part.patterns ++ ps)).Matches before middle after ↔
      ∃ (s : String) (rest : List Char), middle = s.toList ++ rest ∧ MadeOf parts s ∧
        (inOrder ps).Matches (before ++ s.toList) rest after := by
  induction parts generalizing before middle with
  | nil =>
    constructor
    · intro h
      exact ⟨"", middle, rfl, rfl, by simpa using h⟩
    · rintro ⟨_, rest, rfl, rfl, h⟩
      simpa using h
  | cons part parts ih =>
    rw [List.flatMap_cons, List.append_assoc, matches_part_append]
    simp only [ih, MadeOf]
    constructor
    · rintro ⟨piece, _, rfl, hpiece, s, rest, rfl, hs, hrest⟩
      exact ⟨piece ++ s, rest, by simp, ⟨piece, s, rfl, hpiece, hs⟩, by simpa using hrest⟩
    · rintro ⟨_, rest, rfl, ⟨piece, s, rfl, hpiece, hs⟩, hrest⟩
      exact ⟨piece, s.toList ++ rest, by simp, hpiece, s, rest, rfl, hs, by simpa using hrest⟩

theorem matches_textStart :
    (boundary .textStart).Matches before middle after ↔ middle = [] ∧ before = [] := by
  cases before <;> simp [Matches, Boundary.holds]

theorem matches_textEnd :
    (boundary .textEnd).Matches before middle after ↔ middle = [] ∧ after = [] := by
  cases after <;> simp [Matches, Boundary.holds]

/-- A pattern for whole texts finds something just in the texts that are made of its parts. -/
theorem matchesIn_whole (parts : List Part) (text : String) :
    (whole parts).matchesIn text = true ↔ MadeOf parts text := by
  rw [matchesIn_iff, whole]
  simp only [matches_inOrder_cons, matches_parts_append, matches_textStart, matches_textEnd]
  constructor
  · rintro ⟨_, _, _, htext, _, _, rfl, ⟨rfl, rfl⟩, s, _, rfl, hs, _, rest, rfl, ⟨rfl, hend⟩, rfl⟩
    obtain rfl := (List.append_eq_nil_iff.mp hend).2
    obtain rfl : text = s := by
      rw [← String.toList_inj, htext]
      simp
    exact hs
  · intro h
    exact ⟨[], text.toList, [], by simp, [], text.toList, rfl, ⟨rfl, rfl⟩, text, [], by simp, h,
      [], [], rfl, ⟨rfl, rfl⟩, rfl⟩

end Pattern

end ImageTiers
