-- What patterns match. A match is a part of a text, and whether it is one depends on what stands
-- before it and behind it as well. The search keeps sets of positions; the law: it finds
-- something just if the text can be cut into what stands before a match, the match, and what
-- stands behind it.
import ImageTiers.Pattern.Basic

namespace ImageTiers

/-! ## Matches -/

/-- The text `middle` is made of `n` pieces side by side. `One before piece after` says that
`piece` is one where it stands between `before` and `after`. -/
def Rounds (One : List Char → List Char → List Char → Prop) :
    Nat → List Char → List Char → List Char → Prop
  | 0, _, middle, _ => middle = []
  | n + 1, before, middle, after =>
    ∃ piece rest, middle = piece ++ rest ∧ One before piece (rest ++ after) ∧
      Rounds One n (before ++ piece) rest after

/-- The pattern matches `middle` where it stands between `before` and `after`. A repetition has
its least number of rounds, and then as many more as its bound lets it have. -/
def Pattern.Matches : Pattern → (before middle after : List Char) → Prop
  | empty, _, middle, _ => middle = []
  | chars s, _, middle, _ => ∃ c, middle = [c] ∧ s.contains c = true
  | boundary b, before, middle, after =>
    middle = [] ∧ b.holds before.getLast? after.head? = true
  | seq p q, before, middle, after =>
    ∃ first second, middle = first ++ second ∧ p.Matches before first (second ++ after) ∧
      q.Matches (before ++ first) second after
  | alt p q, before, middle, after => p.Matches before middle after ∨ q.Matches before middle after
  | times p min max, before, middle, after =>
    ∃ more, (∀ top ∈ max, more ≤ top - min) ∧ Rounds p.Matches (min + more) before middle after

namespace Pattern

variable {before middle after : List Char}

theorem matches_chars {s : CharSet} :
    (chars s).Matches before middle after ↔ ∃ c, middle = [c] ∧ s.contains c = true :=
  Iff.rfl

theorem matches_times {p : Pattern} {min : Nat} {max : Option Nat} :
    (times p min max).Matches before middle after ↔
      ∃ more, (∀ top ∈ max, more ≤ top - min) ∧ Rounds p.Matches (min + more) before middle after :=
  Iff.rfl

end Pattern

/-! ## Positions -/

/-- The part of a text from position `i` to position `j` stands in the relation `M` to what is
before it and behind it. -/
def Between (M : List Char → List Char → List Char → Prop) (text : List Char) (i j : Nat) : Prop :=
  ∃ before middle after, text = before ++ middle ++ after ∧ before.length = i ∧
    (before ++ middle).length = j ∧ M before middle after

/-- A way of `n` steps from one position to another. -/
def Way (R : Nat → Nat → Prop) : Nat → Nat → Nat → Prop
  | 0, i, j => i = j
  | n + 1, i, j => ∃ k, R i k ∧ Way R n k j

section

variable {M N : List Char → List Char → List Char → Prop} {text : List Char} {i j : Nat}

theorem Between.bounds (h : Between M text i j) : i ≤ j ∧ j ≤ text.length := by
  obtain ⟨before, middle, after, rfl, rfl, rfl, _⟩ := h
  simp only [List.length_append]
  omega

theorem between_empty :
    Between (fun _ middle _ => middle = []) text i j ↔ i ≤ text.length ∧ i = j := by
  constructor
  · rintro ⟨before, _, after, rfl, rfl, rfl, rfl⟩
    simp
  · rintro ⟨hi, rfl⟩
    exact ⟨text.take i, [], text.drop i, by simp, by simp [hi], by simp [hi], rfl⟩

/-- Two parts side by side meet at a position. -/
theorem between_append :
    Between (fun before middle after => ∃ first second, middle = first ++ second ∧
      M before first (second ++ after) ∧ N (before ++ first) second after) text i j ↔
        ∃ k, Between M text i k ∧ Between N text k j := by
  constructor
  · rintro ⟨before, _, after, rfl, rfl, rfl, first, second, rfl, hfirst, hsecond⟩
    refine ⟨(before ++ first).length, ⟨before, first, second ++ after, by simp, rfl, rfl, hfirst⟩,
      before ++ first, second, after, by simp, rfl, by simp, hsecond⟩
  · rintro ⟨k, ⟨before, first, behind, htext, rfl, rfl, hfirst⟩,
      before', second, after, htext', hlength, rfl, hsecond⟩
    have happend : before ++ first ++ behind = before' ++ (second ++ after) := by
      rw [← htext, htext', List.append_assoc]
    obtain ⟨rfl, rfl⟩ := List.append_inj happend hlength.symm
    exact ⟨before, first ++ second, after, by simp [htext], rfl, by simp, first, second, rfl,
      hfirst, hsecond⟩

theorem between_rounds (n : Nat) :
    Between (Rounds M n) text i j ↔ i ≤ text.length ∧ Way (Between M text) n i j := by
  induction n generalizing i with
  | zero => exact between_empty
  | succ n ih =>
    rw [show Between (Rounds M (n + 1)) text i j ↔ _ from between_append]
    simp only [ih]
    constructor
    · rintro ⟨k, hfirst, _, hway⟩
      exact ⟨Nat.le_trans hfirst.bounds.1 hfirst.bounds.2, k, hfirst, hway⟩
    · rintro ⟨_, k, hfirst, hway⟩
      exact ⟨k, hfirst, hfirst.bounds.2, hway⟩

end

section

variable {R : Nat → Nat → Prop} {i j k m n len : Nat}

theorem way_add : Way R (m + n) i j ↔ ∃ k, Way R m i k ∧ Way R n k j := by
  induction m generalizing i with
  | zero => simp [Way]
  | succ m ih =>
    rw [Nat.add_right_comm]
    simp only [Way, ih]
    constructor
    · rintro ⟨x, hx, k, hm, hn⟩
      exact ⟨k, ⟨x, hx, hm⟩, hn⟩
    · rintro ⟨k, ⟨x, hx, hm⟩, hn⟩
      exact ⟨x, hx, k, hm, hn⟩

/-- Steps that stay where they are can be left out, so a way needs no more steps than the
positions that it goes on. -/
theorem Way.shorten (hR : ∀ i j, R i j → i ≤ j) (h : Way R n i j) :
    i ≤ j ∧ ∃ m ≤ n, m ≤ j - i ∧ Way R m i j := by
  induction n generalizing i with
  | zero =>
    obtain rfl : i = j := h
    exact ⟨Nat.le_refl i, 0, Nat.le_refl 0, Nat.zero_le _, rfl⟩
  | succ n ih =>
    obtain ⟨k, hstep, hway⟩ := h
    have hik := hR i k hstep
    obtain ⟨hkj, m, hmn, hmj, hshort⟩ := ih hway
    refine ⟨Nat.le_trans hik hkj, ?_⟩
    rcases Nat.eq_or_lt_of_le hik with rfl | hlt
    · exact ⟨m, by omega, hmj, hshort⟩
    · exact ⟨m + 1, by omega, by omega, k, hstep, hshort⟩

end

/-! ## Sets of positions -/

theorem testBit_bits (bs : List Bool) (i : Nat) : (bits bs).testBit i = bs.getD i false := by
  induction bs generalizing i with
  | nil => simp [bits]
  | cons b bs ih =>
    cases i with
    | zero => cases b <;> simp [bits, Nat.testBit_zero]
    | succ i =>
      have hhalf : (b.toNat + 2 * bits bs) / 2 = bits bs := by
        have := b.toNat_le
        omega
      rw [bits, Nat.testBit_succ, hhalf, ih, List.getD_cons_succ]

/-- All positions of the set lie in a text of this length. -/
def Within (length starts : Nat) : Prop := ∀ i, starts.testBit i = true → i ≤ length

/-- The step takes each set of positions to those that `R` leads to from it. -/
structure Advances (length : Nat) (step : Nat → Nat) (R : Nat → Nat → Prop) : Prop where
  testBit_iff : ∀ starts, Within length starts →
    ∀ j, (step starts).testBit j = true ↔ ∃ i, starts.testBit i = true ∧ R i j
  bounds : ∀ i j, R i j → i ≤ j ∧ j ≤ length

namespace Advances

variable {length starts : Nat} {step next : Nat → Nat} {R S : Nat → Nat → Prop}

theorem within (h : Advances length step R) (hstarts : Within length starts) :
    Within length (step starts) := by
  intro j hj
  obtain ⟨i, _, hstep⟩ := (h.testBit_iff starts hstarts j).mp hj
  exact (h.bounds i j hstep).2

theorem stepTimes_of_fixed (hfixed : step starts = starts) (n : Nat) :
    stepTimes step n starts = starts := by
  cases n with
  | zero => rfl
  | succ n => rw [stepTimes, if_pos hfixed]

/-- To stop early makes no difference. -/
theorem stepTimes_succ (n : Nat) :
    stepTimes step (n + 1) starts = stepTimes step n (step starts) := by
  rw [stepTimes]
  split
  · rename_i hfixed
    rw [hfixed, stepTimes_of_fixed hfixed]
  · rfl

theorem within_stepTimes (h : Advances length step R) (n : Nat)
    (hstarts : Within length starts) : Within length (stepTimes step n starts) := by
  induction n generalizing starts with
  | zero => exact hstarts
  | succ n ih =>
    rw [stepTimes_succ]
    exact ih (h.within hstarts)

theorem testBit_stepTimes (h : Advances length step R) (n : Nat)
    (hstarts : Within length starts) (j : Nat) :
    (stepTimes step n starts).testBit j = true ↔ ∃ i, starts.testBit i = true ∧ Way R n i j := by
  induction n generalizing starts with
  | zero => simp [stepTimes, Way]
  | succ n ih =>
    rw [stepTimes_succ, ih (h.within hstarts)]
    simp only [h.testBit_iff starts hstarts, Way]
    constructor
    · rintro ⟨k, ⟨i, hi, hstep⟩, hway⟩
      exact ⟨i, hi, k, hstep, hway⟩
    · rintro ⟨i, hi, k, hstep, hway⟩
      exact ⟨k, ⟨i, hi, hstep⟩, hway⟩

theorem testBit_stepUpTo (h : Advances length step R) (n : Nat)
    (hstarts : Within length starts) (j : Nat) :
    (stepUpTo step n starts).testBit j = true ↔
      ∃ i, starts.testBit i = true ∧ ∃ m ≤ n, Way R m i j := by
  induction n generalizing starts with
  | zero => simp [stepUpTo, Way]
  | succ n ih =>
    have hmore : ∀ k, (starts ||| step starts).testBit k = true ↔
        starts.testBit k = true ∨ ∃ i, starts.testBit i = true ∧ R i k := by
      intro k
      rw [Nat.testBit_or, Bool.or_eq_true, h.testBit_iff starts hstarts]
    rw [stepUpTo]
    split
    · rename_i hfixed
      constructor
      · intro hj
        exact ⟨j, hj, 0, Nat.zero_le _, rfl⟩
      · -- Nothing new is reached by one step, and so by none of the ways.
        rintro ⟨i, hi, m, _, hway⟩
        clear ih
        induction m generalizing i with
        | zero =>
          obtain rfl : i = j := hway
          exact hi
        | succ m ih =>
          obtain ⟨k, hstep, hway⟩ := hway
          refine ih k ?_ (by omega) hway
          rw [← hfixed, hmore]
          exact .inr ⟨i, hi, hstep⟩
    · have hwithin : Within length (starts ||| step starts) := by
        intro k hk
        rcases (hmore k).mp hk with hk | ⟨i, _, hstep⟩
        · exact hstarts k hk
        · exact (h.bounds i k hstep).2
      rw [ih hwithin]
      simp only [hmore]
      constructor
      · rintro ⟨i, hi | ⟨x, hx, hstep⟩, m, hm, hway⟩
        · exact ⟨i, hi, m, by omega, hway⟩
        · exact ⟨x, hx, m + 1, by omega, i, hstep, hway⟩
      · rintro ⟨i, hi, m, hm, hway⟩
        cases m with
        | zero => exact ⟨i, .inl hi, 0, Nat.zero_le n, hway⟩
        | succ m =>
          obtain ⟨k, hstep, hway⟩ := hway
          exact ⟨k, .inr ⟨i, hi, hstep⟩, m, by omega, hway⟩

end Advances

/-! ## The search -/

theorem between_chars {s : CharSet} {text : List Char} {i j : Nat} :
    Between (Pattern.chars s).Matches text i j ↔
      j = i + 1 ∧ (text.map s.contains).getD i false = true := by
  have hget : (text.map s.contains).getD i false = true ↔
      ∃ c, text[i]? = some c ∧ s.contains c = true := by
    cases hc : text[i]? <;> simp [List.getD, hc]
  rw [hget]
  constructor
  · rintro ⟨before, _, after, rfl, rfl, rfl, c, rfl, hc⟩
    exact ⟨by simp, c, by simp, hc⟩
  · rintro ⟨rfl, c, hget, hc⟩
    obtain ⟨hi, rfl⟩ := List.getElem?_eq_some_iff.mp hget
    refine ⟨text.take i, [text[i]], text.drop (i + 1), by simp, ?_, ?_, text[i], rfl, hc⟩
    · simp only [List.length_take]
      omega
    · simp only [List.length_append, List.length_take, List.length_singleton]
      omega

theorem getD_spots (b : Boundary) (front : Option Char) (text : List Char) (i : Nat) :
    (b.spots front text).getD i false = true ↔ i ≤ text.length ∧
      b.holds ((text.take i).getLast?.or front) (text.drop i).head? = true := by
  induction text generalizing front i with
  | nil => cases i <;> simp [Boundary.spots]
  | cons c text ih =>
    cases i with
    | zero => simp [Boundary.spots]
    | succ i =>
      rw [Boundary.spots, List.getD_cons_succ, ih, List.take_succ_cons, List.drop_succ_cons,
        List.getLast?_cons, List.length_cons, Nat.add_le_add_iff_right, Option.some_or]
      cases (text.take i).getLast? <;> simp

theorem between_boundary {b : Boundary} {text : List Char} {i j : Nat} :
    Between (Pattern.boundary b).Matches text i j ↔
      i = j ∧ (b.spots none text).getD i false = true := by
  rw [getD_spots, Option.or_none]
  constructor
  · rintro ⟨before, _, after, rfl, rfl, rfl, rfl, hholds⟩
    refine ⟨by simp, by simp, ?_⟩
    simpa using hholds
  · rintro ⟨rfl, hi, hholds⟩
    exact ⟨text.take i, [], text.drop i, by simp, by simp [hi], by simp [hi], rfl, hholds⟩

theorem between_times {p : Pattern} {min : Nat} {max : Option Nat} {text : List Char} {i j : Nat} :
    Between (p.times min max).Matches text i j ↔
      i ≤ text.length ∧ ∃ more, (∀ top ∈ max, more ≤ top - min) ∧
        Way (Between p.Matches text) (min + more) i j := by
  constructor
  · rintro ⟨before, middle, after, htext, hi, hj, more, hbound, hrounds⟩
    obtain ⟨hle, hway⟩ := (between_rounds _).mp ⟨before, middle, after, htext, hi, hj, hrounds⟩
    exact ⟨hle, more, hbound, hway⟩
  · rintro ⟨hle, more, hbound, hway⟩
    obtain ⟨before, middle, after, htext, hi, hj, hrounds⟩ := (between_rounds _).mpr ⟨hle, hway⟩
    exact ⟨before, middle, after, htext, hi, hj, more, hbound, hrounds⟩

namespace Advances

variable {p q : Pattern} {text : List Char}

theorem empty : Advances text.length (Pattern.empty.over text).advance
    (Between Pattern.empty.Matches text) := by
  refine ⟨?_, fun i j => Between.bounds⟩
  intro starts hstarts j
  rw [show Pattern.empty.Matches = fun _ middle _ => middle = [] from rfl]
  simp only [between_empty, Pattern.over, Overlay.advance]
  constructor
  · intro hj
    exact ⟨j, hj, hstarts j hj, rfl⟩
  · rintro ⟨i, hi, _, rfl⟩
    exact hi

theorem chars (s : CharSet) : Advances text.length ((Pattern.chars s).over text).advance
    (Between (Pattern.chars s).Matches text) := by
  refine ⟨?_, fun i j => Between.bounds⟩
  intro starts _ j
  simp only [Pattern.over, Overlay.advance, Nat.testBit_shiftLeft, Nat.testBit_and, testBit_bits,
    between_chars]
  cases j with
  | zero => simp
  | succ j =>
    simp only [Nat.le_add_left, decide_true, Nat.add_sub_cancel, Bool.true_and, Bool.and_eq_true,
      Nat.add_right_cancel_iff]
    constructor
    · rintro ⟨hj, hc⟩
      exact ⟨j, hj, rfl, hc⟩
    · rintro ⟨i, hi, rfl, hc⟩
      exact ⟨hi, hc⟩

theorem boundary (b : Boundary) : Advances text.length ((Pattern.boundary b).over text).advance
    (Between (Pattern.boundary b).Matches text) := by
  refine ⟨?_, fun i j => Between.bounds⟩
  intro starts _ j
  simp only [Pattern.over, Overlay.advance, Nat.testBit_and, testBit_bits, between_boundary,
    Bool.and_eq_true]
  constructor
  · rintro ⟨hj, hholds⟩
    exact ⟨j, hj, rfl, hholds⟩
  · rintro ⟨i, hi, rfl, hholds⟩
    exact ⟨hi, hholds⟩

theorem seq (hp : Advances text.length (p.over text).advance (Between p.Matches text))
    (hq : Advances text.length (q.over text).advance (Between q.Matches text)) :
    Advances text.length ((p.seq q).over text).advance (Between (p.seq q).Matches text) := by
  refine ⟨?_, fun i j => Between.bounds⟩
  intro starts hstarts j
  rw [Pattern.over, Overlay.advance, hq.testBit_iff _ (hp.within hstarts),
    show (p.seq q).Matches = fun before middle after => ∃ first second, middle = first ++ second ∧
      p.Matches before first (second ++ after) ∧ q.Matches (before ++ first) second after from rfl]
  simp only [hp.testBit_iff starts hstarts, between_append]
  constructor
  · rintro ⟨k, ⟨i, hi, hfirst⟩, hsecond⟩
    exact ⟨i, hi, k, hfirst, hsecond⟩
  · rintro ⟨i, hi, k, hfirst, hsecond⟩
    exact ⟨k, ⟨i, hi, hfirst⟩, hsecond⟩

theorem alt (hp : Advances text.length (p.over text).advance (Between p.Matches text))
    (hq : Advances text.length (q.over text).advance (Between q.Matches text)) :
    Advances text.length ((p.alt q).over text).advance (Between (p.alt q).Matches text) := by
  refine ⟨?_, fun i j => Between.bounds⟩
  intro starts hstarts j
  rw [Pattern.over, Overlay.advance, Nat.testBit_or, Bool.or_eq_true,
    hp.testBit_iff starts hstarts, hq.testBit_iff starts hstarts]
  constructor
  · rintro (⟨i, hi, before, middle, after, htext, hbefore, hmiddle, hmatch⟩ |
      ⟨i, hi, before, middle, after, htext, hbefore, hmiddle, hmatch⟩)
    · exact ⟨i, hi, before, middle, after, htext, hbefore, hmiddle, .inl hmatch⟩
    · exact ⟨i, hi, before, middle, after, htext, hbefore, hmiddle, .inr hmatch⟩
  · rintro ⟨i, hi, before, middle, after, htext, hbefore, hmiddle, hmatch | hmatch⟩
    · exact .inl ⟨i, hi, before, middle, after, htext, hbefore, hmiddle, hmatch⟩
    · exact .inr ⟨i, hi, before, middle, after, htext, hbefore, hmiddle, hmatch⟩

theorem times (hp : Advances text.length (p.over text).advance (Between p.Matches text))
    (min : Nat) (max : Option Nat) : Advances text.length ((p.times min max).over text).advance
      (Between (p.times min max).Matches text) := by
  obtain ⟨room, hover, hroom⟩ : ∃ room,
      (p.times min max).over text = .times (p.over text) min room ∧
      ∀ more, more ≤ room ↔ more ≤ text.length ∧ ∀ top ∈ max, more ≤ top - min := by
    cases max with
    | none => exact ⟨text.length, rfl, by simp⟩
    | some top =>
      refine ⟨_, rfl, fun more => ?_⟩
      rw [Nat.le_min, and_comm]
      simp
  refine ⟨?_, fun i j => Between.bounds⟩
  intro starts hstarts j
  rw [hover, Overlay.advance, hp.testBit_stepUpTo room (hp.within_stepTimes min hstarts)]
  simp only [hp.testBit_stepTimes min hstarts]
  constructor
  · rintro ⟨k, ⟨i, hi, hmin⟩, more, hmore, hway⟩
    exact ⟨i, hi, between_times.mpr ⟨hstarts i hi, more, ((hroom more).mp hmore).2,
      way_add.mpr ⟨k, hmin, hway⟩⟩⟩
  · rintro ⟨i, hi, hmatch⟩
    have hj := hmatch.bounds.2
    obtain ⟨_, more, hbound, hway⟩ := between_times.mp hmatch
    obtain ⟨k, hmin, hway⟩ := way_add.mp hway
    obtain ⟨_, m, hm, hshort, hway⟩ := hway.shorten fun i j h => h.bounds.1
    refine ⟨k, ⟨i, hi, hmin⟩, m, (hroom m).mpr ⟨by omega, ?_⟩, hway⟩
    exact fun top htop => Nat.le_trans hm (hbound top htop)

end Advances

/-- Laid over a text, a pattern takes positions where matches start to those where they end. -/
theorem advances_over (p : Pattern) (text : List Char) :
    Advances text.length (p.over text).advance (Between p.Matches text) := by
  induction p with
  | empty => exact .empty
  | chars s => exact .chars s
  | boundary b => exact .boundary b
  | seq p q hp hq => exact hp.seq hq
  | alt p q hp hq => exact hp.alt hq
  | times p min max hp => exact hp.times min max

/-- The search finds something just if some part of the text is a match. -/
theorem Pattern.matchesIn_iff (p : Pattern) (text : String) :
    p.matchesIn text = true ↔ ∃ before middle after,
      text.toList = before ++ middle ++ after ∧ p.Matches before middle after := by
  have hstarts : ∀ i, ((1 <<< (text.toList.length + 1)) - 1).testBit i = true ↔
      i ≤ text.toList.length := by
    intro i
    rw [Nat.one_shiftLeft, Nat.testBit_two_pow_sub_one, decide_eq_true_eq, Nat.lt_succ_iff]
  have hfound : p.matchesIn text = true ↔
      ∃ j, ((p.over text.toList).advance ((1 <<< (text.toList.length + 1)) - 1)).testBit j =
        true := by
    rw [Pattern.matchesIn, decide_eq_true_eq]
    constructor
    · exact Nat.exists_testBit_of_ne_zero
    · rintro ⟨j, hj⟩ hzero
      rw [hzero, Nat.zero_testBit] at hj
      cases hj
  rw [hfound]
  simp only [(advances_over p text.toList).testBit_iff _ fun i => (hstarts i).mp, hstarts]
  constructor
  · rintro ⟨j, i, _, before, middle, after, htext, _, _, hmatch⟩
    exact ⟨before, middle, after, htext, hmatch⟩
  · rintro ⟨before, middle, after, htext, hmatch⟩
    exact ⟨_, before.length, by simp [htext], before, middle, after, htext, rfl, rfl, hmatch⟩

end ImageTiers
