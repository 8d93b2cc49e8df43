-- Refusals. A library is refused for its path and for nothing else, and the refusal leaves
-- no trace. A loading stops at the first library that would be refused, and keeps just the
-- ones before it.
import ImageTiers.Proofs.Finding
import ImageTiers.Proofs.Loading

namespace ImageTiers

/-! ## The place where a loading stops -/

/-- The library at place `i` has a path that is taken, or that a library before it has. -/
def ComesAgain (taken : List String) (libs : List Library) (i : Nat) : Prop :=
  ∃ lib, libs[i]? = some lib ∧ lib.path ∈ taken ++ (libs.take i).map (·.path)

theorem comesAgain_zero (taken : List String) (lib : Library) (libs : List Library) :
    ComesAgain taken (lib :: libs) 0 ↔ lib.path ∈ taken := by
  simp [ComesAgain]

/-- Behind a library that was taken in, its path is one more that is taken. -/
theorem comesAgain_succ (taken : List String) (lib : Library) (libs : List Library) (i : Nat) :
    ComesAgain taken (lib :: libs) (i + 1) ↔ ComesAgain (taken ++ [lib.path]) libs i := by
  simp [ComesAgain]

/-- The loading of `libs` stops at place `i`. -/
structure StopsAt (taken : List String) (libs : List Library) (i : Nat) : Prop where
  again : ComesAgain taken libs i
  first : ∀ j < i, ¬ ComesAgain taken libs j

theorem exists_stopsAt {taken : List String} {libs : List Library} {i : Nat}
    (h : ComesAgain taken libs i) : ∃ j, StopsAt taken libs j := by
  classical
  have hex : ∃ i, ComesAgain taken libs i := ⟨i, h⟩
  exact ⟨Nat.find hex, Nat.find_spec hex, fun _ => Nat.find_min hex⟩

theorem StopsAt.zero {taken : List String} {lib : Library} (libs : List Library)
    (h : lib.path ∈ taken) {i : Nat} (hi : StopsAt taken (lib :: libs) i) : i = 0 := by
  rcases Nat.eq_zero_or_pos i with rfl | hpos
  · rfl
  · exact absurd ((comesAgain_zero taken lib libs).mpr h) (hi.first 0 hpos)

theorem StopsAt.succ {taken : List String} {lib : Library} {libs : List Library}
    (h : lib.path ∉ taken) {i : Nat} (hi : StopsAt taken (lib :: libs) i) :
    ∃ j, i = j + 1 ∧ StopsAt (taken ++ [lib.path]) libs j := by
  cases i with
  | zero => exact absurd ((comesAgain_zero taken lib libs).mp hi.again) h
  | succ j =>
    refine ⟨j, rfl, (comesAgain_succ taken lib libs j).mp hi.again, ?_⟩
    intro k hk hagain
    exact hi.first (k + 1) (by omega) ((comesAgain_succ taken lib libs k).mpr hagain)

namespace Linker

/-! ## Paths that are taken -/

/-- The paths of the libraries that a linker holds. -/
def takenPaths (l : Linker) : List String := l.image.libraries.map (·.path)

theorem takenPaths_push (l : Linker) (lib : Library) :
    ({ l with image := l.image.push lib } : Linker).takenPaths = l.takenPaths ++ [lib.path] := by
  simp [takenPaths]

/-! ## Many libraries -/

/-- A loading that stops has added what stands before the place where it stopped. -/
theorem Reachable.load_of_stopsAt {l : Linker} (h : Reachable l) {libs : List Library} {i : Nat}
    (hi : StopsAt l.takenPaths libs i) :
    l.loaded libs = libs.take i ∧
      ∀ lib, libs[i]? = some lib → (l.load libs).outcome = .error (.duplicatePath lib.path) := by
  induction libs generalizing l i with
  | nil =>
    obtain ⟨lib, hlib, _⟩ := hi.again
    simp at hlib
  | cons lib libs ih =>
    rcases h.add_cases lib with ⟨hold, ha⟩ | ⟨hnew, ha⟩
    · have hzero := StopsAt.zero libs hold hi
      subst hzero
      simp [loaded, load, ha]
    · have hnew : lib.path ∉ l.takenPaths := hnew
      obtain ⟨j, rfl, hj⟩ := hi.succ hnew
      have hnext := h.add lib
      rw [ha] at hnext
      rw [← takenPaths_push] at hj
      obtain ⟨hloaded, houtcome⟩ := ih hnext hj
      simp only [loaded, load, ha, List.take_succ_cons, List.getElem?_cons_succ, hloaded, true_and]
      exact houtcome

/-- A loading that has no place to stop adds everything. -/
theorem Reachable.load_of_not_comesAgain {l : Linker} (h : Reachable l) {libs : List Library}
    (hnone : ∀ i, ¬ ComesAgain l.takenPaths libs i) :
    l.loaded libs = libs ∧ (l.load libs).outcome = .ok () := by
  induction libs generalizing l with
  | nil => exact ⟨rfl, rfl⟩
  | cons lib libs ih =>
    rcases h.add_cases lib with ⟨hold, _⟩ | ⟨hnew, ha⟩
    · exact absurd ((comesAgain_zero _ lib libs).mpr hold) (hnone 0)
    · have hnext := h.add lib
      rw [ha] at hnext
      have hrest : ∀ i, ¬ ComesAgain
          ({ l with image := l.image.push lib } : Linker).takenPaths libs i := by
        intro i hagain
        rw [takenPaths_push] at hagain
        exact hnone (i + 1) ((comesAgain_succ _ lib libs i).mpr hagain)
      obtain ⟨hloaded, houtcome⟩ := ih hnext hrest
      simp only [loaded, load, ha, hloaded, true_and]
      exact houtcome

theorem Fresh.takenPaths_served {start : Linker} (h : Fresh start) (requests : List Request) :
    (start.served requests).takenPaths = (start.admitted requests).map (·.path) := by
  rw [takenPaths, h.libraries_served]

/-! ## The law -/

/-- A refused library leaves no trace. Whatever was asked before, a library is refused just
if one with its path was taken in, of whichever partition and word size, and then the
linker stays as it is. A loading fails just if some path is taken or comes a second time.
It tells the first such path and leaves the linker as if the libraries before it had been
added one by one, none of them refused. Otherwise all of them are added in this way. -/
theorem a_refused_library_leaves_no_trace {start : Linker} (h : Fresh start)
    (requests : List Request) :
    ∃ l taken, l = start.served requests ∧ taken = (start.admitted requests).map (·.path) ∧
      (∀ lib,
        ((l.add lib).outcome = .error (.duplicatePath lib.path) ↔ lib.path ∈ taken) ∧
        (lib.path ∈ taken → (l.add lib).linker = l ∧ (l.add lib).log = []) ∧
        (lib.path ∉ taken → ∃ id, (l.add lib).outcome = .ok id)) ∧
      ∀ libs,
        ((∃ e, (l.load libs).outcome = .error e) ↔ ∃ i, ComesAgain taken libs i) ∧
        (∀ i lib, StopsAt taken libs i → libs[i]? = some lib →
          (l.load libs).outcome = .error (.duplicatePath lib.path) ∧
          (l.load libs).linker = l.after ((libs.take i).map .add) ∧
          l.accepted ((libs.take i).map .add) = libs.take i) ∧
        ((∀ i, ¬ ComesAgain taken libs i) →
          (l.load libs).outcome = .ok () ∧
          (l.load libs).linker = l.after (libs.map .add) ∧
          l.accepted (libs.map .add) = libs) := by
  have hreach := (Reachable.fresh h).served requests
  refine ⟨start.served requests, _, rfl, h.takenPaths_served requests, ?_, ?_⟩
  · intro lib
    rcases hreach.add_cases lib with ⟨hold, ha⟩ | ⟨hnew, ha⟩
    · have hold : lib.path ∈ (start.served requests).takenPaths := hold
      simp [ha, hold]
    · have hnew : lib.path ∉ (start.served requests).takenPaths := hnew
      simp [ha, hnew]
  · intro libs
    obtain ⟨hlinker, haccepted⟩ := (start.served requests).load_eq_after libs
    refine ⟨?_, ?_, ?_⟩
    · constructor
      · rintro ⟨e, he⟩
        by_contra hnone
        rw [(hreach.load_of_not_comesAgain (not_exists.mp hnone)).2] at he
        cases he
      · rintro ⟨i, hi⟩
        obtain ⟨j, hj⟩ := exists_stopsAt hi
        obtain ⟨lib, hlib, _⟩ := hj.again
        exact ⟨_, (hreach.load_of_stopsAt hj).2 lib hlib⟩
    · intro i lib hi hlib
      obtain ⟨hloaded, houtcome⟩ := hreach.load_of_stopsAt hi
      rw [hloaded] at hlinker haccepted
      exact ⟨houtcome lib hlib, hlinker, haccepted⟩
    · intro hnone
      obtain ⟨hloaded, houtcome⟩ := hreach.load_of_not_comesAgain hnone
      rw [hloaded] at hlinker haccepted
      exact ⟨houtcome, hlinker, haccepted⟩

/-- A new library, one of its path for the other partition and word size, and a new one. -/
def twinsAndOne : List Library :=
  [sampleLib "liba.so" [] [] [], ⟨.vendor, "/system/lib64/liba.so", ⟨.elf32, .msb, [], ∅, ∅⟩⟩,
    sampleLib "libb.so" [] [] []]

theorem the_second_of_twins_is_refused_and_the_one_behind_it_not_added :
    Fresh .default ∧
      ((default.served sampleRequests).load twinsAndOne).outcome =
        .error (.duplicatePath "/system/lib64/liba.so") ∧
      ((default.served sampleRequests).load twinsAndOne).linker =
        ((default.served sampleRequests).add (sampleLib "liba.so" [] [] [])).linker ∧
      ((default.served sampleRequests).add (sampleLib "libend.so" [] [] [])).linker =
        default.served sampleRequests := by
  obtain ⟨l, taken, rfl, htaken, hadd, hload⟩ :=
    a_refused_library_leaves_no_trace .default sampleRequests
  have hold : "/system/lib64/libend.so" ∈ taken := by
    rw [htaken]
    decide +kernel
  have hnew : "/system/lib64/liba.so" ∉ taken := by
    rw [htaken]
    decide +kernel
  have hstops : StopsAt taken twinsAndOne 1 := by
    refine ⟨⟨_, rfl, by simp [twinsAndOne, sampleLib]⟩, ?_⟩
    intro j hj
    obtain rfl : j = 0 := by omega
    exact fun hagain => hnew ((comesAgain_zero taken _ _).mp hagain)
  obtain ⟨houtcome, hlinker, _⟩ := (hload twinsAndOne).2.1 1 _ hstops rfl
  exact ⟨.default, houtcome, hlinker, ((hadd (sampleLib "libend.so" [] [] [])).2.1 hold).1⟩

end Linker

end ImageTiers
