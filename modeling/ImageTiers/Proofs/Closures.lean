-- The closures of an image, along its edges and against them. The laws: a closure comes to
-- an end, also where libraries need each other in a circle, and holds just what chains of
-- edges lead to. And the two closures of an image are one relation read from both ends.
import ImageTiers.Proofs.Reach

namespace ImageTiers

variable {next prev : LibId → List LibId} {excluded : LibId → Bool}

/-! ## What a closure is -/

/-- A function from roots to what can be reached from them, among so many libraries. -/
structure Explores (libraries : Nat) (next : LibId → List LibId) (excluded : LibId → Bool)
    (reached : List LibId → List LibId) : Prop where
  /-- The walk from the roots comes to its end with no bound on its visits. -/
  ends : ∀ roots, WalksTo next excluded roots.eraseDups roots.eraseDups (reached roots)
  once : ∀ roots, (reached roots).Nodup
  inside : ∀ roots, (∀ root ∈ roots, root < libraries) → ∀ id ∈ reached roots, id < libraries
  /-- It finds what is reached over libraries that, but for the root, are not excluded. -/
  chains : ∀ roots id, id ∈ reached roots ↔ ∃ root ∈ roots, Chain next excluded root id
  /-- The order of the roots and their repeats do not count. -/
  roots_only : ∀ roots roots', (∀ id, id ∈ roots ↔ id ∈ roots') →
    (reached roots).Perm (reached roots')
  /-- A root is kept and visited, whether it is excluded or not. -/
  root_visited : ∀ roots, ∀ root ∈ roots, root ∈ reached roots ∧
    ∀ id ∈ next root, excluded id = false → id ∈ reached roots

theorem explores_closure {libraries : Nat} (hnext : ∀ a, ∀ b ∈ next a, b < libraries) :
    Explores libraries next excluded (closure libraries next excluded) := by
  refine ⟨walksTo_closure hnext, nodup_closure hnext, ?_, mem_closure hnext, ?_, ?_⟩
  · intro roots hroots id hid
    obtain ⟨root, hroot, hchain⟩ := (mem_closure hnext roots id).mp hid
    rcases hchain.cases_tail with rfl | ⟨user, _, hedge⟩
    · exact hroots id hroot
    · exact hnext user id hedge.1
  · intro roots roots' hsame
    rw [List.perm_ext_iff_of_nodup (nodup_closure hnext roots) (nodup_closure hnext roots')]
    intro id
    simp only [mem_closure hnext, hsame]
  · intro roots root hroot
    refine ⟨(mem_closure hnext roots root).mpr ⟨root, hroot, .refl⟩, ?_⟩
    intro id hid hexcluded
    exact (mem_closure hnext roots id).mpr ⟨root, hroot, .single ⟨hid, hexcluded⟩⟩

/-! ## Chains turned around -/

/-- A chain turned around is a chain, but it enters where the first one started, and it does
not enter where that one ended. -/
theorem Chain.reverse (hmirror : ∀ a b, b ∈ next a ↔ a ∈ prev b) {a b : LibId}
    (ha : excluded a = false) (h : Chain next excluded a b) : Chain prev excluded b a := by
  induction h with
  | refl => exact .refl
  | @tail b c hchain hedge ih =>
    have hb : excluded b = false := by
      rcases Chain.eq_or_entered hchain with rfl | hb
      · exact ha
      · exact hb
    exact ih.head ⟨(hmirror b c).mp hedge.1, hb⟩

namespace Linker

/-! ## The laws -/

/-- A closure is what chains of edges lead to. After any run, and in a circle of libraries as
well, the walk from the roots ends, and it has found the roots and all that hangs on a chain
from one of them on which no library after the root is excluded. So the order of the
roots and their repeats do not count, and an excluded root is kept and visited. The same
holds of the walk against the edges. -/
theorem a_closure_ends_and_holds_what_chains_lead_to {l : Linker} (h : Reachable l)
    (excluded : LibId → Bool) :
    Explores l.image.size l.image.deps excluded (l.image.depsClosure excluded) ∧
      Explores l.image.size l.image.users excluded (l.image.usersClosure excluded) :=
  ⟨explores_closure fun _ _ => h.dep_lt_size, explores_closure fun _ _ => h.user_lt_size⟩

theorem the_walk_goes_around_the_ring_of_the_sample :
    Reachable (default.after sampleRun).resolve.linker ∧
      3 ∈ (default.after sampleRun).resolve.linker.image.deps 2 ∧
      2 ∈ (default.after sampleRun).resolve.linker.image.deps 3 ∧
      2 ∈ (default.after sampleRun).resolve.linker.image.depsClosure (· = 2) [2, 2] ∧
      3 ∈ (default.after sampleRun).resolve.linker.image.depsClosure (· = 2) [2, 2] ∧
      3 ∈ (default.after sampleRun).resolve.linker.image.usersClosure (fun _ => false) [1] := by
  have h : Reachable (default.after sampleRun).resolve.linker :=
    ((Reachable.fresh .default).after sampleRun).resolve
  obtain ⟨hdep, hring, huser⟩ : 3 ∈ (default.after sampleRun).resolve.linker.image.deps 2 ∧
      2 ∈ (default.after sampleRun).resolve.linker.image.deps 3 ∧
      2 ∈ (default.after sampleRun).resolve.linker.image.users 1 := by
    decide +kernel
  have hring' := (h.sound.mirror 3 2).mp hring
  have hdeps := (a_closure_ends_and_holds_what_chains_lead_to h (· = 2)).1
  have husers := (a_closure_ends_and_holds_what_chains_lead_to h fun _ => false).2
  obtain ⟨hroot, hvisited⟩ := hdeps.root_visited [2, 2] 2 (by simp)
  refine ⟨h, hdep, hring, hroot, hvisited 3 hdep rfl, ?_⟩
  rw [husers.chains]
  exact ⟨1, by simp, .head ⟨huser, rfl⟩ (.single ⟨hring', rfl⟩)⟩

/-- The two closures mirror each other. After any run, one library is in what another needs
if and only if the other one is in what needs the first, if neither is excluded. Without
exclusions this holds of any two, and then what needs some roots are just the libraries
that need, directly or not, at least one of them. -/
theorem the_two_closures_mirror_each_other {l : Linker} (h : Reachable l) :
    (∀ excluded a b, excluded a = false → excluded b = false →
      (b ∈ l.image.depsClosure excluded [a] ↔ a ∈ l.image.usersClosure excluded [b])) ∧
    (∀ a b, b ∈ l.image.depsClosure (fun _ => false) [a] ↔
      a ∈ l.image.usersClosure (fun _ => false) [b]) ∧
    ∀ roots id, id ∈ l.image.usersClosure (fun _ => false) roots ↔
      ∃ root ∈ roots, root ∈ l.image.depsClosure (fun _ => false) [id] := by
  have hmirror := h.sound.mirror
  have hturned : ∀ excluded a b, excluded a = false → excluded b = false →
      (Chain l.image.deps excluded a b ↔ Chain l.image.users excluded b a) := by
    intro excluded a b ha hb
    exact ⟨Chain.reverse hmirror ha, Chain.reverse (fun a b => (hmirror b a).symm) hb⟩
  have hpair : ∀ excluded a b, excluded a = false → excluded b = false →
      (b ∈ l.image.depsClosure excluded [a] ↔ a ∈ l.image.usersClosure excluded [b]) := by
    intro excluded a b ha hb
    simp only [h.mem_depsClosure, h.mem_usersClosure, List.mem_singleton, exists_eq_left]
    exact hturned excluded a b ha hb
  refine ⟨hpair, fun a b => hpair _ a b rfl rfl, ?_⟩
  intro roots id
  simp only [h.mem_depsClosure, h.mem_usersClosure, List.mem_singleton, exists_eq_left]
  constructor
  · rintro ⟨root, hroot, hchain⟩
    exact ⟨root, hroot, (hturned _ id root rfl rfl).mpr hchain⟩
  · rintro ⟨root, hroot, hchain⟩
    exact ⟨root, hroot, (hturned _ id root rfl rfl).mp hchain⟩

theorem the_last_of_the_sample_is_found_from_what_it_needs :
    Reachable (default.after sampleRun).resolve.linker ∧
      1 ∈ (default.after sampleRun).resolve.linker.image.depsClosure (· = 0) [3] ∧
      3 ∈ (default.after sampleRun).resolve.linker.image.usersClosure (· = 0) [1] := by
  have h : Reachable (default.after sampleRun).resolve.linker :=
    ((Reachable.fresh .default).after sampleRun).resolve
  have hdep : 1 ∈ (default.after sampleRun).resolve.linker.image.depsClosure (· = 0) [3] := by
    decide +kernel
  exact ⟨h, hdep, ((the_two_closures_mirror_each_other h).1 (· = 0) 3 1 rfl rfl).mp hdep⟩

end Linker

end ImageTiers
