-- Closures. The walk behind a closure visits the libraries that it has found one by one,
-- in the order in which it found them, and what a visit finds is found for good. The walk
-- ends with no library left to visit, so a closure holds just what chains of edges lead
-- to from the roots.
import ImageTiers.Closure
import ImageTiers.Proofs.Links
import Mathlib.Logic.Relation

namespace ImageTiers

variable {next : LibId → List LibId} {excluded : LibId → Bool}

/-! ## Chains -/

/-- One edge of a chain: to a neighbour that is not excluded. -/
def Enters (next : LibId → List LibId) (excluded : LibId → Bool) (a b : LibId) : Prop :=
  b ∈ next a ∧ excluded b = false

/-- A chain of edges, of any length. No library after the first is excluded. -/
abbrev Chain (next : LibId → List LibId) (excluded : LibId → Bool) : LibId → LibId → Prop :=
  Relation.ReflTransGen (Enters next excluded)

/-- A chain that goes somewhere ends at a library that is not excluded. -/
theorem Chain.eq_or_entered {a b : LibId} (h : Chain next excluded a b) :
    b = a ∨ excluded b = false := by
  rcases h.cases_tail with heq | ⟨_, _, hedge⟩
  · exact Or.inl heq
  · exact Or.inr hedge.2

/-- A chain stays one if fewer libraries are excluded. -/
theorem Chain.mono {excluded' : LibId → Bool} {a b : LibId}
    (hexcluded : ∀ id, excluded id = false → excluded' id = false)
    (h : Chain next excluded a b) : Chain next excluded' a b := by
  induction h with
  | refl => exact .refl
  | tail _ hedge ih => exact ih.tail ⟨hedge.1, hexcluded _ hedge.2⟩

/-- If more libraries are excluded, then what is left of a chain starts at the last of these
that it meets, or it is still whole. -/
theorem Chain.cut {excluded' : LibId → Bool} {a b : LibId} (h : Chain next excluded a b) :
    Chain next excluded' a b ∨
      ∃ user root, Enters next excluded user root ∧ excluded' root = true ∧
        Chain next excluded' root b := by
  induction h with
  | refl => exact Or.inl .refl
  | @tail b c _ hedge ih =>
    cases hexcluded : excluded' c with
    | true => exact Or.inr ⟨b, c, hedge, hexcluded, .refl⟩
    | false =>
      rcases ih with hwhole | ⟨user, root, hold, hnew, hchain⟩
      · exact Or.inl (hwhole.tail ⟨hedge.1, hexcluded⟩)
      · exact Or.inr ⟨user, root, hold, hnew, hchain.tail ⟨hedge.1, hexcluded⟩⟩

/-! ## One visit -/

/-- What a visit of the library `id` finds that was not found before. -/
def fresh (next : LibId → List LibId) (excluded : LibId → Bool) (found : List LibId)
    (id : LibId) : List LibId :=
  ((next id).filter fun n => !found.contains n && !excluded n).eraseDups

theorem mem_fresh (found : List LibId) (id n : LibId) :
    n ∈ fresh next excluded found id ↔ Enters next excluded id n ∧ n ∉ found := by
  simp only [fresh, List.mem_eraseDups, List.mem_filter, Bool.and_eq_true,
    Bool.not_eq_eq_eq_not, Bool.not_true, List.contains_eq_mem, decide_eq_false_iff_not, Enters]
  tauto

/-- A walk under way: what was found is what was visited and, after that, what is still in
the queue. No library was found twice, and a visited one has its neighbours found. -/
structure Walking (next : LibId → List LibId) (excluded : LibId → Bool)
    (found visited queue : List LibId) : Prop where
  split : found = visited ++ queue
  nodup : found.Nodup
  entered : ∀ a ∈ visited, ∀ b, Enters next excluded a b → b ∈ found

theorem walking_start (roots : List LibId) :
    Walking next excluded roots.eraseDups [] roots.eraseDups := by
  refine ⟨rfl, nodup_eraseDups roots, ?_⟩
  simp

theorem walking_visit {found visited queue : List LibId} {id : LibId}
    (h : Walking next excluded found visited (id :: queue)) :
    Walking next excluded (found ++ fresh next excluded found id) (visited ++ [id])
      (queue ++ fresh next excluded found id) := by
  refine ⟨?_, ?_, ?_⟩
  · nth_rewrite 1 [h.split]
    simp
  · rw [List.nodup_append]
    refine ⟨h.nodup, nodup_eraseDups _, ?_⟩
    intro a ha b hb hab
    exact ((mem_fresh found id b).mp hb).2 (hab ▸ ha)
  · intro a ha b hedge
    rw [List.mem_append]
    rcases List.mem_append.mp ha with ha | ha
    · exact Or.inl (h.entered a ha b hedge)
    · rw [List.mem_singleton.mp ha] at hedge
      by_cases hb : b ∈ found
      · exact Or.inl hb
      · exact Or.inr ((mem_fresh found id b).mpr ⟨hedge, hb⟩)

/-! ## A whole walk -/

/-- A walk without a bound on its visits, and what it has found when its queue is empty. -/
inductive WalksTo (next : LibId → List LibId) (excluded : LibId → Bool) :
    List LibId → List LibId → List LibId → Prop
  | done {found : List LibId} : WalksTo next excluded found [] found
  | visit {found queue result : List LibId} {id : LibId} :
      WalksTo next excluded (found ++ fresh next excluded found id)
        (queue ++ fresh next excluded found id) result →
      WalksTo next excluded found (id :: queue) result

namespace WalksTo

variable {found visited queue result : List LibId}

theorem subset (h : WalksTo next excluded found queue result) : found ⊆ result := by
  induction h with
  | done => exact List.Subset.refl _
  | visit _ ih => exact fun n hn => ih (List.mem_append_left _ hn)

/-- At the end of a walk every library that it found was visited. -/
theorem walking (h : WalksTo next excluded found queue result)
    (hstart : Walking next excluded found visited queue) :
    Walking next excluded result result [] := by
  induction h generalizing visited with
  | done => simpa [hstart.split] using hstart
  | visit _ ih => exact ih (walking_visit hstart)

/-- All that a walk finds hangs on a chain from what it started with. -/
theorem exists_chain (h : WalksTo next excluded found queue result) (hqueue : queue ⊆ found)
    {id : LibId} (hid : id ∈ result) : ∃ root ∈ found, Chain next excluded root id := by
  induction h with
  | done => exact ⟨id, hid, .refl⟩
  | @visit found queue result first _ ih =>
    have hrest : queue ++ fresh next excluded found first ⊆
        found ++ fresh next excluded found first := by
      intro n hn
      rw [List.mem_append] at hn ⊢
      exact hn.imp_left fun hn => hqueue (List.mem_cons_of_mem _ hn)
    obtain ⟨root, hroot, hchain⟩ := ih hrest hid
    rcases List.mem_append.mp hroot with hroot | hroot
    · exact ⟨root, hroot, hchain⟩
    · have hedge := ((mem_fresh found first root).mp hroot).1
      exact ⟨first, hqueue List.mem_cons_self, .head hedge hchain⟩

/-- A walk from some roots finds just what chains lead to from them. -/
theorem mem_iff {roots : List LibId}
    (h : WalksTo next excluded roots.eraseDups roots.eraseDups result) (id : LibId) :
    id ∈ result ↔ ∃ root ∈ roots, Chain next excluded root id := by
  constructor
  · intro hid
    obtain ⟨root, hroot, hchain⟩ := h.exists_chain (List.Subset.refl _) hid
    exact ⟨root, List.mem_eraseDups.mp hroot, hchain⟩
  · rintro ⟨root, hroot, hchain⟩
    induction hchain with
    | refl => exact h.subset (List.mem_eraseDups.mpr hroot)
    | tail _ hedge ih => exact (h.walking (walking_start roots)).entered _ ih _ hedge

end WalksTo

/-- A walk that may visit each library there is once ends with no library left to visit. -/
theorem walksTo_walk (all : List LibId) (hnext : ∀ a, next a ⊆ all) {visits : Nat}
    {found visited queue : List LibId} (h : Walking next excluded found visited queue)
    (hfound : found ⊆ all) (hvisits : all.length ≤ visited.length + visits) :
    WalksTo next excluded found queue (walk next excluded visits found queue) := by
  induction visits generalizing found visited queue with
  | zero =>
    cases queue with
    | nil => exact .done
    | cons id queue =>
      -- All of them were visited, so none can be waiting.
      have hlength := h.nodup.length_le_of_subset hfound
      rw [h.split, List.length_append, List.length_cons] at hlength
      omega
  | succ visits ih =>
    cases queue with
    | nil => exact .done
    | cons id queue =>
      have hfresh : fresh next excluded found id ⊆ all := fun n hn =>
        hnext id ((mem_fresh found id n).mp hn).1.1
      apply WalksTo.visit
      apply ih (walking_visit h) (List.append_subset.mpr ⟨hfound, hfresh⟩)
      rw [List.length_append, List.length_singleton]
      omega

/-! ## Closures -/

/-- A closure is a walk that has come to its end. -/
theorem walksTo_closure {libraries : Nat} (hnext : ∀ a, ∀ b ∈ next a, b < libraries)
    (roots : List LibId) :
    WalksTo next excluded roots.eraseDups roots.eraseDups
      (closure libraries next excluded roots) := by
  apply walksTo_walk (List.range libraries ++ roots) _ (walking_start roots)
  · intro root hroot
    exact List.mem_append_right _ (List.mem_eraseDups.mp hroot)
  · simp
  · intro a b hb
    exact List.mem_append_left _ (List.mem_range.mpr (hnext a b hb))

theorem nodup_closure {libraries : Nat} (hnext : ∀ a, ∀ b ∈ next a, b < libraries)
    (roots : List LibId) : (closure libraries next excluded roots).Nodup :=
  ((walksTo_closure hnext roots).walking (walking_start roots)).nodup

/-- A closure holds just what chains lead to from the roots. -/
theorem mem_closure {libraries : Nat} (hnext : ∀ a, ∀ b ∈ next a, b < libraries)
    (roots : List LibId) (id : LibId) :
    id ∈ closure libraries next excluded roots ↔
      ∃ root ∈ roots, Chain next excluded root id :=
  (walksTo_closure hnext roots).mem_iff id

namespace Linker

/-- After any run, a needed library is one of the image. -/
theorem Reachable.dep_lt_size {l : Linker} (h : Reachable l) {user dep : LibId}
    (hdep : dep ∈ l.image.deps user) : dep < l.image.size := by
  obtain ⟨_, _, _, _, hnode, _⟩ := h.sound.ends user dep hdep
  exact Image.lt_size_of_node? hnode

theorem Reachable.user_lt_size {l : Linker} (h : Reachable l) {user dep : LibId}
    (huser : user ∈ l.image.users dep) : user < l.image.size := by
  obtain ⟨_, _, _, hnode, _⟩ := h.sound.ends user dep ((h.sound.mirror user dep).mpr huser)
  exact Image.lt_size_of_node? hnode

/-- After any run, what the roots need is what chains of edges lead to. -/
theorem Reachable.mem_depsClosure {l : Linker} (h : Reachable l) (roots : List LibId)
    (id : LibId) :
    id ∈ l.image.depsClosure excluded roots ↔
      ∃ root ∈ roots, Chain l.image.deps excluded root id :=
  mem_closure (fun _ _ => h.dep_lt_size) roots id

theorem Reachable.nodup_depsClosure {l : Linker} (h : Reachable l) (roots : List LibId) :
    (l.image.depsClosure excluded roots).Nodup :=
  nodup_closure (fun _ _ => h.dep_lt_size) roots

/-- After any run, what needs the roots is what chains of edges lead to, the other way. -/
theorem Reachable.mem_usersClosure {l : Linker} (h : Reachable l) (roots : List LibId)
    (id : LibId) :
    id ∈ l.image.usersClosure excluded roots ↔
      ∃ root ∈ roots, Chain l.image.users excluded root id :=
  mem_closure (fun _ _ => h.user_lt_size) roots id

/-- A chain from a library of the image stays inside the image. -/
theorem Reachable.lt_size_of_chain {l : Linker} (h : Reachable l) {a b : LibId}
    (ha : a < l.image.size) (hchain : Chain l.image.deps excluded a b) : b < l.image.size := by
  rcases hchain.cases_tail with rfl | ⟨_, _, hdep, _⟩
  · exact ha
  · exact h.dep_lt_size hdep

end Linker

end ImageTiers
