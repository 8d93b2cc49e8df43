-- The links of an image at any time. A library that is added after a linking
-- has no links yet, and the old ones stay as they are until the next linking.
-- The laws: both ends of an edge agree after any run, and every id that an
-- image keeps, in its links or in its indices, is that of a library.
import ImageTiers.Proofs.Symbols

namespace ImageTiers

namespace Image

/-- An id that the image keeps somewhere. -/
inductive Keeps (img : Image) : LibId → Prop
  | dep {user dep : LibId} : dep ∈ img.deps user → Keeps img dep
  | user {user dep : LibId} : user ∈ img.users dep → Keeps img user
  | provider {id provider : LibId} {node : Node} {s : String} :
      img.node? id = some node → node.links.providers[s]? = some provider → Keeps img provider
  | path {path : String} {id : LibId} : img.find? path = some id → Keeps img id
  | member {g : Group} {id : LibId} : id ∈ (img.bucket g).members → Keeps img id
  | memberPath {g : Group} {path : String} {id : LibId} :
      img.findIn? g path = some id → Keeps img id
  | memberName {g : Group} {name : String} {id : LibId} :
      id ∈ (img.bucket g).named name → Keeps img id

/-! ## The invariant of the links -/

/-- Both ends of each edge are libraries of one word size and agree on the edge, no edge
is told twice, and the users of a library come in the order in which they were added. -/
structure Sound (img : Image) : Prop where
  mirror : ∀ user dep, dep ∈ img.deps user ↔ user ∈ img.users dep
  nodup : ∀ user, (img.deps user).Nodup
  increasing : ∀ dep, (img.users dep).Pairwise (· < ·)
  ends : ∀ user dep, dep ∈ img.deps user → dep ≠ user ∧ ∃ unode dnode,
    img.node? user = some unode ∧ img.node? dep = some dnode ∧
      dnode.elf.elfClass = unode.elf.elfClass
  providers : ∀ id node, img.node? id = some node →
    ∀ (s : String) (provider : LibId), node.links.providers[s]? = some provider →
      provider < img.size

theorem deps_of_node? {img : Image} {id : LibId} {node : Node} (h : img.node? id = some node) :
    img.deps id = node.links.deps := by
  simp [Image.deps, h]

theorem users_of_node? {img : Image} {id : LibId} {node : Node} (h : img.node? id = some node) :
    img.users id = node.links.users := by
  simp [Image.users, h]

theorem sound_empty : Sound empty := by
  refine ⟨?_, ?_, ?_, ?_, ?_⟩
  · simp [Image.deps, Image.users, node?, empty]
  · simp [Image.deps, node?, empty]
  · simp [Image.users, node?, empty]
  · simp [Image.deps, node?, empty]
  · simp [node?, empty]

/-! ## One more library -/

theorem node?_push (img : Image) (lib : Library) (id : LibId) :
    (img.push lib).node? id =
      if id = img.size then some ⟨lib, .empty⟩ else img.node? id := by
  rw [node?, push, Array.getElem?_push]
  rfl

theorem node?_size (img : Image) : img.node? img.size = none := by
  simp [node?, size]

/-- A library that is new reads as one that is not there. -/
theorem getD_node?_push {α : Type} (img : Image) (lib : Library) (id : LibId) (f : Links → α) :
    (((img.push lib).node? id).map (f ·.links)).getD (f .empty) =
      ((img.node? id).map (f ·.links)).getD (f .empty) := by
  rw [node?_push]
  split
  · rename_i h
    subst h
    rw [node?_size]
    rfl
  · rfl

theorem deps_push (img : Image) (lib : Library) (id : LibId) :
    (img.push lib).deps id = img.deps id :=
  getD_node?_push img lib id (·.deps)

theorem users_push (img : Image) (lib : Library) (id : LibId) :
    (img.push lib).users id = img.users id :=
  getD_node?_push img lib id (·.users)

theorem node?_push_of_node? {img : Image} {id : LibId} {node : Node}
    (h : img.node? id = some node) (lib : Library) : (img.push lib).node? id = some node := by
  rw [node?_push, if_neg (Nat.ne_of_lt (lt_size_of_node? h)), h]

/-- The links from the last linking survive, and the new library has none. -/
theorem sound_push {img : Image} (h : Sound img) (lib : Library) : Sound (img.push lib) := by
  refine ⟨?_, ?_, ?_, ?_, ?_⟩
  · intro user dep
    rw [deps_push, users_push]
    exact h.mirror user dep
  · intro user
    rw [deps_push]
    exact h.nodup user
  · intro dep
    rw [users_push]
    exact h.increasing dep
  · intro user dep hdep
    rw [deps_push] at hdep
    obtain ⟨hne, unode, dnode, huser, hdep, hclass⟩ := h.ends user dep hdep
    exact ⟨hne, unode, dnode, node?_push_of_node? huser lib, node?_push_of_node? hdep lib, hclass⟩
  · intro id node hnode s provider hs
    have hsize : (img.push lib).size = img.size + 1 := by simp [size, push]
    rw [node?_push] at hnode
    split at hnode
    · cases hnode
      simp [Links.empty] at hs
    · rw [hsize]
      exact Nat.lt_succ_of_lt (h.providers id node hnode s provider hs)

/-! ## A linking -/

/-- A linking writes the links anew, so it makes them sound whatever they were. -/
theorem sound_link {img : Image} (h : Indexed img) (fallback : Bool) :
    Sound (img.link fallback).image := by
  have hlibs : (img.link fallback).image.libraries = img.libraries :=
    libraries_of_clearLinks (clearLinks_link img fallback)
  refine ⟨?_, ?_, ?_, ?_, ?_⟩
  · intro user dep
    rw [(holds_link h fallback).deps, (holds_link h fallback).users, mem_depsIn, mem_usersIn]
  · intro user
    rw [deps_link h]
    exact nodup_eraseDups _
  · intro dep
    rw [users_link h]
    exact List.pairwise_lt_range.filter _
  · intro user dep hdep
    rw [deps_link h, List.mem_eraseDups] at hdep
    obtain ⟨hne, ulib, dlib, hulib, hdlib, hclass⟩ := foundBy_cases hdep
    rw [← hlibs] at hulib hdlib
    obtain ⟨unode, huser, rfl⟩ := node?_of_libraries hulib
    obtain ⟨dnode, hdep, rfl⟩ := node?_of_libraries hdlib
    exact ⟨hne, unode, dnode, huser, hdep, hclass⟩
  · intro id node hnode s provider hs
    obtain ⟨hlib, hdeps, hbound⟩ := node?_link h fallback hnode
    obtain ⟨_, other, hother, _⟩ := hbound.provider_cases hlib hdeps hs
    rw [← hlibs] at hother
    obtain ⟨onode, hprovider, _⟩ := node?_of_libraries hother
    exact lt_size_of_node? hprovider

/-- Nothing that an image keeps is out of range. -/
theorem lt_size_of_keeps {img : Image} (hindexed : Indexed img) (hsound : Sound img) {id : LibId}
    (h : img.Keeps id) : id < img.size := by
  rw [← length_libraries]
  cases h with
  | dep h =>
    obtain ⟨_, _, _, _, hdep, _⟩ := hsound.ends _ _ h
    rw [length_libraries]
    exact lt_size_of_node? hdep
  | user h =>
    obtain ⟨_, _, _, huser, _⟩ := hsound.ends _ _ ((hsound.mirror _ _).mpr h)
    rw [length_libraries]
    exact lt_size_of_node? huser
  | provider hnode hs =>
    rw [length_libraries]
    exact hsound.providers _ _ hnode _ _ hs
  | path h =>
    rw [hindexed.find] at h
    exact (List.findIdx?_eq_some_iff_getElem.mp h).1
  | member h =>
    rw [← Array.mem_toList_iff, hindexed.members] at h
    exact (List.mem_findIdxs_iff_exists_getElem_pos.mp h).1
  | memberPath h =>
    rw [hindexed.findIn] at h
    exact (List.findIdx?_eq_some_iff_getElem.mp h).1
  | memberName h =>
    rw [← Array.mem_toList_iff, hindexed.named] at h
    exact (List.mem_findIdxs_iff_exists_getElem_pos.mp h).1

end Image

namespace Linker

theorem Reachable.sound {l : Linker} (h : Reachable l) : l.image.Sound := by
  -- A linking makes the links sound with the help of the indices, so both are carried.
  have hboth : l.image.Indexed ∧ l.image.Sound := by
    apply h.image_invariant (P := fun img => img.Indexed ∧ img.Sound)
      ⟨Image.indexed_empty, Image.sound_empty⟩
    · intro img lib himg hnew
      exact ⟨Image.indexed_push himg.1 lib hnew, Image.sound_push himg.2 lib⟩
    · intro img fallback himg
      exact ⟨Image.indexed_of_clearLinks himg.1 (Image.clearLinks_link img fallback),
        Image.sound_link himg.1 fallback⟩
  exact hboth.2

/-! ## The law -/

/-- At any time, whatever was added, refused and linked, and however strictly: a library
is needed by just the ones that need it, no list of these has a repeat or the library
itself, an edge keeps to one word size, the users come in the order in which they were
added, and each id that the image keeps is that of a library. -/
theorem both_ends_of_an_edge_agree_after_any_run {l : Linker} (h : Reachable l) :
    (∀ user dep, dep ∈ l.image.deps user ↔ user ∈ l.image.users dep) ∧
      (∀ id, (l.image.deps id).Nodup ∧ (l.image.users id).Nodup) ∧
      (∀ id, id ∉ l.image.deps id ∧ id ∉ l.image.users id) ∧
      (∀ user dep, dep ∈ l.image.deps user → ∃ unode dnode,
        l.image.node? user = some unode ∧ l.image.node? dep = some dnode ∧
          dnode.elf.elfClass = unode.elf.elfClass) ∧
      (∀ dep, (l.image.users dep).Pairwise (· < ·)) ∧
      ∀ id, l.image.Keeps id → id < l.image.size ∧ ∃ node, l.image.node? id = some node := by
  have hsound := h.sound
  have hself : ∀ id, id ∉ l.image.deps id := fun id hid => (hsound.ends id id hid).1 rfl
  refine ⟨hsound.mirror, ?_, ?_, ?_, hsound.increasing, ?_⟩
  · intro id
    exact ⟨hsound.nodup id, (hsound.increasing id).imp Nat.ne_of_lt⟩
  · intro id
    exact ⟨hself id, fun hid => hself id ((hsound.mirror id id).mpr hid)⟩
  · intro user dep hdep
    exact (hsound.ends user dep hdep).2
  · intro id hid
    have hlt := Image.lt_size_of_keeps h.indexed hsound hid
    exact ⟨hlt, l.image.nodes[id], Array.getElem?_eq_getElem hlt⟩

theorem the_two_libraries_of_the_sample_that_need_each_other_agree :
    Reachable (default.after sampleRun).resolve.linker ∧
      2 ∈ (default.after sampleRun).resolve.linker.image.deps 3 ∧
      3 ∈ (default.after sampleRun).resolve.linker.image.users 2 ∧
      ∃ node, (default.after sampleRun).resolve.linker.image.node? 3 = some node := by
  have h : Reachable (default.after sampleRun).resolve.linker :=
    ((Reachable.fresh .default).after sampleRun).resolve
  obtain ⟨hmirror, _, _, _, _, hkeeps⟩ := both_ends_of_an_edge_agree_after_any_run h
  have hdep : 2 ∈ (default.after sampleRun).resolve.linker.image.deps 3 := by decide +kernel
  have huser := (hmirror 3 2).mp hdep
  exact ⟨h, hdep, huser, (hkeeps 3 (.user huser)).2⟩

end Linker

end ImageTiers
