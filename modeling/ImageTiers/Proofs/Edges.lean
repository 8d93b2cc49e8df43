-- The edges of a linked image. Linking looks up all needed names first, and
-- then records the edges one by one, each on both of its libraries. The laws:
-- the two lists of an edge agree, and a library needs just what its names mean.
import ImageTiers.Proofs.Index
import Mathlib.Data.List.Induction

namespace ImageTiers

/-! ## First occurrences -/

theorem eraseDups_concat (l : List LibId) (x : LibId) :
    (l ++ [x]).eraseDups = if x ∈ l then l.eraseDups else l.eraseDups ++ [x] := by
  rw [List.eraseDups_append]
  split
  · rename_i h
    simp [List.removeAll, h]
  · rename_i h
    simp [List.removeAll, h, List.eraseDups_cons]

theorem eraseDups_sublist (l : List LibId) : l.eraseDups.Sublist l := by
  induction l using List.reverseRecOn with
  | nil => simp
  | append_singleton l x ih =>
    rw [eraseDups_concat]
    split
    · exact ih.trans (List.sublist_append_left l [x])
    · exact ih.append (List.Sublist.refl [x])

theorem nodup_eraseDups (l : List LibId) : l.eraseDups.Nodup := by
  induction l using List.reverseRecOn with
  | nil => simp
  | append_singleton l x ih =>
    rw [eraseDups_concat]
    split
    · exact ih
    · rename_i hx
      rw [List.nodup_append]
      refine ⟨ih, List.nodup_singleton x, ?_⟩
      intro a ha b hb
      rw [List.mem_singleton.mp hb]
      exact fun hax => hx (hax ▸ List.mem_eraseDups.mp ha)

/-! ## The edges told by a list of pairs -/

/-- An edge: a library and one that it needs. -/
abbrev Edge := LibId × LibId

/-- What `id` needs, as first told. -/
def depsIn (edges : List Edge) (id : LibId) : List LibId :=
  ((edges.filter (·.1 = id)).map (·.2)).eraseDups

/-- What needs `id`, as first told. -/
def usersIn (edges : List Edge) (id : LibId) : List LibId :=
  ((edges.filter (·.2 = id)).map (·.1)).eraseDups

theorem mem_depsIn (edges : List Edge) (user dep : LibId) :
    dep ∈ depsIn edges user ↔ (user, dep) ∈ edges := by
  simp [depsIn]

theorem mem_usersIn (edges : List Edge) (user dep : LibId) :
    user ∈ usersIn edges dep ↔ (user, dep) ∈ edges := by
  simp [usersIn]

theorem depsIn_concat (edges : List Edge) (user dep id : LibId) :
    depsIn (edges ++ [(user, dep)]) id =
      if user = id ∧ (user, dep) ∉ edges then depsIn edges id ++ [dep] else depsIn edges id := by
  by_cases hid : user = id
  · subst hid
    have hmem := mem_depsIn edges user dep
    simp only [depsIn, List.mem_eraseDups] at hmem
    simp [depsIn, eraseDups_concat, hmem]
  · simp [depsIn, hid]

theorem usersIn_concat (edges : List Edge) (user dep id : LibId) :
    usersIn (edges ++ [(user, dep)]) id =
      if dep = id ∧ (user, dep) ∉ edges then usersIn edges id ++ [user] else usersIn edges id := by
  by_cases hid : dep = id
  · subst hid
    have hmem := mem_usersIn edges user dep
    simp only [usersIn, List.mem_eraseDups] at hmem
    simp [usersIn, eraseDups_concat, hmem]
  · simp [usersIn, hid]

/-! ## One more edge -/

namespace Image

theorem node?_addEdge? {img img' : Image} {user dep : LibId}
    (h : img.addEdge? user dep = some img') (id : LibId) :
    dep ∉ img.deps user ∧
      img'.node? id = (img.node? id).map fun node =>
        let node := if user = id then node.addDep dep else node
        if dep = id then node.addUser user else node := by
  unfold addEdge? at h
  split at h
  · cases h
  · rename_i hnew
    cases h
    refine ⟨by simpa using hnew, ?_⟩
    simp only [node?, Array.getElem?_modify]
    by_cases hd : dep = id <;> by_cases hu : user = id <;> simp [hd, hu, Function.comp_def]

/-- An image, and the edges that it holds: the ones of a list, as first told. -/
structure Holds (img : Image) (edges : List Edge) : Prop where
  deps : ∀ id, img.deps id = depsIn edges id
  users : ∀ id, img.users id = usersIn edges id

theorem holds_clearLinks (img : Image) : img.clearLinks.Holds [] := by
  refine ⟨?_, ?_⟩
  · intro id
    simp only [Image.deps, node?, clearLinks, Array.getElem?_map]
    cases img.nodes[id]? <;> simp [Node.clear, Links.empty, depsIn]
  · intro id
    simp only [Image.users, node?, clearLinks, Array.getElem?_map]
    cases img.nodes[id]? <;> simp [Node.clear, Links.empty, usersIn]

/-- Both libraries of the edge have to be there, or else one of its ends is lost. -/
theorem holds_addEdge {img : Image} {edges : List Edge} (count : Nat) {user dep : LibId}
    (h : img.Holds edges) (huser : user < img.size) (hdep : dep < img.size) :
    (addEdge (img, count) (user, dep)).1.Holds (edges ++ [(user, dep)]) := by
  simp only [addEdge]
  split
  · rename_i hold
    have hmem : (user, dep) ∈ edges := by
      rw [← mem_depsIn, ← h.deps]
      simpa [addEdge?] using hold
    exact ⟨by simp [depsIn_concat, hmem, h.deps], by simp [usersIn_concat, hmem, h.users]⟩
  · rename_i img' hnew
    have hmem : (user, dep) ∉ edges := by
      rw [← mem_depsIn, ← h.deps]
      exact (node?_addEdge? hnew user).1
    refine ⟨?_, ?_⟩
    · intro id
      rw [depsIn_concat, ← h.deps]
      simp only [Image.deps, (node?_addEdge? hnew id).2]
      by_cases hu : user = id
      · subst hu
        obtain ⟨node, hnode⟩ := exists_node? huser
        simp only [hnode, hmem, true_and, not_false_eq_true, if_true, Option.map_some]
        split <;> simp [Node.addDep, Node.addUser]
      · by_cases hd : dep = id <;> simp [hu, hd, Node.addUser, Function.comp_def]
    · intro id
      rw [usersIn_concat, ← h.users]
      simp only [Image.users, (node?_addEdge? hnew id).2]
      by_cases hd : dep = id
      · subst hd
        obtain ⟨node, hnode⟩ := exists_node? hdep
        simp only [hnode, hmem, true_and, not_false_eq_true, if_true, Option.map_some]
        split <;> simp [Node.addDep, Node.addUser]
      · by_cases hu : user = id <;> simp [hu, hd, Node.addDep, Function.comp_def]

theorem holds_foldl_addEdge {img : Image} (edges : List Edge)
    (h : ∀ edge ∈ edges, edge.1 < img.size ∧ edge.2 < img.size) :
    (edges.foldl addEdge (img.clearLinks, 0)).1.Holds edges := by
  induction edges using List.reverseRecOn with
  | nil => exact holds_clearLinks img
  | append_singleton edges edge ih =>
    have hih := ih fun other hother => h other (List.mem_append_left _ hother)
    obtain ⟨huser, hdep⟩ := h edge (by simp)
    rw [List.foldl_append, List.foldl_cons, List.foldl_nil]
    have hsize : (edges.foldl addEdge (img.clearLinks, 0)).1.size = img.size :=
      size_of_clearLinks (by rw [clearLinks_foldl_addEdge, clearLinks_clearLinks])
    exact holds_addEdge _ hih (hsize ▸ huser) (hsize ▸ hdep)

/-! ## The edges that linking records -/

theorem found_foldr_lookUpName (img : Image) (id : LibId) (node : Node) (names : List String) :
    (names.foldr (img.lookUpName id node) .empty).found =
      (names.filterMap (img.target? node.group)).filter (· ≠ id) := by
  induction names with
  | nil => rfl
  | cons soname names ih =>
    rw [List.foldr_cons, lookUpName]
    rcases ht : img.target? node.group soname with _ | dep
    · simp [ht, ih]
    · by_cases hdep : dep = id
      · simp [ht, hdep, ih]
      · simp [ht, hdep, ih]

theorem found_lookups {img : Image} (h : Indexed img) (id : LibId) :
    ((img.lookups[id]?).map (·.found)).getD [] = foundBy img.libraries id := by
  have htarget : ∀ g, img.target? g = meant? img.libraries g := fun g =>
    funext fun soname => target?_eq_meant? h g soname
  have hnode : img.nodes.toList[id]? = img.node? id := by simp [node?]
  simp only [foundBy, getElem?_libraries, lookups, List.getElem?_mapIdx, hnode]
  cases img.node? id with
  | none => rfl
  | some node => simp [lookUp, found_foldr_lookUpName, htarget]

end Image

namespace Lookup

theorem edges_cons (lookup : Lookup) (lookups : List Lookup) (first : Nat) :
    edges (lookup :: lookups) first =
      lookup.found.map (first, ·) ++ edges lookups (first + 1) := by
  simp [edges, List.zipIdx_cons]

theorem first_le_of_mem_edges {lookups : List Lookup} {first user dep : Nat}
    (h : (user, dep) ∈ edges lookups first) : first ≤ user := by
  simp only [edges, List.mem_flatMap, List.mem_map] at h
  obtain ⟨⟨lookup, user⟩, hmem, dep, _, heq⟩ := h
  cases heq
  exact List.le_snd_of_mem_zipIdx hmem

theorem filter_edges (lookups : List Lookup) (first id : Nat) :
    ((edges lookups first).filter (·.1 = first + id)).map (·.2) =
      ((lookups[id]?).map (·.found)).getD [] := by
  induction lookups generalizing first id with
  | nil => simp [edges]
  | cons lookup lookups ih =>
    rw [edges_cons, List.filter_append, List.map_append]
    cases id with
    | zero =>
      have hrest : (edges lookups (first + 1)).filter (·.1 = first + 0) = [] := by
        rw [List.filter_eq_nil_iff]
        rintro ⟨user, dep⟩ hedge
        have := first_le_of_mem_edges hedge
        simp only [decide_eq_true_eq]
        omega
      rw [hrest]
      simp [List.filter_map, Function.comp_def]
    | succ id =>
      have hfirst : (lookup.found.map (first, ·)).filter (·.1 = first + (id + 1)) = [] := by
        simp [List.filter_map, Function.comp_def]
      rw [hfirst, show first + (id + 1) = first + 1 + id by omega, ih]
      simp

/-- The users of the edges come in order. -/
theorem pairwise_users_edges (lookups : List Lookup) (first : Nat) :
    ((edges lookups first).map (·.1)).Pairwise (· ≤ ·) := by
  induction lookups generalizing first with
  | nil => simp [edges]
  | cons lookup lookups ih =>
    rw [edges_cons, List.map_append, List.pairwise_append]
    refine ⟨?_, ih (first + 1), ?_⟩
    · simp
    · intro user huser other hother
      obtain ⟨⟨_, _⟩, hedge, rfl⟩ := List.mem_map.mp hother
      simp only [List.map_map, List.mem_map, Function.comp_apply] at huser
      obtain ⟨_, _, rfl⟩ := huser
      exact Nat.le_of_succ_le (first_le_of_mem_edges hedge)

end Lookup

namespace Image

theorem depsIn_wantedEdges {img : Image} (h : Indexed img) (id : LibId) :
    depsIn img.wantedEdges id = (foundBy img.libraries id).eraseDups := by
  have hclear := indexed_of_clearLinks h (clearLinks_clearLinks img)
  have hfilter := Lookup.filter_edges img.clearLinks.lookups 0 id
  rw [found_lookups hclear, libraries_clearLinks, Nat.zero_add] at hfilter
  rw [depsIn, wantedEdges, hfilter]

theorem mem_wantedEdges {img : Image} (h : Indexed img) (user dep : LibId) :
    (user, dep) ∈ img.wantedEdges ↔ dep ∈ foundBy img.libraries user := by
  rw [← mem_depsIn, depsIn_wantedEdges h, List.mem_eraseDups]

theorem usersIn_wantedEdges {img : Image} (h : Indexed img) (id : LibId) :
    usersIn img.wantedEdges id = img.ids.filter (id ∈ foundBy img.libraries ·) := by
  have hle : (usersIn img.wantedEdges id).Pairwise (· ≤ ·) := by
    apply List.Pairwise.sublist _ (Lookup.pairwise_users_edges img.clearLinks.lookups 0)
    exact (eraseDups_sublist _).trans (List.filter_sublist.map _)
  have hlt : (usersIn img.wantedEdges id).Pairwise (· < ·) :=
    hle.imp₂ (fun _ _ hle hne => Nat.lt_of_le_of_ne hle hne) (nodup_eraseDups _)
  apply List.Pairwise.eq_of_mem_iff hlt (List.pairwise_lt_range.filter _)
  intro user
  rw [mem_usersIn, mem_wantedEdges h, List.mem_filter, List.mem_range, decide_eq_true_eq,
    iff_and_self, ← length_libraries]
  exact fun hfound => (foundBy_lt hfound).1

/-- The looking up of symbols writes no edge. -/
theorem links_foldl_bindSymbol (img : Image) (fallback : Bool) (id : LibId) (node : Node)
    (symbols : List String) (links : Links) :
    (symbols.foldl (img.bindSymbol fallback id node) links).deps = links.deps ∧
      (symbols.foldl (img.bindSymbol fallback id node) links).users = links.users := by
  induction symbols generalizing links with
  | nil => exact ⟨rfl, rfl⟩
  | cons s symbols ih =>
    rw [List.foldl_cons, (ih _).1, (ih _).2, bindSymbol]
    split <;> exact ⟨rfl, rfl⟩

theorem node?_bindAll (img : Image) (fallback : Bool) (id : LibId) :
    (img.bindAll fallback).node? id = (img.node? id).map (img.bindSymbols fallback id) := by
  simp [node?, bindAll, boundNodes]

theorem holds_bindAll {img : Image} {edges : List Edge} (h : img.Holds edges) (fallback : Bool) :
    (img.bindAll fallback).Holds edges := by
  refine ⟨?_, ?_⟩
  · intro id
    rw [← h.deps, Image.deps, Image.deps, node?_bindAll]
    cases img.node? id with
    | none => rfl
    | some node => exact (links_foldl_bindSymbol img fallback id node _ _).1
  · intro id
    rw [← h.users, Image.users, Image.users, node?_bindAll]
    cases img.node? id with
    | none => rfl
    | some node => exact (links_foldl_bindSymbol img fallback id node _ _).2

theorem holds_link {img : Image} (h : Indexed img) (fallback : Bool) :
    (img.link fallback).image.Holds img.wantedEdges := by
  rw [image_link]
  apply holds_bindAll
  apply holds_foldl_addEdge
  rintro ⟨user, dep⟩ hedge
  rw [← length_libraries]
  exact foundBy_lt ((mem_wantedEdges h user dep).mp hedge)

/-! ## The edges of a linked image -/

theorem deps_link {img : Image} (h : Indexed img) (fallback : Bool) (id : LibId) :
    (img.link fallback).image.deps id = (foundBy img.libraries id).eraseDups := by
  rw [(holds_link h fallback).deps, depsIn_wantedEdges h]

theorem users_link {img : Image} (h : Indexed img) (fallback : Bool) (id : LibId) :
    (img.link fallback).image.users id = img.ids.filter (id ∈ foundBy img.libraries ·) := by
  rw [(holds_link h fallback).users, usersIn_wantedEdges h]

end Image

namespace Linker

/-- The edges after the linking that ends a run, told by the accepted libraries alone. -/
theorem deps_resolve {start : Linker} (h : Fresh start) (calls : List Call) (id : LibId) :
    (start.after calls).resolve.linker.image.deps id =
      (foundBy (start.accepted calls) id).eraseDups := by
  rw [← h.libraries_after calls]
  exact Image.deps_link ((Reachable.fresh h).after calls).indexed _ id

/-! ## The law -/

/-- A library needs what its names mean: each library once, where its first name stands,
without itself and without the names that mean nothing. Here a name means the library
in the default directory, or else the first one with this file name, in its own partition
and then in the other one, and always at its own word size. -/
theorem a_library_needs_what_its_names_mean {start : Linker} (h : Fresh start)
    (calls : List Call) :
    (start.after calls).resolve.linker.image.libraries = start.accepted calls ∧
      ∀ id lib, (start.accepted calls)[id]? = some lib →
        (start.after calls).resolve.linker.image.deps id =
          ((lib.elf.needed.filterMap (meant? (start.accepted calls) lib.group)).filter
            (· ≠ id)).eraseDups := by
  refine ⟨h.libraries_resolve calls, ?_⟩
  intro id lib hlib
  rw [deps_resolve h]
  simp only [foundBy, hlib]

theorem the_sample_needs_the_default_directory :
    Fresh .default ∧ (default.accepted sampleRun)[2]?.map (·.name) = some "libring.so" ∧
      (default.after sampleRun).resolve.linker.image.deps 2 = [1, 3] := by
  refine ⟨.default, by decide +kernel, ?_⟩
  have hlaw := (a_library_needs_what_its_names_mean .default sampleRun).2 2
    (sampleLib "libring.so" ["libring.so", "libm.so", "libc.so", "libm.so", "libend.so"]
      ["open"] ["cos", "open", "read"]) (by decide +kernel)
  rw [hlaw]
  decide +kernel

end Linker

end ImageTiers
