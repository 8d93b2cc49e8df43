-- Runs of a linker: libraries are added and the image is linked, in any
-- order. The laws: linking looks at nothing but the libraries, so a run is
-- known by the libraries that it took in.
import ImageTiers.Linker
import ImageTiers.Proofs.Tallies

namespace ImageTiers

/-! ## The libraries of an image -/

namespace Image

/-- The libraries of an image without their links, in the order they were added. -/
def libraries (img : Image) : List Library := img.nodes.toList.map (·.toLibrary)

@[simp] theorem length_libraries (img : Image) : img.libraries.length = img.size := by
  simp [libraries, size]

theorem getElem?_libraries (img : Image) (id : LibId) :
    img.libraries[id]? = (img.node? id).map (·.toLibrary) := by
  simp [libraries, node?]

theorem node?_of_libraries {img : Image} {id : LibId} {lib : Library}
    (h : img.libraries[id]? = some lib) :
    ∃ node, img.node? id = some node ∧ node.toLibrary = lib := by
  rw [getElem?_libraries, Option.map_eq_some_iff] at h
  exact h

theorem lt_size_of_node? {img : Image} {id : LibId} {node : Node}
    (h : img.node? id = some node) : id < img.size :=
  (Array.getElem?_eq_some_iff.mp h).1

theorem exists_node? {img : Image} {id : LibId} (h : id < img.size) :
    ∃ node, img.node? id = some node :=
  ⟨img.nodes[id], Array.getElem?_eq_getElem h⟩

@[simp] theorem libraries_empty : empty.libraries = [] := rfl

@[simp] theorem libraries_push (img : Image) (lib : Library) :
    (img.push lib).libraries = img.libraries ++ [lib] := by
  simp [libraries, push]

/-! ## What linking leaves alone -/

theorem libraries_clearLinks (img : Image) : img.clearLinks.libraries = img.libraries := by
  simp [libraries, clearLinks, Node.clear]

/-- Two images that differ in their links only hold the same libraries. -/
theorem libraries_of_clearLinks {img img' : Image} (h : img.clearLinks = img'.clearLinks) :
    img.libraries = img'.libraries := by
  rw [← libraries_clearLinks img, h, libraries_clearLinks]

theorem size_of_clearLinks {img img' : Image} (h : img.clearLinks = img'.clearLinks) :
    img.size = img'.size := by
  rw [← length_libraries, libraries_of_clearLinks h, length_libraries]

theorem byPath_of_clearLinks {img img' : Image} (h : img.clearLinks = img'.clearLinks) :
    img.byPath = img'.byPath := by
  simp only [clearLinks, mk.injEq] at h
  exact h.2.1

theorem buckets_of_clearLinks {img img' : Image} (h : img.clearLinks = img'.clearLinks) :
    img.buckets = img'.buckets := by
  simp only [clearLinks, mk.injEq] at h
  exact h.2.2

theorem clearLinks_clearLinks (img : Image) : img.clearLinks.clearLinks = img.clearLinks := by
  simp [clearLinks, Function.comp_def, Node.clear]

/-- A change of one node that the clearing undoes. -/
theorem map_clear_modify (nodes : Array Node) (i : Nat) (f : Node → Node)
    (h : ∀ node, (f node).clear = node.clear) :
    (nodes.modify i f).map Node.clear = nodes.map Node.clear := by
  apply Array.ext_getElem?
  intro j
  simp only [Array.getElem?_map, Array.getElem?_modify]
  split
  · simp [Function.comp_def, h]
  · rfl

theorem clearLinks_addEdge? {img img' : Image} {user dep : LibId}
    (h : img.addEdge? user dep = some img') : img'.clearLinks = img.clearLinks := by
  unfold addEdge? at h
  split at h
  · cases h
  · cases h
    simp only [clearLinks]
    rw [map_clear_modify _ dep (·.addUser user) fun _ => rfl,
      map_clear_modify _ user (·.addDep dep) fun _ => rfl]

theorem clearLinks_addEdge (s : Image × Nat) (edge : LibId × LibId) :
    (addEdge s edge).1.clearLinks = s.1.clearLinks := by
  obtain ⟨img, count⟩ := s
  obtain ⟨user, dep⟩ := edge
  simp only [addEdge]
  split
  · rfl
  · exact clearLinks_addEdge? ‹_›

theorem clearLinks_foldl_addEdge (edges : List (LibId × LibId)) (s : Image × Nat) :
    (edges.foldl addEdge s).1.clearLinks = s.1.clearLinks := by
  induction edges generalizing s with
  | nil => rfl
  | cons edge edges ih => rw [List.foldl_cons, ih, clearLinks_addEdge]

theorem clearLinks_bindAll (img : Image) (fallback : Bool) :
    (img.bindAll fallback).clearLinks = img.clearLinks := by
  simp only [clearLinks, bindAll, boundNodes]
  congr 1
  apply Array.ext_getElem?
  intro id
  simp only [Array.getElem?_map, Array.getElem?_mapIdx, Option.map_map]
  rfl

theorem clearLinks_link (img : Image) (fallback : Bool) :
    (img.link fallback).image.clearLinks = img.clearLinks := by
  rw [image_link, clearLinks_bindAll, edged, clearLinks_foldl_addEdge, clearLinks_clearLinks]

/-- Linking drops the old links before it looks at anything. -/
theorem link_of_clearLinks {img img' : Image} (h : img.clearLinks = img'.clearLinks)
    (fallback : Bool) : img.link fallback = img'.link fallback := by
  simp only [link, h, size_of_clearLinks h]

end Image

/-! ## Runs -/

/-- A call that may change a linker. -/
inductive Call
  | add (lib : Library)
  | resolve

namespace Linker

/-- The linker that the calls leave behind. -/
def after (l : Linker) : List Call → Linker
  | [] => l
  | .add lib :: calls => (l.add lib).linker.after calls
  | .resolve :: calls => l.resolve.linker.after calls

/-- The libraries that were added without an error. -/
def accepted (l : Linker) : List Call → List Library
  | [] => []
  | .add lib :: calls =>
    match l.add lib with
    | ⟨l, _, .ok _⟩ => lib :: l.accepted calls
    | ⟨l, _, .error _⟩ => l.accepted calls
  | .resolve :: calls => l.resolve.linker.accepted calls

/-- A linker as it is set up, with the default settings or with given ones. -/
inductive Fresh : Linker → Prop
  | default : Fresh .default
  | ofConfig {c : Config} {l : Linker} : Linker.ofConfig c = .ok l → Fresh l

/-- A linker that some run leads to. -/
inductive Reachable : Linker → Prop
  | fresh {l : Linker} : Fresh l → Reachable l
  | add {l : Linker} (lib : Library) : Reachable l → Reachable (l.add lib).linker
  | resolve {l : Linker} : Reachable l → Reachable l.resolve.linker

/-! ## A small run -/

/-- A system library in the default directory or below it. -/
def sampleLib (file : String) (needed exported imported : List String) : Library :=
  ⟨.system, "/system/lib64/" ++ file, ⟨.elf64, .lsb, needed, .ofList exported, .ofList imported⟩⟩

/-- Two libraries of one name, one refused, and two libraries that need each other. The
first of these two also needs itself, one library twice, and one that is not there. -/
def sampleRun : List Call :=
  [.add (sampleLib "hw/libm.so" [] ["cos"] []),
    .add (sampleLib "libm.so" [] ["cos", "sin"] []),
    .resolve,
    .add (sampleLib "libm.so" ["libc.so"] [] []),
    .add (sampleLib "libring.so" ["libring.so", "libm.so", "libc.so", "libm.so", "libend.so"]
      ["open"] ["cos", "open", "read"]),
    .add (sampleLib "libend.so" ["libring.so"] ["end"] ["end", "open", "sin"])]

/-! ## What one call does -/

theorem Fresh.image_eq {l : Linker} (h : Fresh l) : l.image = .empty := by
  cases h with
  | default => rfl
  | ofConfig h =>
    unfold Linker.ofConfig at h
    split at h
    · cases h
    · cases h
      rfl

/-- What one call of `add` does. -/
theorem add_cases (l : Linker) (lib : Library) :
    (lib.path ∈ l.image.byPath ∧ l.add lib = ⟨l, [], .error (.duplicatePath lib.path)⟩) ∨
    (lib.path ∉ l.image.byPath ∧
      l.add lib = ⟨{ l with image := l.image.push lib }, [.added lib.group lib.path],
        .ok l.image.size⟩) := by
  by_cases h : lib.path ∈ l.image.byPath
  · exact Or.inl ⟨h, by simp [add, Image.add?, h]⟩
  · exact Or.inr ⟨h, by simp [add, Image.add?, h]⟩

theorem libraries_after (l : Linker) (calls : List Call) :
    (l.after calls).image.libraries = l.image.libraries ++ l.accepted calls := by
  induction calls generalizing l with
  | nil => simp [after, accepted]
  | cons call calls ih =>
    cases call with
    | add lib =>
      rcases l.add_cases lib with ⟨_, ha⟩ | ⟨_, ha⟩
      · simp only [after, accepted, ha, ih]
      · simp only [after, accepted, ha, ih, Image.libraries_push, List.append_assoc,
          List.singleton_append]
    | resolve =>
      simp only [after, accepted, ih, resolve]
      rw [Image.libraries_of_clearLinks (Image.clearLinks_link _ _)]

/-- A run leaves the accepted libraries, in their order. -/
theorem Fresh.libraries_after {start : Linker} (h : Fresh start) (calls : List Call) :
    (start.after calls).image.libraries = start.accepted calls := by
  rw [Linker.libraries_after, h.image_eq, Image.libraries_empty, List.nil_append]

theorem Fresh.libraries_resolve {start : Linker} (h : Fresh start) (calls : List Call) :
    (start.after calls).resolve.linker.image.libraries = start.accepted calls := by
  rw [← h.libraries_after calls]
  exact Image.libraries_of_clearLinks (Image.clearLinks_link _ _)

/-- A run changes nothing but the image. -/
theorem after_eq (l : Linker) (calls : List Call) :
    l.after calls = { l with image := (l.after calls).image } := by
  induction calls generalizing l with
  | nil => rfl
  | cons call calls ih =>
    cases call with
    | add lib =>
      rcases l.add_cases lib with ⟨_, ha⟩ | ⟨_, ha⟩
      · rw [after, ih, ha]
      · rw [after, ih, ha]
    | resolve => rw [after, ih, resolve]

theorem config_after (l : Linker) (calls : List Call) : (l.after calls).config = l.config := by
  rw [after_eq]

theorem Reachable.after {l : Linker} (h : Reachable l) (calls : List Call) :
    Reachable (l.after calls) := by
  induction calls generalizing l with
  | nil => exact h
  | cons call calls ih =>
    cases call with
    | add lib => exact ih (h.add lib)
    | resolve => exact ih h.resolve

/-- What holds of the empty image, and is kept by each new library and by each linking,
holds of the image of every linker that a run leads to. -/
theorem Reachable.image_invariant {P : Image → Prop} (hempty : P .empty)
    (hpush : ∀ img lib, P img → lib.path ∉ img.byPath → P (img.push lib))
    (hlink : ∀ img fallback, P img → P (img.link fallback).image) {l : Linker}
    (h : Reachable l) : P l.image := by
  induction h with
  | fresh hf =>
    rw [hf.image_eq]
    exact hempty
  | @add l lib _ ih =>
    rcases l.add_cases lib with ⟨_, ha⟩ | ⟨hnew, ha⟩
    · rw [ha]
      exact ih
    · rw [ha]
      exact hpush _ lib ih hnew
  | resolve _ ih => exact hlink _ _ ih

/-! ## The law -/

/-- Two linkers that differ in their links only. -/
def SameButLinks (l l' : Linker) : Prop :=
  { l with image := l.image.clearLinks } = { l' with image := l'.image.clearLinks }

theorem sameButLinks_resolve (l : Linker) : SameButLinks l.resolve.linker l := by
  simp [SameButLinks, resolve, Image.clearLinks_link]

theorem resolve_of_sameButLinks {l l' : Linker} (h : SameButLinks l l') :
    l.resolve = l'.resolve := by
  cases l
  cases l'
  simp only [SameButLinks, mk.injEq] at h
  obtain ⟨rfl, rfl, rfl, himg⟩ := h
  simp only [resolve, Image.link_of_clearLinks himg]

theorem mem_byPath_of_sameButLinks {l l' : Linker} (h : SameButLinks l l') (path : String) :
    path ∈ l.image.byPath ↔ path ∈ l'.image.byPath := by
  simp only [SameButLinks, mk.injEq] at h
  rw [Image.byPath_of_clearLinks h.2.2.2]

/-- A library that both take in leaves them alike. -/
theorem sameButLinks_push {l l' : Linker} (h : SameButLinks l l') (lib : Library) :
    SameButLinks { l with image := l.image.push lib } { l' with image := l'.image.push lib } := by
  simp only [SameButLinks, mk.injEq] at h ⊢
  obtain ⟨hconfig, hndk, hrules, himg⟩ := h
  refine ⟨hconfig, hndk, hrules, ?_⟩
  have hsize := Image.size_of_clearLinks himg
  simp only [Image.clearLinks, Image.mk.injEq] at himg ⊢
  obtain ⟨hnodes, hpaths, hbuckets⟩ := himg
  simp only [Image.push, Array.map_push, hnodes, hpaths, hbuckets, hsize, and_self]

/-- After a run, and after the adding of just the libraries that it accepted, two
linkers that were alike are alike again, and none of the libraries is refused. -/
theorem sameButLinks_after {l l' : Linker} (h : SameButLinks l l') (calls : List Call) :
    SameButLinks (l.after calls) (l'.after ((l.accepted calls).map .add)) ∧
      l'.accepted ((l.accepted calls).map .add) = l.accepted calls := by
  induction calls generalizing l l' with
  | nil => exact ⟨h, rfl⟩
  | cons call calls ih =>
    cases call with
    | add lib =>
      rcases l.add_cases lib with ⟨_, ha⟩ | ⟨hm, ha⟩
      · simp only [after, accepted, ha]
        exact ih h
      · have hm' : lib.path ∉ l'.image.byPath := fun hc =>
          hm ((mem_byPath_of_sameButLinks h _).mpr hc)
        rcases l'.add_cases lib with ⟨hc, _⟩ | ⟨_, ha'⟩
        · exact absurd hc hm'
        · obtain ⟨hafter, hacc⟩ := ih (sameButLinks_push h lib)
          simp only [after, accepted, ha, ha', List.map_cons]
          exact ⟨hafter, by rw [hacc]⟩
    | resolve =>
      simp only [after, accepted]
      exact ih ((sameButLinks_resolve l).trans h)

/-- Linking forgets the history of the image. Whatever was added, refused and linked
before, the last linking leaves and returns what it would after the adding of just
the libraries that were accepted. So linking twice is the same as linking once. -/
theorem linking_sees_only_the_accepted_libraries (start : Linker) (calls : List Call) :
    (start.after calls).resolve = (start.after ((start.accepted calls).map .add)).resolve ∧
      start.accepted ((start.accepted calls).map .add) = start.accepted calls ∧
      ∀ l : Linker, l.resolve.linker.resolve = l.resolve := by
  obtain ⟨hafter, hacc⟩ := sameButLinks_after (rfl : SameButLinks start start) calls
  refine ⟨resolve_of_sameButLinks hafter, hacc, ?_⟩
  intro l
  exact resolve_of_sameButLinks (sameButLinks_resolve l)

end Linker

end ImageTiers
