-- The indices of an image: the path index, and the four buckets with their
-- members, paths and file names. They are built up one library at a time. The
-- laws: after any run each of them is a search of the plain list of libraries.
import ImageTiers.Proofs.Runs
import Mathlib.Data.List.Sort

namespace ImageTiers

/-! ## Libraries by path -/

/-- Where no two libraries have one path, a path has one place. -/
theorem place_eq_of_path_eq {libs : List Library} (hpaths : (libs.map (·.path)).Nodup)
    {a b : LibId} {x y : Library} (ha : libs[a]? = some x) (hb : libs[b]? = some y)
    (hpath : x.path = y.path) : a = b := by
  have hpa : (libs.map (·.path))[a]? = some x.path := by rw [List.getElem?_map, ha, Option.map_some]
  have hpb : (libs.map (·.path))[b]? = some y.path := by rw [List.getElem?_map, hb, Option.map_some]
  rw [← hpath, ← hpa] at hpb
  exact ((List.getElem?_inj (List.getElem?_eq_some_iff.mp hpa).1 hpaths).mp hpb.symm)

/-- Where no two libraries have one path, a search for one path finds the only one there is. -/
theorem findIdx?_eq_some_iff_of_nodup {libs : List Library}
    (hpaths : (libs.map (·.path)).Nodup) {p : Library → Bool} (path : String)
    (hp : ∀ lib, p lib = true → lib.path = path) (id : LibId) :
    libs.findIdx? p = some id ↔ ∃ lib, libs[id]? = some lib ∧ p lib = true := by
  have hfound : ∀ id : LibId, libs.findIdx? p = some id →
      ∃ lib, libs[id]? = some lib ∧ p lib = true := by
    intro id hid
    obtain ⟨hlt, hlib, _⟩ := List.findIdx?_eq_some_iff_getElem.mp hid
    exact ⟨libs[id], List.getElem?_eq_getElem hlt, hlib⟩
  refine ⟨hfound id, ?_⟩
  rintro ⟨lib, hlib, hplib⟩
  cases hfirst : libs.findIdx? p with
  | none =>
    have hnot := List.findIdx?_eq_none_iff.mp hfirst lib (List.mem_of_getElem? hlib)
    rw [hplib] at hnot
    cases hnot
  | some first =>
    obtain ⟨other, hother, hpother⟩ := hfound first hfirst
    rw [place_eq_of_path_eq hpaths hother hlib ((hp other hpother).trans (hp lib hplib).symm)]

/-! ## One more library in a bucket -/

namespace Bucket

theorem find?_add (b : Bucket) (path : String) (id : LibId) (other : String) :
    (b.add path id).find? other = if path = other then some id else b.find? other := by
  simp [add, find?, Std.ExtTreeMap.getElem?_insert]

theorem named_add (b : Bucket) (path : String) (id : LibId) (name : String) :
    (b.add path id).named name =
      if fileName path = name then (b.named name).push id else b.named name := by
  simp only [add, named, Std.ExtTreeMap.getD_insert, Std.LawfulEqCmp.compare_eq_iff_eq]
  split
  · rename_i h
    rw [h]
  · rfl

end Bucket

namespace Image

theorem bucket_push (img : Image) (lib : Library) (g : Group) :
    (img.push lib).bucket g =
      if lib.group = g then (img.bucket g).add lib.path img.size else img.bucket g := by
  simp only [push, bucket, Buckets.get_modify]
  split
  · rename_i h
    rw [h]
  · rfl

theorem find?_push (img : Image) (lib : Library) (path : String) :
    (img.push lib).find? path = if lib.path = path then some img.size else img.find? path := by
  simp [push, find?, Std.ExtTreeMap.getElem?_insert]

/-! ## The invariant of the indices -/

/-- The libraries of an image alone tell what its indices hold. -/
structure Indexed (img : Image) : Prop where
  paths_nodup : (img.libraries.map (·.path)).Nodup
  find : ∀ path, img.find? path = img.libraries.findIdx? (·.path = path)
  findIn : ∀ g path,
    img.findIn? g path = img.libraries.findIdx? fun lib => lib.group = g && lib.path = path
  members : ∀ g, (img.bucket g).members.toList = img.libraries.findIdxs (·.group = g)
  named : ∀ g name, ((img.bucket g).named name).toList =
    img.libraries.findIdxs fun lib => lib.group = g && lib.name = name

theorem indexed_empty : Indexed empty := by
  have hbucket : ∀ g, empty.bucket g = .empty := by
    intro g
    obtain ⟨p, c⟩ := g
    cases p <;> cases c <;> rfl
  refine ⟨by simp, ?_, ?_, ?_, ?_⟩
  · intro path
    simp [empty, find?, libraries]
  · intro g path
    simp [findIn?, hbucket, Bucket.empty, Bucket.find?]
  · intro g
    simp [hbucket, Bucket.empty]
  · intro g name
    simp [hbucket, Bucket.empty, Bucket.named]

/-- A path that the path index does not hold belongs to no library. -/
theorem path_ne_of_not_mem {img : Image} (h : Indexed img) {path : String}
    (hnew : path ∉ img.byPath) : ∀ lib ∈ img.libraries, lib.path ≠ path := by
  have hnone : img.find? path = none := by simpa [find?] using hnew
  rw [h.find, List.findIdx?_eq_none_iff] at hnone
  intro lib hlib
  simpa using hnone lib hlib

theorem mem_byPath_iff {img : Image} (h : Indexed img) (path : String) :
    path ∈ img.byPath ↔ path ∈ img.libraries.map (·.path) := by
  constructor
  · intro hmem
    obtain ⟨id, hid⟩ : ∃ id, img.find? path = some id := by
      rw [← Option.isSome_iff_exists]
      exact Std.ExtTreeMap.isSome_getElem?_iff_mem.mpr hmem
    rw [h.find, List.findIdx?_eq_some_iff_getElem] at hid
    obtain ⟨hlt, hpath, _⟩ := hid
    exact List.mem_map.mpr ⟨_, List.getElem_mem hlt, by simpa using hpath⟩
  · intro hmem
    by_contra hnot
    obtain ⟨lib, hlib, rfl⟩ := List.mem_map.mp hmem
    exact path_ne_of_not_mem h hnot lib hlib rfl

theorem find?_eq_some_iff {img : Image} (h : Indexed img) (path : String) (id : LibId) :
    img.find? path = some id ↔ ∃ lib, img.libraries[id]? = some lib ∧ lib.path = path := by
  rw [h.find, findIdx?_eq_some_iff_of_nodup h.paths_nodup path (by simp)]
  simp only [decide_eq_true_eq]

/-- The path index finds each library by its path. -/
theorem find?_path {img : Image} (h : Indexed img) {id : LibId} {node : Node}
    (hnode : img.node? id = some node) : img.find? node.path = some id := by
  apply (find?_eq_some_iff h node.path id).mpr
  exact ⟨node.toLibrary, by rw [getElem?_libraries, hnode, Option.map_some], rfl⟩

theorem indexed_push {img : Image} (h : Indexed img) (lib : Library)
    (hnew : lib.path ∉ img.byPath) : Indexed (img.push lib) := by
  have hother := path_ne_of_not_mem h hnew
  refine ⟨?_, ?_, ?_, ?_, ?_⟩
  · rw [libraries_push, List.map_append, List.nodup_append]
    refine ⟨h.paths_nodup, by simp, ?_⟩
    intro a ha b hb
    obtain ⟨other, hmem, rfl⟩ := List.mem_map.mp ha
    simp only [List.map_cons, List.map_nil, List.mem_singleton] at hb
    exact hb ▸ hother other hmem
  · intro path
    rw [find?_push, libraries_push, List.findIdx?_append, ← h.find]
    by_cases hp : lib.path = path
    · subst hp
      have hnone : img.find? lib.path = none := by simpa [find?] using hnew
      simp [hnone]
    · simp [hp]
  · intro g path
    have hin := h.findIn g path
    unfold findIn? at hin ⊢
    rw [bucket_push, libraries_push, List.findIdx?_append, ← hin]
    by_cases hg : lib.group = g
    · by_cases hp : lib.path = path
      · subst hp
        have hnone : (img.bucket g).find? lib.path = none := by
          rw [hin, List.findIdx?_eq_none_iff]
          intro other hmem
          simp [hother other hmem]
        simp [hg, hnone, Bucket.find?_add]
      · simp [hg, hp, Bucket.find?_add]
    · simp [hg]
  · intro g
    rw [bucket_push, libraries_push, List.findIdxs_append, ← h.members g]
    by_cases hg : lib.group = g
    · simp [hg, Bucket.add]
    · simp [hg]
  · intro g name
    rw [bucket_push, libraries_push, List.findIdxs_append, ← h.named g name]
    by_cases hg : lib.group = g
    · simp only [hg, if_true, Bucket.named_add, Library.name]
      by_cases hn : fileName lib.path = name
      · simp [hg, hn]
      · simp [hg, hn]
    · simp [hg]

theorem indexed_of_clearLinks {img img' : Image} (h : Indexed img)
    (hc : img'.clearLinks = img.clearLinks) : Indexed img' := by
  obtain ⟨hnodup, hfind, hfindIn, hmembers, hnamed⟩ := h
  rw [← libraries_of_clearLinks hc] at hnodup hfind hfindIn hmembers hnamed
  unfold find? findIn? bucket at *
  rw [← byPath_of_clearLinks hc] at hfind
  rw [← buckets_of_clearLinks hc] at hfindIn hmembers hnamed
  exact ⟨hnodup, hfind, hfindIn, hmembers, hnamed⟩

end Image

/-- Every run keeps the indices in order. -/
theorem Linker.Reachable.indexed {l : Linker} (h : Reachable l) : l.image.Indexed := by
  apply h.image_invariant Image.indexed_empty
  · intro img lib himg hnew
    exact Image.indexed_push himg lib hnew
  · intro img fallback himg
    exact Image.indexed_of_clearLinks himg (Image.clearLinks_link img fallback)

/-! ## What a name means -/

/-- The library of the group `g` that the name `soname` is meant for: the one in the
default directory, or else the first one with that file name. -/
def meantIn? (libs : List Library) (g : Group) (soname : String) : Option LibId :=
  (libs.findIdx? fun lib => lib.group = g && lib.path = g.directory ++ soname).or
    (libs.findIdx? fun lib => lib.group = g && lib.name = soname)

/-- The library that a library of the group `g` means by `soname`: one of its own
partition, or else one of the other partition. -/
def meant? (libs : List Library) (g : Group) (soname : String) : Option LibId :=
  (meantIn? libs g soname).or (meantIn? libs ⟨g.partition.other, g.elfClass⟩ soname)

theorem mem_findIdxs_iff {libs : List Library} {p : Library → Bool} {id : LibId} :
    id ∈ libs.findIdxs p ↔ ∃ lib, libs[id]? = some lib ∧ p lib = true := by
  rw [List.mem_findIdxs_iff_exists_getElem_pos]
  constructor
  · rintro ⟨hlt, hp⟩
    exact ⟨libs[id], List.getElem?_eq_getElem hlt, hp⟩
  · rintro ⟨lib, hlib, hp⟩
    obtain ⟨hlt, rfl⟩ := List.getElem?_eq_some_iff.mp hlib
    exact ⟨hlt, hp⟩

theorem getElem?_zero_findIdxs (libs : List Library) (p : Library → Bool) :
    (libs.findIdxs p)[0]? = libs.findIdx? p := by
  induction libs with
  | nil => rfl
  | cons lib libs ih =>
    rw [List.findIdxs_cons, List.findIdx?_cons]
    split
    · rfl
    · rw [List.findIdxs_start, List.getElem?_map, ih]

namespace Image

theorem target?_eq_meant? {img : Image} (h : Indexed img) (g : Group) (soname : String) :
    img.target? g soname = meant? img.libraries g soname := by
  have hlocate : ∀ g, img.locate? g soname = meantIn? img.libraries g soname := by
    intro g
    unfold locate? meantIn?
    rw [h.findIn, ← getElem?_zero_findIdxs _ fun lib => lib.group = g && lib.name = soname,
      ← h.named, Array.getElem?_toList]
  simp only [target?, meant?, hlocate]

end Image

theorem meantIn?_group {libs : List Library} {g : Group} {soname : String} {id : LibId}
    (h : meantIn? libs g soname = some id) : ∃ lib, libs[id]? = some lib ∧ lib.group = g := by
  unfold meantIn? at h
  rw [Option.or_eq_some_iff] at h
  rcases h with h | ⟨_, h⟩
  all_goals
    obtain ⟨hlt, hp, _⟩ := List.findIdx?_eq_some_iff_getElem.mp h
    simp only [Bool.and_eq_true, decide_eq_true_eq] at hp
    exact ⟨libs[id], List.getElem?_eq_getElem hlt, hp.1⟩

/-- A name never means a library of the other word size. -/
theorem meant?_class {libs : List Library} {g : Group} {soname : String} {id : LibId}
    (h : meant? libs g soname = some id) :
    ∃ lib, libs[id]? = some lib ∧ lib.elf.elfClass = g.elfClass := by
  unfold meant? at h
  rw [Option.or_eq_some_iff] at h
  rcases h with h | ⟨_, h⟩
  · obtain ⟨lib, hlib, rfl⟩ := meantIn?_group h
    exact ⟨lib, hlib, rfl⟩
  · obtain ⟨lib, hlib, hg⟩ := meantIn?_group h
    exact ⟨lib, hlib, congrArg Group.elfClass hg⟩

/-- The libraries that the library at `id` means by the names it needs, with
repeats, but without itself. -/
def foundBy (libs : List Library) (id : LibId) : List LibId :=
  match libs[id]? with
  | none => []
  | some lib => (lib.elf.needed.filterMap (meant? libs lib.group)).filter (· ≠ id)

/-- What a library finds by the names it needs is another library of its word size. -/
theorem foundBy_cases {libs : List Library} {user dep : LibId} (h : dep ∈ foundBy libs user) :
    dep ≠ user ∧ ∃ ulib dlib, libs[user]? = some ulib ∧ libs[dep]? = some dlib ∧
      dlib.elf.elfClass = ulib.elf.elfClass := by
  unfold foundBy at h
  split at h
  · simp at h
  · rename_i ulib hulib
    simp only [List.mem_filter, List.mem_filterMap, decide_eq_true_eq] at h
    obtain ⟨⟨soname, _, hmeant⟩, hne⟩ := h
    obtain ⟨dlib, hdlib, hclass⟩ := meant?_class hmeant
    exact ⟨hne, ulib, dlib, hulib, hdlib, hclass⟩

theorem foundBy_lt {libs : List Library} {user dep : LibId} (h : dep ∈ foundBy libs user) :
    user < libs.length ∧ dep < libs.length := by
  obtain ⟨_, ulib, dlib, hulib, hdlib, _⟩ := foundBy_cases h
  exact ⟨(List.getElem?_eq_some_iff.mp hulib).1, (List.getElem?_eq_some_iff.mp hdlib).1⟩

end ImageTiers
