-- Finding libraries. Libraries can be asked for one by one or many at once, and the loading
-- of many stops at the first that is refused. The laws: whatever was asked for, each library
-- that was taken in is found at its place, by its path, in its group and by its file name,
-- and nothing else is found.
import ImageTiers.Proofs.Index
import Mathlib.Data.List.TakeWhile

namespace ImageTiers

/-! ## File names -/

/-- The text `name` is what stands after the last slash of a path, or the whole path if it
has no slash. -/
def AfterLastSlash (path name : String) : Prop :=
  '/' ∉ name.toList ∧ (path = name ∨ ∃ dir, path = dir ++ "/" ++ name)

theorem fileName_eq_iff (path name : String) :
    fileName path = name ↔ AfterLastSlash path name := by
  constructor
  · rintro rfl
    have hfile : (fileName path).toList = (path.toList.reverse.takeWhile (· ≠ '/')).reverse := by
      rw [fileName, String.toList_ofList]
    refine ⟨?_, ?_⟩
    · intro hslash
      rw [hfile, List.mem_reverse] at hslash
      simpa using List.mem_takeWhile_imp hslash
    · -- The path backwards is its file name backwards, and then nothing or a slash.
      have hsplit := (List.takeWhile_append_dropWhile (p := (· ≠ '/'))
        (l := path.toList.reverse)).symm
      cases hrest : path.toList.reverse.dropWhile (· ≠ '/') with
      | nil =>
        left
        rw [hrest, List.append_nil] at hsplit
        rw [← String.toList_inj, hfile, ← hsplit, List.reverse_reverse]
      | cons c rest =>
        right
        have hc : c = '/' := by
          have hnot := List.head?_dropWhile_not (· ≠ '/') path.toList.reverse
          rw [hrest] at hnot
          simpa using hnot
        subst hc
        refine ⟨String.ofList rest.reverse, ?_⟩
        rw [hrest, ← List.reverse_inj, List.reverse_reverse, List.reverse_append, ← hfile] at hsplit
        rw [← String.toList_inj, hsplit]
        simp [String.toList_append]
  · rintro ⟨hslash, hpath⟩
    have hall : ∀ c ∈ name.toList.reverse, decide (c ≠ '/') = true := by
      intro c hc
      have hmem := List.mem_reverse.mp hc
      simpa using fun heq : c = '/' => hslash (heq ▸ hmem)
    rcases hpath with rfl | ⟨dir, rfl⟩
    · rw [fileName, List.takeWhile_eq_self_iff.mpr hall, List.reverse_reverse,
        String.ofList_toList]
    · have hlist : (dir ++ "/" ++ name).toList.reverse =
          name.toList.reverse ++ '/' :: dir.toList.reverse := by
        simp [String.toList_append]
      rw [fileName, hlist, List.takeWhile_append_of_pos hall]
      simp

namespace Image

variable {img : Image}

theorem find?_eq_none_iff (h : Indexed img) (path : String) :
    img.find? path = none ↔ ∀ lib ∈ img.libraries, lib.path ≠ path := by
  rw [h.find, List.findIdx?_eq_none_iff]
  simp only [decide_eq_false_iff_not, ne_eq]

theorem findIn?_eq_some_iff (h : Indexed img) (g : Group) (path : String) (id : LibId) :
    img.findIn? g path = some id ↔
      ∃ lib, img.libraries[id]? = some lib ∧ lib.group = g ∧ lib.path = path := by
  rw [h.findIn, findIdx?_eq_some_iff_of_nodup h.paths_nodup path (by simp)]
  simp only [Bool.and_eq_true, decide_eq_true_eq]

theorem mem_members (h : Indexed img) (g : Group) (id : LibId) :
    id ∈ (img.bucket g).members ↔ ∃ lib, img.libraries[id]? = some lib ∧ lib.group = g := by
  rw [← Array.mem_toList_iff, h.members, mem_findIdxs_iff]
  simp only [decide_eq_true_eq]

theorem mem_named (h : Indexed img) (g : Group) (name : String) (id : LibId) :
    id ∈ (img.bucket g).named name ↔
      ∃ lib, img.libraries[id]? = some lib ∧ lib.group = g ∧ lib.name = name := by
  rw [← Array.mem_toList_iff, h.named, mem_findIdxs_iff]
  simp only [Bool.and_eq_true, decide_eq_true_eq]

theorem mem_partitionIds (h : Indexed img) (p : Partition) (id : LibId) :
    id ∈ img.partitionIds p ↔ ∃ lib, img.libraries[id]? = some lib ∧ lib.partition = p := by
  have hgroup : ∀ lib : Library, lib.partition = p ↔ ∃ c ∈ ElfClass.all, lib.group = ⟨p, c⟩ := by
    intro lib
    simp only [Library.group, Group.mk.injEq]
    cases lib.elf.elfClass <;> simp [ElfClass.all]
  simp only [partitionIds, List.mem_flatMap, Array.mem_toList_iff, mem_members h, hgroup]
  tauto

theorem nodup_partitionIds (h : Indexed img) (p : Partition) : (img.partitionIds p).Nodup := by
  rw [partitionIds, List.nodup_flatMap]
  constructor
  · intro c _
    rw [h.members]
    exact List.pairwise_findIdxs.imp fun hlt => ne_of_lt hlt
  · have hall : ElfClass.all.Pairwise (· ≠ ·) := by decide
    refine hall.imp fun {c d} hne id hc hd => hne ?_
    obtain ⟨lib, hlib, hgroup⟩ := (mem_members h _ id).mp (Array.mem_toList_iff.mp hc)
    obtain ⟨other, hother, hgroup'⟩ := (mem_members h _ id).mp (Array.mem_toList_iff.mp hd)
    rw [hlib, Option.some.injEq] at hother
    rw [← hother, hgroup, Group.mk.injEq] at hgroup'
    exact hgroup'.2

/-- The libraries of the system and those of the vendor are all libraries, each once. -/
theorem partitionIds_perm (h : Indexed img) :
    (∀ id ∈ img.partitionIds .system, ∃ lib, img.libraries[id]? = some lib ∧ lib.isSystem) ∧
      (∀ id ∈ img.partitionIds .vendor, ∃ lib, img.libraries[id]? = some lib ∧ lib.isVendor) ∧
      (img.partitionIds .system ++ img.partitionIds .vendor).Perm img.ids := by
  refine ⟨?_, ?_, ?_⟩
  · intro id hid
    simpa [Library.isSystem] using (mem_partitionIds h _ id).mp hid
  · intro id hid
    simpa [Library.isVendor] using (mem_partitionIds h _ id).mp hid
  · rw [ids, List.perm_ext_iff_of_nodup _ List.nodup_range]
    · intro id
      rw [List.mem_append, mem_partitionIds h, mem_partitionIds h, List.mem_range,
        ← length_libraries]
      constructor
      · rintro (⟨lib, hlib, _⟩ | ⟨lib, hlib, _⟩)
        · exact (List.getElem?_eq_some_iff.mp hlib).1
        · exact (List.getElem?_eq_some_iff.mp hlib).1
      · intro hlt
        cases hpartition : img.libraries[id].partition with
        | system => exact .inl ⟨_, List.getElem?_eq_getElem hlt, hpartition⟩
        | vendor => exact .inr ⟨_, List.getElem?_eq_getElem hlt, hpartition⟩
    · refine (nodup_partitionIds h _).append (nodup_partitionIds h _) ?_
      intro id hsystem hvendor
      obtain ⟨lib, hlib, hpartition⟩ := (mem_partitionIds h _ id).mp hsystem
      obtain ⟨other, hother, hpartition'⟩ := (mem_partitionIds h _ id).mp hvendor
      rw [hlib, Option.some.injEq] at hother
      rw [← hother, hpartition] at hpartition'
      cases hpartition'

/-- Each library is counted in one group. -/
theorem countP_groups (libs : List Library) :
    libs.countP (·.group = ⟨.system, .elf32⟩) + libs.countP (·.group = ⟨.system, .elf64⟩) +
      libs.countP (·.group = ⟨.vendor, .elf32⟩) + libs.countP (·.group = ⟨.vendor, .elf64⟩) =
        libs.length := by
  induction libs with
  | nil => rfl
  | cons lib libs ih =>
    simp only [List.countP_cons, List.length_cons, ← ih]
    obtain ⟨p, c⟩ := lib.group
    cases p <;> cases c <;> simp <;> omega

theorem size_members (h : Indexed img) (g : Group) :
    (img.bucket g).members.size = img.libraries.countP (·.group = g) := by
  rw [← Array.length_toList, h.members, List.length_findIdxs]

/-- An image finds just the libraries of a list: each at its place, by its path, in its group
and by its file name. -/
structure Catalogues (img : Image) (libs : List Library) : Prop where
  size : img.size = libs.length
  places : ∀ id lib, libs[id]? = some lib ↔ ∃ links, img.node? id = some ⟨lib, links⟩
  paths_nodup : (libs.map (·.path)).Nodup
  find : ∀ path id, img.find? path = some id ↔ ∃ lib, libs[id]? = some lib ∧ lib.path = path
  find_none : ∀ path, img.find? path = none ↔ ∀ lib ∈ libs, lib.path ≠ path
  /-- A bucket lists its group in the order of the places. -/
  members : ∀ g, (img.bucket g).members.toList = libs.findIdxs (·.group = g)
  /-- Each library is in the bucket of its group and in no other one. -/
  group : ∀ id lib, libs[id]? = some lib →
    ∀ g, id ∈ (img.bucket g).members ↔ lib.group = g
  sizes : (img.bucket ⟨.system, .elf32⟩).members.size +
    (img.bucket ⟨.system, .elf64⟩).members.size + (img.bucket ⟨.vendor, .elf32⟩).members.size +
    (img.bucket ⟨.vendor, .elf64⟩).members.size = img.size
  findIn : ∀ g path id, img.findIn? g path = some id ↔
    id ∈ (img.bucket g).members ∧ ∃ lib, libs[id]? = some lib ∧ lib.path = path
  named : ∀ g name id, id ∈ (img.bucket g).named name ↔
    id ∈ (img.bucket g).members ∧ ∃ lib, libs[id]? = some lib ∧ AfterLastSlash lib.path name
  /-- The libraries of one file name come in the order of their places, each once. -/
  named_order : ∀ g name, ((img.bucket g).named name).toList.Pairwise (· < ·)

theorem Indexed.catalogues (h : Indexed img) : img.Catalogues img.libraries := by
  refine ⟨(length_libraries img).symm, ?_, h.paths_nodup, find?_eq_some_iff h,
    find?_eq_none_iff h, h.members, ?_, ?_, ?_, ?_, ?_⟩
  · intro id lib
    rw [getElem?_libraries, Option.map_eq_some_iff]
    constructor
    · rintro ⟨⟨lib, links⟩, hnode, rfl⟩
      exact ⟨links, hnode⟩
    · rintro ⟨links, hnode⟩
      exact ⟨_, hnode, rfl⟩
  · intro id lib hlib g
    rw [mem_members h, hlib]
    simp only [Option.some.injEq, exists_eq_left']
  · simp only [size_members h, countP_groups, length_libraries]
  · intro g path id
    rw [findIn?_eq_some_iff h, mem_members h]
    cases img.libraries[id]? <;> simp
  · intro g name id
    rw [mem_named h, mem_members h]
    simp only [← fileName_eq_iff, Library.name]
    cases img.libraries[id]? <;> simp
  · intro g name
    rw [h.named]
    exact List.pairwise_findIdxs

end Image

namespace Linker

variable {l : Linker} (h : Reachable l) {path : String}

include h

theorem Reachable.require_eq_ok_iff {id : LibId} :
    l.require path = .ok id ↔ ∃ lib, l.image.libraries[id]? = some lib ∧ lib.path = path := by
  rw [← Image.find?_eq_some_iff h.indexed, require]
  cases l.image.find? path <;> simp

theorem Reachable.require_eq_error_iff {e : LinkError} :
    l.require path = .error e ↔
      e = .unknownPath path ∧ ∀ lib ∈ l.image.libraries, lib.path ≠ path := by
  rw [← Image.find?_eq_none_iff h.indexed, require]
  cases l.image.find? path <;> simp [eq_comm]

end Linker

/-! ## Requests -/

/-- What can be asked of a linker: a call, or the adding of many libraries. -/
inductive Request
  | call (c : Call)
  | load (libs : List Library)

namespace Linker

/-- The libraries that a loading adds: all before the first one that is refused. -/
def loaded (l : Linker) : List Library → List Library
  | [] => []
  | lib :: libs =>
    match l.add lib with
    | ⟨l, _, .ok _⟩ => lib :: l.loaded libs
    | ⟨_, _, .error _⟩ => []

/-- The linker that the requests leave behind. -/
def served (l : Linker) : List Request → Linker
  | [] => l
  | .call c :: requests => (l.after [c]).served requests
  | .load libs :: requests => (l.load libs).linker.served requests

/-- The libraries that were added without an error, one by one or by a loading. -/
def admitted (l : Linker) : List Request → List Library
  | [] => []
  | .call c :: requests => l.accepted [c] ++ (l.after [c]).admitted requests
  | .load libs :: requests => l.loaded libs ++ (l.load libs).linker.admitted requests

/-- A loading is the adding of the libraries that it adds, of which none is refused. -/
theorem load_eq_after (l : Linker) (libs : List Library) :
    (l.load libs).linker = l.after ((l.loaded libs).map .add) ∧
      l.accepted ((l.loaded libs).map .add) = l.loaded libs := by
  induction libs generalizing l with
  | nil => exact ⟨rfl, rfl⟩
  | cons lib libs ih =>
    rcases l.add_cases lib with ⟨_, ha⟩ | ⟨_, ha⟩
    · simp only [load, loaded, ha]
      exact ⟨rfl, rfl⟩
    · simp only [load, loaded, ha, List.map_cons, Linker.after, accepted, List.cons.injEq, true_and]
      exact ih _

theorem Reachable.linker_load {l : Linker} (h : Reachable l) (libs : List Library) :
    Reachable (l.load libs).linker := by
  rw [(l.load_eq_after libs).1]
  exact h.after _

theorem Reachable.served {l : Linker} (h : Reachable l) (requests : List Request) :
    Reachable (l.served requests) := by
  induction requests generalizing l with
  | nil => exact h
  | cons request requests ih =>
    cases request with
    | call c => exact ih (h.after [c])
    | load libs => exact ih (h.linker_load libs)

theorem libraries_served (l : Linker) (requests : List Request) :
    (l.served requests).image.libraries = l.image.libraries ++ l.admitted requests := by
  induction requests generalizing l with
  | nil => simp [served, admitted]
  | cons request requests ih =>
    cases request with
    | call c => rw [served, admitted, ih, libraries_after, List.append_assoc]
    | load libs =>
      obtain ⟨hafter, haccepted⟩ := l.load_eq_after libs
      rw [served, admitted, ih, hafter, libraries_after, haccepted, List.append_assoc]

theorem Fresh.libraries_served {start : Linker} (h : Fresh start) (requests : List Request) :
    (start.served requests).image.libraries = start.admitted requests := by
  rw [Linker.libraries_served, h.image_eq, Image.libraries_empty, List.nil_append]

/-! ## The law -/

/-- Each library is found by all that is known of it. Whatever was added, refused, loaded and
linked: the libraries that were taken in stand in their order, each at the place that its
adding told. No two have one path, and a path finds the library that has it. Each is in
the bucket of its group and in no other, the buckets list all of them in order, and within
a bucket they are found by their paths and by what stands after the last slash. -/
theorem each_library_is_found_by_all_that_is_known_of_it {start : Linker} (h : Fresh start)
    (requests : List Request) :
    (start.served requests).image.Catalogues (start.admitted requests) ∧
      ∀ lib id, ((start.served requests).add lib).outcome = .ok id →
        id = (start.admitted requests).length := by
  have hindexed := ((Reachable.fresh h).served requests).indexed
  have hlibs := h.libraries_served requests
  refine ⟨hlibs ▸ hindexed.catalogues, ?_⟩
  intro lib id hid
  rcases (start.served requests).add_cases lib with ⟨_, ha⟩ | ⟨_, ha⟩
  · rw [ha] at hid
    cases hid
  · rw [ha] at hid
    cases hid
    rw [← hlibs, Image.length_libraries]

/-- The sample run, and then a loading that stops at the second library. -/
def sampleRequests : List Request :=
  sampleRun.map .call ++
    [.load [⟨.vendor, "libm.so", ⟨.elf64, .lsb, [], ∅, ∅⟩⟩, sampleLib "libend.so" [] [] [],
      sampleLib "libnew.so" [] [] []], .call .resolve]

theorem the_libraries_of_one_name_are_found_in_their_groups :
    Fresh .default ∧ (default.admitted sampleRequests).length = 5 ∧
      (default.served sampleRequests).image.find? "libm.so" = some 4 ∧
      (default.served sampleRequests).image.find? "/system/lib64/libnew.so" = none ∧
      4 ∈ ((default.served sampleRequests).image.bucket ⟨.vendor, .elf64⟩).named "libm.so" ∧
      0 ∈ ((default.served sampleRequests).image.bucket ⟨.system, .elf64⟩).named "libm.so" := by
  have hlaw := (each_library_is_found_by_all_that_is_known_of_it .default sampleRequests).1
  have hlast : (default.admitted sampleRequests)[4]? =
      some ⟨.vendor, "libm.so", ⟨.elf64, .lsb, [], ∅, ∅⟩⟩ := by decide +kernel
  have hfirst : (default.admitted sampleRequests)[0]? =
      some (sampleLib "hw/libm.so" [] ["cos"] []) := by decide +kernel
  refine ⟨.default, by decide +kernel, ?_, ?_, ?_, ?_⟩
  · exact (hlaw.find "libm.so" 4).mpr ⟨_, hlast, rfl⟩
  · rw [hlaw.find_none]
    decide +kernel
  · rw [hlaw.named]
    exact ⟨(hlaw.group 4 _ hlast _).mpr rfl, _, hlast, by decide, .inl rfl⟩
  · rw [hlaw.named]
    exact ⟨(hlaw.group 0 _ hfirst _).mpr rfl, _, hfirst, by decide, .inr ⟨"/system/lib64/hw", rfl⟩⟩

end Linker

end ImageTiers
