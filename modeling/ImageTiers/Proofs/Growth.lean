-- Images that grow. Libraries are added to a linked image, and it is linked again. The
-- laws: a name that meant a library still means one, and it means the same one unless a new
-- library answers to it; and while a library needs what it needed before, its symbols stay
-- where they are.
import ImageTiers.Proofs.Loading
import Mathlib.Data.List.Find

namespace ImageTiers

/-! ## Names -/

/-- The library is of the word size `c`, and it has the file name `soname` or sits under this
name in the default directory of a partition. -/
def Library.AnswersTo (lib : Library) (c : ElfClass) (soname : String) : Prop :=
  lib.elf.elfClass = c ∧
    (lib.name = soname ∨ ∃ p : Partition, lib.path = (Group.mk p c).directory ++ soname)

section

variable (libs more : List Library)

/-- What was found first is found first, whatever comes after it. -/
theorem findIdx?_append_of_some {p : Library → Bool} {id : LibId}
    (h : libs.findIdx? p = some id) : (libs ++ more).findIdx? p = some id := by
  rw [List.findIdx?_append, h, Option.some_or]

theorem findIdx?_append_of_not {p : Library → Bool} (h : ∀ lib ∈ more, p lib = false) :
    (libs ++ more).findIdx? p = libs.findIdx? p := by
  rw [List.findIdx?_append, List.findIdx?_eq_none_iff.mpr h, Option.map_none, Option.or_none]

theorem isSome_meantIn?_append {g : Group} {soname : String}
    (h : (meantIn? libs g soname).isSome) : (meantIn? (libs ++ more) g soname).isSome := by
  rw [meantIn?, Option.isSome_or, Bool.or_eq_true] at h ⊢
  rcases h with h | h
  · obtain ⟨id, hid⟩ := Option.isSome_iff_exists.mp h
    exact Or.inl (by rw [findIdx?_append_of_some libs more hid, Option.isSome_some])
  · obtain ⟨id, hid⟩ := Option.isSome_iff_exists.mp h
    exact Or.inr (by rw [findIdx?_append_of_some libs more hid, Option.isSome_some])

theorem meantIn?_append {g : Group} {soname : String}
    (h : ∀ lib ∈ more, ¬ lib.AnswersTo g.elfClass soname) :
    meantIn? (libs ++ more) g soname = meantIn? libs g soname := by
  have hclass : ∀ lib : Library, lib.group = g → lib.elf.elfClass = g.elfClass := fun lib hlib =>
    congrArg Group.elfClass hlib
  rw [meantIn?, meantIn?, findIdx?_append_of_not, findIdx?_append_of_not]
  · intro lib hlib
    rw [Bool.eq_false_iff, ne_eq, Bool.and_eq_true, decide_eq_true_eq, decide_eq_true_eq]
    rintro ⟨hg, hname⟩
    exact h lib hlib ⟨hclass lib hg, Or.inl hname⟩
  · intro lib hlib
    rw [Bool.eq_false_iff, ne_eq, Bool.and_eq_true, decide_eq_true_eq, decide_eq_true_eq]
    rintro ⟨hg, hpath⟩
    exact h lib hlib ⟨hclass lib hg, Or.inr ⟨g.partition, hpath⟩⟩

theorem isSome_meant?_append {g : Group} {soname : String}
    (h : (meant? libs g soname).isSome) : (meant? (libs ++ more) g soname).isSome := by
  rw [meant?, Option.isSome_or, Bool.or_eq_true] at h ⊢
  exact h.imp (isSome_meantIn?_append libs more) (isSome_meantIn?_append libs more)

theorem meant?_append {g : Group} {soname : String}
    (h : ∀ lib ∈ more, ¬ lib.AnswersTo g.elfClass soname) :
    meant? (libs ++ more) g soname = meant? libs g soname := by
  rw [meant?, meant?, meantIn?_append libs more h,
    meantIn?_append libs more (g := ⟨g.partition.other, g.elfClass⟩) h]

/-- A name that means a library means one among more libraries, and another one only if one
of the new libraries answers to it. -/
theorem meant?_append_cases {g : Group} {soname : String} {dep : LibId}
    (h : meant? libs g soname = some dep) :
    ∃ dep', meant? (libs ++ more) g soname = some dep' ∧
      (dep' = dep ∨ ∃ lib ∈ more, lib.AnswersTo g.elfClass soname) := by
  have hsome : (meant? (libs ++ more) g soname).isSome :=
    isSome_meant?_append libs more (by rw [h, Option.isSome_some])
  obtain ⟨dep', hdep'⟩ := Option.isSome_iff_exists.mp hsome
  refine ⟨dep', hdep', ?_⟩
  by_cases hnew : ∃ lib ∈ more, lib.AnswersTo g.elfClass soname
  · exact Or.inr hnew
  · have hsame : meant? (libs ++ more) g soname = meant? libs g soname :=
      meant?_append libs more fun lib hlib hanswers => hnew ⟨lib, hlib, hanswers⟩
    rw [hdep', h] at hsame
    exact Or.inl (Option.some.inj hsame)

/-! ## Symbols -/

theorem exportsAt_append {id : LibId} (h : id < libs.length) (s : String) :
    exportsAt (libs ++ more) s id = exportsAt libs s id := by
  rw [exportsAt, exportsAt, List.getElem?_append_left h]

/-- Among more libraries a symbol keeps its provider. One that had none can only find one
among the new libraries, and only with the fallback. -/
theorem exporter?_append {fallback : Bool} {id : LibId} {g : Group} {deps : List LibId}
    (hdeps : ∀ dep ∈ deps, dep < libs.length) (s : String) :
    exporter? (libs ++ more) fallback id g deps s =
      (exporter? libs fallback id g deps s).or
        (if fallback then
          (more.findIdxs (fun lib => lib.group = g && lib.elf.exports s) libs.length).find? (· ≠ id)
         else none) := by
  have hfind : deps.find? (exportsAt (libs ++ more) s) = deps.find? (exportsAt libs s) :=
    List.find?_congr fun dep hdep => exportsAt_append libs more (hdeps dep hdep) s
  rw [exporter?, exporter?, hfind]
  cases fallback with
  | false => simp
  | true =>
    rw [List.findIdxs_append, List.find?_append, Nat.zero_add]
    simp only [if_true, Option.or_assoc]

end

/-- While a library needs what it needed before, its symbols keep their providers, and those
that find one now find it among the new libraries. -/
theorem Links.Bound.providers_append {libs more : List Library} {fallback : Bool} {id : LibId}
    {lib : Library} {links links' : Links} (h : links.Bound libs fallback id lib)
    (h' : links'.Bound (libs ++ more) fallback id lib) (hdeps : links'.deps = links.deps)
    (hlt : ∀ dep ∈ links.deps, dep < libs.length) (s : String) (provider : LibId) :
    (links.providers[s]? = some provider → links'.providers[s]? = some provider) ∧
      (links.providers[s]? = none → links'.providers[s]? = some provider →
        ∃ place other, more[place]? = some other ∧ provider = libs.length + place) := by
  rw [h.providers, h'.providers, hdeps, exporter?_append libs more hlt]
  by_cases hs : s ∈ lib.elf.imported
  · simp only [if_pos hs]
    constructor
    · intro hold
      rw [hold, Option.some_or]
    · intro hnone hnew
      rw [hnone, Option.none_or] at hnew
      split at hnew
      · have hmem := List.mem_of_find?_eq_some hnew
        rw [List.findIdxs_start, List.mem_map] at hmem
        obtain ⟨place, hplace, rfl⟩ := hmem
        obtain ⟨lib, hlib, _⟩ := mem_findIdxs_iff.mp hplace
        exact ⟨place, lib, hlib, Nat.add_comm _ _⟩
      · cases hnew
  · simp [if_neg hs]

namespace Linker

/-! ## The law -/

/-- Libraries are added to a linked image, and it is linked again. A needed name that meant a
library still means one, and it means the same one unless a new library of the same word
size has this file name or sits under this name in a default directory. And as long as a
library needs what it needed before, each of its symbols keeps its provider, and those that
find one now find it among the new libraries. -/
theorem added_libraries_take_over_only_what_they_answer_to {l : Linker} (h : Reachable l)
    {more : List Library} (hmore : l.resolve.linker.accepted (more.map .add) = more) :
    (l.resolve.linker.holding more).image.libraries = l.resolve.linker.image.libraries ++ more ∧
      ∀ id node, l.resolve.linker.image.node? id = some node →
        ∃ links : Links,
          (l.resolve.linker.holding more).image.node? id = some ⟨node.toLibrary, links⟩ ∧
          (∀ soname ∈ node.elf.needed, ∀ dep,
            l.resolve.linker.image.target? node.group soname = some dep →
              ∃ dep', (l.resolve.linker.holding more).image.target? node.group soname =
                  some dep' ∧
                (dep' = dep ∨ ∃ lib ∈ more, lib.AnswersTo node.elf.elfClass soname)) ∧
          (links.deps = node.links.deps → ∀ (s : String) (provider : LibId),
            (node.links.providers[s]? = some provider → links.providers[s]? = some provider) ∧
            (node.links.providers[s]? = none → links.providers[s]? = some provider →
              ∃ place lib, more[place]? = some lib ∧
                provider = l.resolve.linker.image.size + place)) := by
  have hold : l.resolve.linker.image.libraries = l.image.libraries :=
    Image.libraries_of_clearLinks (Image.clearLinks_link _ _)
  have hadded : (l.resolve.linker.after (more.map .add)).image.libraries =
      l.resolve.linker.image.libraries ++ more := by
    rw [libraries_after, hmore]
  have hnew : (l.resolve.linker.holding more).image.libraries =
      l.resolve.linker.image.libraries ++ more :=
    (Image.libraries_of_clearLinks (Image.clearLinks_link _ _)).trans hadded
  have hreachable := h.resolve.after (more.map .add)
  have hholding : Reachable (l.resolve.linker.holding more) := hreachable.resolve
  refine ⟨hnew, ?_⟩
  intro id node hnode
  have hlib : l.resolve.linker.image.libraries[id]? = some node.toLibrary := by
    rw [Image.getElem?_libraries, hnode, Option.map_some]
  have hlib' : (l.resolve.linker.holding more).image.libraries[id]? = some node.toLibrary := by
    rw [hnew, List.getElem?_append_left (List.getElem?_eq_some_iff.mp hlib).1, hlib]
  obtain ⟨⟨_, links⟩, hnode', rfl⟩ := Image.node?_of_libraries hlib'
  refine ⟨links, hnode', ?_, ?_⟩
  · intro soname _ dep hdep
    rw [Image.target?_eq_meant? h.resolve.indexed] at hdep
    rw [Image.target?_eq_meant? hholding.indexed, hnew]
    exact meant?_append_cases _ _ hdep
  · intro hdeps s provider
    obtain ⟨_, hfound, hbound⟩ := Image.node?_link h.indexed _ hnode
    obtain ⟨_, _, hbound'⟩ := Image.node?_link hreachable.indexed _ hnode'
    rw [hadded, hold, config_after] at hbound'
    have hlt : ∀ dep ∈ node.links.deps, dep < l.image.libraries.length := fun dep hdep =>
      (foundBy_lt (hfound dep hdep)).2
    have hsize : l.resolve.linker.image.size = l.image.libraries.length := by
      rw [← Image.length_libraries, hold]
    rw [hsize]
    exact hbound.providers_append hbound' hdeps hlt s provider

/-- A library that finds what it needs below the default directory, and one that finds its
symbol nowhere. -/
def growingRun : List Call :=
  [.add (sampleLib "hw/libm.so" [] ["cos"] []),
    .add (sampleLib "libapp.so" ["libm.so"] [] ["cos"]),
    .add (sampleLib "libtool.so" [] [] ["read"])]

/-- A library for the default directory. -/
def newMath : Library := sampleLib "libm.so" [] ["read"] []

theorem a_new_library_takes_over_its_name_and_provides_a_symbol :
    Reachable (default.after growingRun) ∧
      (default.after growingRun).resolve.linker.accepted ([newMath].map .add) = [newMath] ∧
      (default.after growingRun).resolve.linker.image.target? ⟨.system, .elf64⟩ "libm.so" =
        some 0 ∧
      ((default.after growingRun).resolve.linker.holding [newMath]).image.target?
        ⟨.system, .elf64⟩ "libm.so" = some 3 ∧
      newMath.AnswersTo .elf64 "libm.so" ∧
      ∃ links : Links,
        (((default.after growingRun).resolve.linker.holding [newMath]).image.node? 2).map
          (·.links) = some links ∧
        links.providers["read"]? = some 3 ∧
        ∃ place lib, [newMath][place]? = some lib ∧
          3 = (default.after growingRun).resolve.linker.image.size + place := by
  have h : Reachable (default.after growingRun) := (Reachable.fresh .default).after growingRun
  have hmore : (default.after growingRun).resolve.linker.accepted ([newMath].map .add) =
      [newMath] := by
    decide +kernel
  have hlaw := (added_libraries_take_over_only_what_they_answer_to h hmore).2
  have happ : ((default.after growingRun).resolve.linker.image.node? 1).map (·.toLibrary) =
      some (sampleLib "libapp.so" ["libm.so"] [] ["cos"]) := by
    decide +kernel
  have htool : ((default.after growingRun).resolve.linker.image.node? 2).map
      (fun node => (node.links.deps, node.links.providers["read"]?)) = some ([], none) := by
    decide +kernel
  have htool' : (((default.after growingRun).resolve.linker.holding [newMath]).image.node? 2).map
      (fun node => (node.links.deps, node.links.providers["read"]?)) = some ([], some 3) := by
    decide +kernel
  have hbefore : (default.after growingRun).resolve.linker.image.target? ⟨.system, .elf64⟩
      "libm.so" = some 0 := by
    decide +kernel
  have hafter : ((default.after growingRun).resolve.linker.holding [newMath]).image.target?
      ⟨.system, .elf64⟩ "libm.so" = some 3 := by
    decide +kernel
  refine ⟨h, hmore, hbefore, hafter, ?_, ?_⟩
  · obtain ⟨⟨_, links⟩, hnode, rfl⟩ := Option.map_eq_some_iff.mp happ
    obtain ⟨_, _, hnames, _⟩ := hlaw 1 _ hnode
    obtain ⟨dep', hdep', hsame | ⟨lib, hlib, hanswers⟩⟩ :=
      hnames "libm.so" List.mem_cons_self 0 hbefore
    · rw [hsame] at hdep'
      cases hafter.symm.trans hdep'
    · exact List.mem_singleton.mp hlib ▸ hanswers
  · obtain ⟨node, hnode, hlinks⟩ := Option.map_eq_some_iff.mp htool
    obtain ⟨links, hnode', _, hsymbols⟩ := hlaw 2 node hnode
    rw [hnode', Option.map_some, Option.some.injEq] at htool'
    obtain ⟨hdeps, hnone⟩ := Prod.mk.inj hlinks
    obtain ⟨hdeps', hsome⟩ := Prod.mk.inj htool'
    exact ⟨links, by rw [hnode']; rfl, hsome,
      (hsymbols (hdeps'.trans hdeps.symm) "read" 3).2 hnone hsome⟩

end Linker

end ImageTiers
