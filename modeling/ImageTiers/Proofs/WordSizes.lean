-- Word sizes. A library is looked up among those of one word size only, by its path, by its
-- file name and by its symbols. The law: an image falls into two parts that know nothing of
-- each other, and each part is linked and told apart as if it were alone.
import ImageTiers.Proofs.Renumbering

namespace ImageTiers

/-! ## The libraries of one word size -/

/-- The libraries of one word size, in the order of all libraries. -/
def ofClass (c : ElfClass) (libs : List Library) : List Library :=
  libs.filter (·.elf.elfClass = c)

/-- The number, among all libraries, of the one that is number `id` of its word size. -/
def placeOf (libs : List Library) (c : ElfClass) (id : LibId) : LibId :=
  ((libs.findIdxs (·.elf.elfClass = c))[id]?).getD libs.length

section

variable (libs : List Library) (c : ElfClass)

theorem length_ofClass : (ofClass c libs).length = (libs.findIdxs (·.elf.elfClass = c)).length := by
  rw [ofClass, List.length_findIdxs, List.countP_eq_length_filter]

theorem placeOf_eq {id : LibId} (h : id < (libs.findIdxs (·.elf.elfClass = c)).length) :
    placeOf libs c id = (libs.findIdxs (·.elf.elfClass = c))[id] := by
  rw [placeOf, List.getElem?_eq_getElem h, Option.getD_some]

theorem placeOf_lt_placeOf {a b : LibId} (hab : a < b) (hb : b < (ofClass c libs).length) :
    placeOf libs c a < placeOf libs c b := by
  rw [length_ofClass] at hb
  rw [placeOf_eq libs c (hab.trans hb), placeOf_eq libs c hb]
  exact List.pairwise_iff_getElem.mp List.pairwise_findIdxs a b (hab.trans hb) hb hab

theorem getElem?_placeOf {id : LibId} (h : id < (ofClass c libs).length) :
    libs[placeOf libs c id]? = some (ofClass c libs)[id] := by
  rw [placeOf_eq libs c (by rwa [← length_ofClass]), List.getElem?_eq_some_iff]
  exact ⟨_, (List.getElem_filter_eq_getElem_getElem_findIdxs h).symm⟩

theorem renumbers_placeOf :
    Renumbers (placeOf libs c) (· = c) (ofClass c libs) libs := by
  refine ⟨?_, ?_, ?_⟩
  · intro id lib hlib
    obtain ⟨hlt, rfl⟩ := List.getElem?_eq_some_iff.mp hlib
    have hclass := (List.mem_filter.mp (List.getElem_mem hlt)).2
    exact ⟨getElem?_placeOf libs c hlt, by simpa using hclass⟩
  · intro id' lib hlib hclass
    have hmem : id' ∈ libs.findIdxs (·.elf.elfClass = c) :=
      mem_findIdxs_iff.mpr ⟨lib, hlib, by simpa using hclass⟩
    obtain ⟨id, hlt, rfl⟩ := List.getElem_of_mem hmem
    have hplace := placeOf_eq libs c hlt
    have hlt' : id < (ofClass c libs).length := by rwa [length_ofClass]
    have hget := getElem?_placeOf libs c hlt'
    rw [hplace, hlib] at hget
    exact ⟨id, hplace, by rw [List.getElem?_eq_getElem hlt', hget]⟩
  · intro a b ha hb heq
    rcases Nat.lt_trichotomy a b with hab | hab | hab
    · exact absurd heq (Nat.ne_of_lt (placeOf_lt_placeOf libs c hab hb))
    · exact hab
    · exact absurd heq.symm (Nat.ne_of_lt (placeOf_lt_placeOf libs c hab ha))

/-- The order of adding is kept, so whatever comes first among the libraries of a word size
comes first among all. -/
theorem sameNames_placeOf : SameNames (placeOf libs c) (· = c) (ofClass c libs) libs := by
  have horder : ∀ p : Library → Bool, ∀ a ∈ (ofClass c libs).findIdxs p,
      ∀ b ∈ (ofClass c libs).findIdxs p, a < b → placeOf libs c a < placeOf libs c b := by
    intro p a _ b hb hab
    obtain ⟨_, hlib, _⟩ := mem_findIdxs_iff.mp hb
    exact placeOf_lt_placeOf libs c hab (List.getElem?_eq_some_iff.mp hlib).1
  rintro g soname rfl
  have hgroup : ∀ lib : Library, ∀ b : Bool, (decide (lib.group = g) && b) = true →
      lib.elf.elfClass = g.elfClass := by
    intro lib b hlib
    simp only [Bool.and_eq_true, decide_eq_true_eq] at hlib
    exact congrArg Group.elfClass hlib.1
  rw [meantIn?, meantIn?, Option.map_or,
    (renumbers_placeOf libs g.elfClass).findIdx? (fun lib => hgroup lib _) (horder _),
    (renumbers_placeOf libs g.elfClass).findIdx? (fun lib => hgroup lib _) (horder _)]

theorem sameExporters_placeOf : SameExporters (placeOf libs c) (ofClass c libs) libs := by
  apply (renumbers_placeOf libs c).sameExporters
  rintro _ _ _ _ _ a b _ ⟨_, _, hlib, _⟩ hab
  exact placeOf_lt_placeOf libs c hab (List.getElem?_eq_some_iff.mp hlib).1

end

namespace Linker

/-- A library has the same links in the whole image, but for the numbers. -/
theorem links_holding_placeOf {start : Linker} (h : Fresh start) {libs : List Library}
    (hpaths : (libs.map (·.path)).Nodup) (c : ElfClass) {id : LibId} {lib : Library}
    (hlib : (ofClass c libs)[id]? = some lib) :
    ∃ links, (start.holding (ofClass c libs)).image.node? id = some ⟨lib, links⟩ ∧
      (start.holding libs).image.node? (placeOf libs c id) =
        some ⟨lib, links.renumber (placeOf libs c)⟩ := by
  have hpart : ((ofClass c libs).map (·.path)).Nodup := hpaths.sublist (List.filter_sublist.map _)
  have hrenumbers := renumbers_placeOf libs c
  have hnames := sameNames_placeOf libs c
  have hwithin := within_holding h hpart hpaths hrenumbers hnames
  have hlast : (start.holding (ofClass c libs)).image.libraries[id]? = some lib := by
    rw [h.libraries_holding hpart, hlib]
  have hlast' : (start.holding libs).image.libraries[placeOf libs c id]? = some lib := by
    rw [h.libraries_holding hpaths, (hrenumbers.moved id lib hlib).1]
  obtain ⟨⟨_, links⟩, hnode, hsame⟩ := Image.node?_of_libraries hlast
  obtain ⟨⟨_, links'⟩, hnode', hsame'⟩ := Image.node?_of_libraries hlast'
  dsimp only at hsame hsame'
  subst hsame hsame'
  have hlt := (List.getElem?_eq_some_iff.mp hlast).1
  have hdeps := hwithin.deps id hlt
  have husers : (start.holding libs).image.users (placeOf libs c id) =
      ((start.holding (ofClass c libs)).image.users id).map (placeOf libs c) := by
    apply List.Pairwise.eq_of_mem_iff (hwithin.reachable'.sound.increasing _)
    · rw [List.pairwise_map]
      apply (hwithin.reachable.sound.increasing id).imp_of_mem
      intro a b _ hb hab
      have hblt := hwithin.reachable.user_lt_size hb
      rw [← Image.length_libraries, h.libraries_holding hpart] at hblt
      exact placeOf_lt_placeOf libs c hab hblt
    · intro user'
      rw [hwithin.mem_users hlt, List.mem_map]
  obtain ⟨hproviders, hmissing⟩ := symbols_holding h hpart hpaths hrenumbers hnames
    (sameExporters_placeOf libs c) hnode hnode'
  rw [Image.deps_of_node? hnode, Image.deps_of_node? hnode'] at hdeps
  rw [Image.users_of_node? hnode, Image.users_of_node? hnode'] at husers
  refine ⟨links, hnode, ?_⟩
  rw [hnode', Links.renumber, ← hdeps, ← husers, ← hproviders, ← hmissing]

/-! ## The law -/

/-- The two word sizes of an image know nothing of each other. After the libraries of one
word size were added and linked alone, each of them has the links that it has in the whole
image, and is in the same tiers, but for the numbers: these are counted among all libraries
there, in the same order. -/
theorem libraries_of_one_word_size_are_linked_as_if_alone {start : Linker} (h : Fresh start)
    {libs : List Library} (hlibs : start.accepted (libs.map .add) = libs) (c : ElfClass) :
    start.accepted ((ofClass c libs).map .add) = ofClass c libs ∧
      (∀ a b, a < b → b < (ofClass c libs).length → placeOf libs c a < placeOf libs c b) ∧
      (∀ id' lib, libs[id']? = some lib ∧ lib.elf.elfClass = c ↔
        ∃ id, placeOf libs c id = id' ∧ (ofClass c libs)[id]? = some lib) ∧
      (∀ id lib, (ofClass c libs)[id]? = some lib → ∃ links,
        (start.holding (ofClass c libs)).image.node? id = some ⟨lib, links⟩ ∧
        (start.holding libs).image.node? (placeOf libs c id) =
          some ⟨lib, links.renumber (placeOf libs c)⟩) ∧
      ∀ oracle tier id', (id' ∈ ((start.holding libs).tiers oracle).members tier ∧
          ∃ lib, libs[id']? = some lib ∧ lib.elf.elfClass = c) ↔
        ∃ id ∈ ((start.holding (ofClass c libs)).tiers oracle).members tier,
          placeOf libs c id = id' := by
  have hpaths := (h.accepted_add libs).mp hlibs
  have hpart : ((ofClass c libs).map (·.path)).Nodup := hpaths.sublist (List.filter_sublist.map _)
  have hrenumbers := renumbers_placeOf libs c
  have hwithin := within_holding h hpart hpaths hrenumbers (sameNames_placeOf libs c)
  refine ⟨(h.accepted_add _).mpr hpart, fun _ _ => placeOf_lt_placeOf libs c, ?_, ?_, ?_⟩
  · intro id' lib
    constructor
    · rintro ⟨hlib, hclass⟩
      exact hrenumbers.onto id' lib hlib hclass
    · rintro ⟨id, rfl, hlib⟩
      exact hrenumbers.moved id lib hlib
  · intro id lib hlib
    exact links_holding_placeOf h hpaths c hlib
  · intro oracle tier id'
    rw [← hwithin.mem_members_iff, h.libraries_holding hpaths]

/-- Two libraries at both word sizes. Only the small one of the second exports the symbol. -/
def multilib : List Library :=
  [⟨.system, "/system/lib/libEGL.so", ⟨.elf32, .lsb, ["libcutils.so"], ∅, .ofList ["log"]⟩⟩,
    ⟨.system, "/system/lib64/libEGL.so", ⟨.elf64, .lsb, ["libcutils.so"], ∅, .ofList ["log"]⟩⟩,
    ⟨.system, "/system/lib/libcutils.so", ⟨.elf32, .lsb, [], .ofList ["log"], ∅⟩⟩,
    ⟨.system, "/system/lib64/libcutils.so", ⟨.elf64, .lsb, [], ∅, ∅⟩⟩]

theorem the_large_library_of_the_pair_does_not_see_the_small_one :
    Fresh .default ∧ default.accepted (multilib.map .add) = multilib ∧
      (∃ node, (default.holding multilib).image.node? 1 = some node ∧
        node.links.deps = [3] ∧ "log" ∈ node.links.missing) ∧
      1 ∈ ((default.holding multilib).tiers fun _ => .newLib).members .spNdk := by
  have hlibs : default.accepted (multilib.map .add) = multilib := by decide +kernel
  obtain ⟨_, _, _, hlinks, htiers⟩ :=
    libraries_of_one_word_size_are_linked_as_if_alone .default hlibs .elf64
  refine ⟨.default, hlibs, ?_, ?_⟩
  · obtain ⟨links, hnode, hnode'⟩ := hlinks 0 _ rfl
    have hdeps : (default.holding (ofClass .elf64 multilib)).image.deps 0 = [1] := by
      decide +kernel
    have hmissing : ((default.holding (ofClass .elf64 multilib)).image.node? 0).any
        ("log" ∈ ·.links.missing) = true := by
      decide +kernel
    rw [Image.deps_of_node? hnode] at hdeps
    simp only [hnode, Option.any_some, decide_eq_true_eq] at hmissing
    have hplace : placeOf multilib .elf64 0 = 1 ∧ placeOf multilib .elf64 1 = 3 := by
      decide +kernel
    rw [hplace.1] at hnode'
    refine ⟨_, hnode', ?_, hmissing⟩
    rw [Links.renumber, hdeps, List.map_singleton, hplace.2]
  · have hpart : 0 ∈ ((default.holding (ofClass .elf64 multilib)).tiers
        fun _ => .newLib).members .spNdk := by
      rw [mem_members (Fresh.default.reachable_holding _)]
      have hspNdk : (default.holding (ofClass .elf64 multilib)).spNdk = [0] := by decide +kernel
      simp [Belongs, hspNdk]
    have hplace : placeOf multilib .elf64 0 = 1 := by decide +kernel
    exact ((htiers _ .spNdk 1).mpr ⟨0, hpart, hplace⟩).1

end Linker

end ImageTiers
