-- Renumbering. The same libraries can stand at other places in another list, between
-- libraries of a word size that is left out. The laws: if each name means the same library
-- in both lists, then the linked images agree on all edges, and on all tiers; and if each
-- symbol has the same exporters, they agree on its provider as well.
import ImageTiers.Proofs.Loading
import ImageTiers.Proofs.Tiers

namespace ImageTiers

/-! ## Lists of libraries -/

/-- The libraries of `libs` are those of `libs'` whose word size is kept, and the one at `id`
stands at `f id` there. -/
structure Renumbers (f : LibId → LibId) (keep : ElfClass → Prop) (libs libs' : List Library) :
    Prop where
  moved : ∀ id lib, libs[id]? = some lib → libs'[f id]? = some lib ∧ keep lib.elf.elfClass
  onto : ∀ id' lib, libs'[id']? = some lib → keep lib.elf.elfClass →
    ∃ id, f id = id' ∧ libs[id]? = some lib
  inj : ∀ a b, a < libs.length → b < libs.length → f a = f b → a = b

/-- First occurrences stay first if no two libraries are given one number. -/
theorem eraseDups_map {f : LibId → LibId} (l : List LibId)
    (hinj : ∀ a ∈ l, ∀ b ∈ l, f a = f b → a = b) :
    (l.map f).eraseDups = l.eraseDups.map f := by
  induction l using List.reverseRecOn with
  | nil => simp
  | append_singleton l x ih =>
    have hmem : f x ∈ l.map f ↔ x ∈ l := by
      constructor
      · intro hx
        obtain ⟨a, ha, heq⟩ := List.mem_map.mp hx
        exact hinj a (List.mem_append_left _ ha) x (by simp) heq ▸ ha
      · exact List.mem_map_of_mem
    have hih := ih fun a ha b hb =>
      hinj a (List.mem_append_left _ ha) b (List.mem_append_left _ hb)
    rw [List.map_append, List.map_singleton, eraseDups_concat, eraseDups_concat, hih]
    simp only [hmem]
    split
    · rfl
    · rw [List.map_append, List.map_singleton]

/-- In a group of a kept word size, a name means the same library in both lists. -/
def SameNames (f : LibId → LibId) (keep : ElfClass → Prop) (libs libs' : List Library) : Prop :=
  ∀ g soname, keep g.elfClass → meantIn? libs' g soname = (meantIn? libs g soname).map f

/-- An imported symbol has the same first other exporter of the group in both lists. -/
def SameExporters (f : LibId → LibId) (libs libs' : List Library) : Prop :=
  ∀ id lib, libs[id]? = some lib → ∀ s ∈ lib.elf.imported,
    (libs'.findIdxs fun other => other.group = lib.group && other.elf.exports s).find? (· ≠ f id) =
      ((libs.findIdxs fun other => other.group = lib.group && other.elf.exports s).find?
        (· ≠ id)).map f

/-- The library at `other` is not the one at `id`; it is of the group `g` and exports `s`. -/
def OtherExporter (libs : List Library) (id : LibId) (g : Group) (s : String)
    (other : LibId) : Prop :=
  other ≠ id ∧ ∃ lib, libs[other]? = some lib ∧ lib.group = g ∧ lib.elf.exports s = true

namespace Renumbers

variable {f : LibId → LibId} {keep : ElfClass → Prop} {libs libs' : List Library}

/-- Two libraries stay apart. -/
theorem ne_iff (h : Renumbers f keep libs libs') {a b : LibId} (ha : a < libs.length)
    (hb : b < libs.length) : f a ≠ f b ↔ a ≠ b := by
  rw [not_iff_not]
  exact ⟨h.inj a b ha hb, congrArg f⟩

/-- The places of some libraries of a kept word size, if their order is kept as well. Where
`q` leaves places out, `q'` leaves the same ones out. -/
theorem filter_findIdxs (h : Renumbers f keep libs libs') {p : Library → Bool}
    {q q' : LibId → Bool} (hkeep : ∀ lib, p lib = true → keep lib.elf.elfClass)
    (hq : ∀ id < libs.length, q' (f id) = q id)
    (horder : ∀ a ∈ (libs.findIdxs p).filter q, ∀ b ∈ (libs.findIdxs p).filter q,
      a < b → f a < f b) :
    (libs'.findIdxs p).filter q' = ((libs.findIdxs p).filter q).map f := by
  have hlt : ((libs.findIdxs p).filter q).Pairwise (· < ·) := List.pairwise_findIdxs.filter _
  apply List.Pairwise.eq_of_mem_iff (List.pairwise_findIdxs.filter _)
  · rw [List.pairwise_map]
    exact hlt.imp_of_mem fun ha hb => horder _ ha _ hb
  · intro id'
    simp only [List.mem_filter, List.mem_map, mem_findIdxs_iff]
    constructor
    · rintro ⟨⟨lib, hlib, hp⟩, hq'⟩
      obtain ⟨id, rfl, hid⟩ := h.onto _ lib hlib (hkeep lib hp)
      rw [hq id (List.getElem?_eq_some_iff.mp hid).1] at hq'
      exact ⟨id, ⟨⟨lib, hid, hp⟩, hq'⟩, rfl⟩
    · rintro ⟨id, ⟨⟨lib, hid, hp⟩, hqid⟩, rfl⟩
      rw [hq id (List.getElem?_eq_some_iff.mp hid).1]
      exact ⟨⟨lib, (h.moved id lib hid).1, hp⟩, hqid⟩

/-- The first library with `p`, if the order of all of them is kept. -/
theorem findIdx? (h : Renumbers f keep libs libs') {p : Library → Bool}
    (hkeep : ∀ lib, p lib = true → keep lib.elf.elfClass)
    (horder : ∀ a ∈ libs.findIdxs p, ∀ b ∈ libs.findIdxs p, a < b → f a < f b) :
    libs'.findIdx? p = (libs.findIdx? p).map f := by
  have hall : (libs'.findIdxs p).filter (fun _ => true) =
      ((libs.findIdxs p).filter fun _ => true).map f :=
    h.filter_findIdxs hkeep (fun _ _ => rfl) (by simpa using horder)
  simp only [List.filter_true] at hall
  rw [← getElem?_zero_findIdxs, ← getElem?_zero_findIdxs, hall, List.getElem?_map]

/-! ## Names -/

/-- A library finds the same ones by the names it needs, if these mean the same there. -/
theorem foundBy (h : Renumbers f keep libs libs') (hnames : SameNames f keep libs libs')
    {id : LibId} {lib : Library} (hlib : libs[id]? = some lib) :
    foundBy libs' (f id) = (ImageTiers.foundBy libs id).map f := by
  obtain ⟨hlib', hkeep⟩ := h.moved id lib hlib
  have hmeant : ∀ soname, meant? libs' lib.group soname =
      (meant? libs lib.group soname).map f := by
    intro soname
    rw [meant?, meant?, hnames _ _ hkeep, hnames _ _ hkeep, Option.map_or]
  have hself : ∀ dep ∈ lib.elf.needed.filterMap (meant? libs lib.group),
      decide (f dep ≠ f id) = decide (dep ≠ id) := by
    intro dep hdep
    obtain ⟨soname, _, hsoname⟩ := List.mem_filterMap.mp hdep
    obtain ⟨dlib, hdlib, _⟩ := meant?_class hsoname
    rw [decide_eq_decide]
    exact h.ne_iff (List.getElem?_eq_some_iff.mp hdlib).1 (List.getElem?_eq_some_iff.mp hlib).1
  simp only [ImageTiers.foundBy, hlib, hlib', hmeant, ← List.map_filterMap, List.filter_map]
  exact congrArg _ (List.filter_congr hself)

/-! ## Symbols -/

/-- Symbols have the same exporters if the other exporters of a group keep their order. -/
theorem sameExporters (h : Renumbers f keep libs libs')
    (horder : ∀ id lib, libs[id]? = some lib → ∀ s ∈ lib.elf.imported, ∀ a b,
      OtherExporter libs id lib.group s a → OtherExporter libs id lib.group s b →
        a < b → f a < f b) :
    SameExporters f libs libs' := by
  intro id lib hlib s hs
  have hclass := (h.moved id lib hlib).2
  have hother : ∀ a ∈ (libs.findIdxs fun other => other.group = lib.group &&
      other.elf.exports s).filter (· ≠ id), OtherExporter libs id lib.group s a := by
    intro a ha
    rw [List.mem_filter, mem_findIdxs_iff, decide_eq_true_eq] at ha
    obtain ⟨⟨other, hother, hp⟩, hne⟩ := ha
    rw [Bool.and_eq_true, decide_eq_true_eq] at hp
    exact ⟨hne, other, hother, hp⟩
  rw [← List.head?_filter, ← List.head?_filter, ← List.head?_map]
  congr 1
  apply h.filter_findIdxs
  · intro other hp
    rw [Bool.and_eq_true, decide_eq_true_eq] at hp
    rwa [show other.elf.elfClass = lib.elf.elfClass from congrArg Group.elfClass hp.1]
  · intro other hlt
    rw [decide_eq_decide]
    exact h.ne_iff hlt (List.getElem?_eq_some_iff.mp hlib).1
  · intro a ha b hb
    exact horder id lib hlib s hs a b (hother a ha) (hother b hb)

theorem exporter? (h : Renumbers f keep libs libs') (hexports : SameExporters f libs libs')
    (fallback : Bool) {id : LibId} {lib : Library} (hlib : libs[id]? = some lib)
    {deps : List LibId} (hdeps : ∀ dep ∈ deps, dep < libs.length) {s : String}
    (hs : s ∈ lib.elf.imported) :
    exporter? libs' fallback (f id) lib.group (deps.map f) s =
      (ImageTiers.exporter? libs fallback id lib.group deps s).map f := by
  have hfirst : deps.find? (exportsAt libs' s ∘ f) = deps.find? (exportsAt libs s) := by
    rw [← List.head?_filter, ← List.head?_filter]
    apply congrArg List.head? (List.filter_congr _)
    intro dep hdep
    have hdlib := List.getElem?_eq_getElem (hdeps dep hdep)
    simp only [Function.comp_apply, exportsAt, (h.moved dep _ hdlib).1, hdlib]
  rw [ImageTiers.exporter?, ImageTiers.exporter?, List.find?_map, hfirst, Option.map_or]
  congr 1
  cases fallback with
  | false => rfl
  | true => exact hexports id lib hlib s hs

end Renumbers

/-! ## Linked images -/

/-- The links of a library after all libraries have moved. -/
def Links.renumber (f : LibId → LibId) (links : Links) : Links where
  deps := links.deps.map f
  users := links.users.map f
  providers := links.providers.map fun _ => f
  missing := links.missing

namespace Image

section

variable {f : LibId → LibId} {keep : ElfClass → Prop} {img img' : Image} (h : Indexed img)
  (h' : Indexed img') (hlibs : Renumbers f keep img.libraries img'.libraries)
  (hnames : SameNames f keep img.libraries img'.libraries) (fallback : Bool)

include h h' hlibs hnames

/-- The edges of a library move with it. -/
theorem deps_link_of_renumbers {id : LibId} (hid : id < img.libraries.length) :
    (img'.link fallback).image.deps (f id) = ((img.link fallback).image.deps id).map f := by
  rw [deps_link h', deps_link h, hlibs.foundBy hnames (List.getElem?_eq_getElem hid)]
  apply eraseDups_map
  intro a ha b hb
  exact hlibs.inj a b (foundBy_lt ha).2 (foundBy_lt hb).2

/-- The symbols of a library move with it, if they have the same exporters. -/
theorem symbols_link_of_renumbers (hexports : SameExporters f img.libraries img'.libraries)
    {id : LibId} {node node' : Node} (hnode : (img.link fallback).image.node? id = some node)
    (hnode' : (img'.link fallback).image.node? (f id) = some node') :
    node'.links.providers = node.links.providers.map (fun _ => f) ∧
      node'.links.missing = node.links.missing := by
  obtain ⟨hlib, hfound, hbound⟩ := node?_link h fallback hnode
  obtain ⟨hlib', _, hbound'⟩ := node?_link h' fallback hnode'
  have hdeps := deps_link_of_renumbers h h' hlibs hnames fallback
    (List.getElem?_eq_some_iff.mp hlib).1
  rw [deps_of_node? hnode, deps_of_node? hnode'] at hdeps
  have hsame : node'.toLibrary = node.toLibrary := by
    rw [(hlibs.moved id _ hlib).1, Option.some.injEq] at hlib'
    exact hlib'.symm
  rw [hsame] at hbound'
  have hexporter : ∀ s ∈ node.elf.imported,
      exporter? img'.libraries fallback (f id) node.group node'.links.deps s =
        (exporter? img.libraries fallback id node.group node.links.deps s).map f := by
    intro s hs
    rw [hdeps]
    exact hlibs.exporter? hexports fallback hlib
      (fun dep hdep => (foundBy_lt (hfound dep hdep)).2) hs
  constructor
  · apply Std.ExtTreeMap.ext_getElem?
    intro s
    rw [Std.ExtTreeMap.getElem?_map, hbound.providers, hbound'.providers]
    split
    · exact hexporter s ‹_›
    · rfl
  · apply Std.ExtTreeSet.ext_mem
    intro s
    rw [hbound.missing, hbound'.missing]
    apply and_congr_right
    intro hs
    rw [hexporter s hs, Option.map_eq_none_iff]

end

end Image

/-! ## Tiers -/

namespace Linker

/-- The libraries of `l` are among those of `l'`, and both linkers tell libraries apart in
the same way. -/
structure Alike (f : LibId → LibId) (keep : ElfClass → Prop) (l l' : Linker) : Prop where
  reachable : Reachable l
  reachable' : Reachable l'
  ndk : l'.ndk = l.ndk
  spHalRules : l'.spHalRules = l.spHalRules
  libraries : Renumbers f keep l.image.libraries l'.image.libraries

/-- The image of `l` stands within that of `l'`: its edges are there as well. -/
structure Within (f : LibId → LibId) (keep : ElfClass → Prop) (l l' : Linker) : Prop
    extends Alike f keep l l' where
  deps : ∀ id < l.image.libraries.length, l'.image.deps (f id) = (l.image.deps id).map f

/-- A chain keeps to one word size. -/
theorem Reachable.class_of_chain {l : Linker} (h : Reachable l) {excluded : LibId → Bool}
    {a b : LibId} (hchain : Chain l.image.deps excluded a b) {lib : Library}
    (hlib : l.image.libraries[b]? = some lib) :
    ∃ first, l.image.libraries[a]? = some first ∧ first.elf.elfClass = lib.elf.elfClass := by
  induction hchain generalizing lib with
  | refl => exact ⟨lib, hlib, rfl⟩
  | tail _ hedge ih =>
    obtain ⟨_, unode, dnode, huser, hdep, hclass⟩ := h.sound.ends _ _ hedge.1
    rw [Image.getElem?_libraries, hdep, Option.map_some, Option.some.injEq] at hlib
    obtain ⟨first, hfirst, hfclass⟩ :=
      ih (by rw [Image.getElem?_libraries, huser, Option.map_some])
    exact ⟨first, hfirst, by rw [hfclass, ← hclass, ← hlib]⟩

namespace Alike

variable {f : LibId → LibId} {keep : ElfClass → Prop} {l l' : Linker} (h : Alike f keep l l')
  {id : LibId} (hid : id < l.image.libraries.length)

include h hid

theorem node? : (l'.image.node? (f id)).map (·.toLibrary) =
    (l.image.node? id).map (·.toLibrary) := by
  have hlib := List.getElem?_eq_getElem hid
  rw [← Image.getElem?_libraries, ← Image.getElem?_libraries, hlib,
    (h.libraries.moved id _ hlib).1]

theorem path : l'.image.path (f id) = l.image.path id := by
  have hnode := congrArg (Option.map (·.path)) (h.node? hid)
  simp only [Option.map_map] at hnode
  exact congrArg (Option.getD · "") hnode

theorem isGeneric (oracle : Library → RefClass) :
    l'.isGeneric oracle (f id) = l.isGeneric oracle id := by
  have hnode := congrArg
    (Option.any fun lib => lib.isSystem && oracle lib ≠ .newLib) (h.node? hid)
  simp only [Option.any_map] at hnode
  exact hnode

theorem ndkKind? : l'.ndkKind? (f id) = l.ndkKind? id := by
  rw [Linker.ndkKind?, Linker.ndkKind?, h.path hid, h.ndk]

theorem mem_ids_filter {p p' : LibId → Bool} (hp : p' (f id) = p id) :
    f id ∈ l'.image.ids.filter p' ↔ id ∈ l.image.ids.filter p := by
  have hmoved := (h.libraries.moved id _ (List.getElem?_eq_getElem hid)).1
  have hlt := (List.getElem?_eq_some_iff.mp hmoved).1
  rw [Image.length_libraries] at hlt hid
  simp only [List.mem_filter, Image.ids, List.mem_range, hlt, hid, hp]

theorem mem_spNdk : f id ∈ l'.spNdk ↔ id ∈ l.spNdk := by
  apply h.mem_ids_filter hid
  rw [isSpNdk, isSpNdk, h.ndkKind? hid]

theorem mem_spHal : f id ∈ l'.spHal ↔ id ∈ l.spHal := by
  apply h.mem_ids_filter hid
  rw [h.path hid, h.spHalRules]

end Alike

namespace Within

variable {f : LibId → LibId} {keep : ElfClass → Prop} {l l' : Linker} (h : Within f keep l l')
  {id : LibId} (hid : id < l.image.libraries.length)

include h hid

/-- The chains from a library move with it. -/
theorem chain_iff (y : LibId) :
    Chain l'.image.deps l'.isNdk (f id) y ↔
      ∃ b < l.image.libraries.length, f b = y ∧ Chain l.image.deps l.isNdk id b := by
  constructor
  · intro hchain
    induction hchain with
    | refl => exact ⟨id, hid, rfl, .refl⟩
    | tail _ hedge ih =>
      obtain ⟨b, hb, rfl, hchain⟩ := ih
      obtain ⟨hdep, hndk⟩ := hedge
      rw [h.deps b hb] at hdep
      obtain ⟨dep, hdep', rfl⟩ := List.mem_map.mp hdep
      have hlt := h.reachable.dep_lt_size hdep'
      rw [← Image.length_libraries] at hlt
      rw [isNdk, h.ndkKind? hlt] at hndk
      exact ⟨dep, hlt, rfl, hchain.tail ⟨hdep', hndk⟩⟩
  · rintro ⟨b, -, rfl, hchain⟩
    induction hchain with
    | refl => exact .refl
    | @tail b dep hchain hedge ih =>
      obtain ⟨hdep, hndk⟩ := hedge
      have hlt := h.reachable.dep_lt_size hdep
      have hb := h.reachable.lt_size_of_chain (by rwa [← Image.length_libraries]) hchain
      rw [← Image.length_libraries] at hlt hb
      refine ih.tail ⟨?_, ?_⟩
      · rw [h.deps b hb]
        exact List.mem_map_of_mem hdep
      · rwa [isNdk, h.ndkKind? hlt]

/-- The users of a library move with it. -/
theorem mem_users (user' : LibId) :
    user' ∈ l'.image.users (f id) ↔ ∃ user ∈ l.image.users id, f user = user' := by
  have hmem : ∀ user < l.image.libraries.length,
      f id ∈ l'.image.deps (f user) ↔ id ∈ l.image.deps user := by
    intro user huser
    rw [h.deps user huser, List.mem_map]
    constructor
    · rintro ⟨dep, hdep, heq⟩
      have hlt := h.reachable.dep_lt_size hdep
      rw [← Image.length_libraries] at hlt
      rwa [← h.libraries.inj dep id hlt hid heq]
    · intro hdep
      exact ⟨id, hdep, rfl⟩
  simp only [← h.reachable.sound.mirror, ← h.reachable'.sound.mirror]
  constructor
  · intro hdep
    obtain ⟨hlib, hkeep⟩ := h.libraries.moved id _ (List.getElem?_eq_getElem hid)
    have hedge : Enters l'.image.deps (fun _ => false) user' (f id) := ⟨hdep, rfl⟩
    obtain ⟨ulib, hulib, hclass⟩ := h.reachable'.class_of_chain (.single hedge) hlib
    rw [← hclass] at hkeep
    obtain ⟨user, rfl, huser⟩ := h.libraries.onto user' ulib hulib hkeep
    exact ⟨user, (hmem user (List.getElem?_eq_some_iff.mp huser).1).mp hdep, rfl⟩
  · rintro ⟨user, hdep, rfl⟩
    have hlt := h.reachable.user_lt_size ((h.reachable.sound.mirror user id).mp hdep)
    rw [← Image.length_libraries] at hlt
    exact (hmem user hlt).mpr hdep

theorem mem_needsOf {roots roots' : List LibId} (hlt : ∀ root ∈ roots, root < l.image.size)
    (hroots : ∀ root < l.image.libraries.length, f root ∈ roots' ↔ root ∈ roots) :
    f id ∈ l'.needsOf roots' ↔ id ∈ l.needsOf roots := by
  rw [Linker.mem_needsOf, Linker.mem_needsOf, hroots id hid, h.reachable.mem_depsClosure,
    h.reachable'.mem_depsClosure]
  apply and_congr_left
  intro _
  constructor
  · rintro ⟨root', hroot', hchain⟩
    obtain ⟨hlib, hkeep⟩ := h.libraries.moved id _ (List.getElem?_eq_getElem hid)
    obtain ⟨first, hfirst, hclass⟩ := h.reachable'.class_of_chain hchain hlib
    rw [← hclass] at hkeep
    obtain ⟨root, rfl, hroot⟩ := h.libraries.onto root' first hfirst hkeep
    have hrootlt := (List.getElem?_eq_some_iff.mp hroot).1
    obtain ⟨b, hb, heq, hchain⟩ := (h.chain_iff hrootlt _).mp hchain
    rw [h.libraries.inj b id hb hid heq] at hchain
    exact ⟨root, (hroots root hrootlt).mp hroot', hchain⟩
  · rintro ⟨root, hroot, hchain⟩
    have hrootlt := hlt root hroot
    rw [← Image.length_libraries] at hrootlt
    exact ⟨f root, (hroots root hrootlt).mpr hroot,
      (h.chain_iff hrootlt _).mpr ⟨id, hid, rfl, hchain⟩⟩

theorem mem_members (oracle : Library → RefClass) (tier : Tier) :
    f id ∈ (l'.tiers oracle).members tier ↔ id ∈ (l.tiers oracle).members tier := by
  have hll : l'.isLlNdk (f id) = l.isLlNdk id := by rw [isLlNdk, isLlNdk, h.ndkKind? hid]
  have hspNdk := h.mem_needsOf hid (fun _ => lt_size_of_mem_spNdk) fun _ => h.mem_spNdk
  have hspHal := h.mem_needsOf hid (fun _ => lt_size_of_mem_spHal) fun _ => h.mem_spHal
  rw [Linker.mem_members h.reachable, Linker.mem_members h.reachable']
  cases tier
  all_goals
    simp only [Belongs, h.mem_spHal hid, h.mem_spNdk hid, hll, hspNdk, hspHal, h.isGeneric hid]

omit hid in
/-- A tier holds the same libraries, as far as they were kept. -/
theorem mem_members_iff (oracle : Library → RefClass) (tier : Tier) (id' : LibId) :
    (id' ∈ (l'.tiers oracle).members tier ∧
        ∃ lib, l'.image.libraries[id']? = some lib ∧ keep lib.elf.elfClass) ↔
      ∃ id ∈ (l.tiers oracle).members tier, f id = id' := by
  constructor
  · rintro ⟨hmem, lib, hlib, hkeep⟩
    obtain ⟨id, rfl, hid⟩ := h.libraries.onto id' lib hlib hkeep
    have hlt := (List.getElem?_eq_some_iff.mp hid).1
    exact ⟨id, (h.mem_members hlt oracle tier).mp hmem, rfl⟩
  · rintro ⟨id, hmem, rfl⟩
    have hlt := lt_size_of_mem_members h.reachable hmem
    rw [← Image.length_libraries] at hlt
    exact ⟨(h.mem_members hlt oracle tier).mpr hmem, _,
      h.libraries.moved id _ (List.getElem?_eq_getElem hlt)⟩

end Within

/-! ## Two linkers with the same libraries -/

section

variable {f : LibId → LibId} {keep : ElfClass → Prop} {start : Linker} {libs libs' : List Library}
  (h : Fresh start) (hpaths : (libs.map (·.path)).Nodup) (hpaths' : (libs'.map (·.path)).Nodup)
  (hlibs : Renumbers f keep libs libs') (hnames : SameNames f keep libs libs')

include h hpaths hpaths' hlibs

theorem alike_holding : Alike f keep (start.holding libs) (start.holding libs') := by
  refine ⟨h.reachable_holding libs, h.reachable_holding libs', ?_, ?_, ?_⟩
  · rw [holding_eq start libs, holding_eq start libs']
  · rw [holding_eq start libs, holding_eq start libs']
  · rwa [h.libraries_holding hpaths, h.libraries_holding hpaths']

include hnames

theorem within_holding : Within f keep (start.holding libs) (start.holding libs') := by
  refine ⟨alike_holding h hpaths hpaths' hlibs, ?_⟩
  rw [h.libraries_holding hpaths]
  obtain ⟨img, himg, rfl, hlink⟩ := h.image_holding hpaths
  obtain ⟨img', himg', rfl, hlink'⟩ := h.image_holding hpaths'
  intro id hid
  rw [hlink, hlink']
  exact Image.deps_link_of_renumbers himg himg' hlibs hnames _ hid

/-- The symbols of a library move with it, if they have the same exporters. -/
theorem symbols_holding (hexports : SameExporters f libs libs') {id : LibId} {node node' : Node}
    (hnode : (start.holding libs).image.node? id = some node)
    (hnode' : (start.holding libs').image.node? (f id) = some node') :
    node'.links.providers = node.links.providers.map (fun _ => f) ∧
      node'.links.missing = node.links.missing := by
  obtain ⟨img, himg, rfl, hlink⟩ := h.image_holding hpaths
  obtain ⟨img', himg', rfl, hlink'⟩ := h.image_holding hpaths'
  rw [hlink] at hnode
  rw [hlink'] at hnode'
  exact Image.symbols_link_of_renumbers himg himg' hlibs hnames _ hexports hnode hnode'

end

end Linker

end ImageTiers
