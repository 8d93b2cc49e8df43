-- The tiers of an image. Each comes from the roots and from chains of needed libraries that
-- stay outside the NDK. The laws: what each tier holds, that the tiers of one side hold
-- all that their members need, and which two tiers can have a library in common.
import ImageTiers.Proofs.Reach
import ImageTiers.Tiers

namespace ImageTiers

namespace Image

theorem path_of_node? {img : Image} {id : LibId} {node : Node} (h : img.node? id = some node) :
    img.path id = node.path := by
  simp [path, h]

/-- The path of a library, read off the list of all paths. -/
theorem path_eq (img : Image) (id : LibId) :
    img.path id = ((img.libraries.map (·.path))[id]?).getD "" := by
  rw [List.getElem?_map, getElem?_libraries, Option.map_map]
  rfl

theorem mem_ids_filter (img : Image) (keep : String → Bool) (id : LibId) :
    id ∈ img.ids.filter (fun id => keep (img.path id)) ↔
      ∃ node, img.node? id = some node ∧ keep node.path = true := by
  rw [List.mem_filter, ids, List.mem_range]
  constructor
  · rintro ⟨hlt, hkeep⟩
    obtain ⟨node, hnode⟩ := exists_node? hlt
    exact ⟨_, hnode, path_of_node? hnode ▸ hkeep⟩
  · rintro ⟨node, hnode, hkeep⟩
    exact ⟨lt_size_of_node? hnode, (path_of_node? hnode).symm ▸ hkeep⟩

end Image

namespace Linker

variable {l : Linker} {id : LibId}

/-! ## Roots -/

/-- The library `id` belongs to a part of the NDK. -/
def OfNdk (l : Linker) (kind : NdkKind) (id : LibId) : Prop :=
  ∃ node, l.image.node? id = some node ∧ l.ndk.classify node.path = some kind

/-- The library `id` is a predefined HAL. -/
def OfHals (l : Linker) (id : LibId) : Prop :=
  ∃ node, l.image.node? id = some node ∧ l.spHalRules.isSpHal node.path = true

theorem mem_ids_filter_kind (kind : NdkKind) :
    id ∈ l.image.ids.filter (fun id => l.ndkKind? id = some kind) ↔ l.OfNdk kind id := by
  have h := Image.mem_ids_filter l.image (l.ndk.classify · = some kind) id
  simp only [decide_eq_true_eq] at h
  exact h

theorem mem_llNdk : id ∈ l.llNdk ↔ l.OfNdk .lowLevel id := mem_ids_filter_kind .lowLevel

theorem mem_spNdk : id ∈ l.spNdk ↔ l.OfNdk .sameProcess id := mem_ids_filter_kind .sameProcess

theorem mem_spHal : id ∈ l.spHal ↔ l.OfHals id :=
  Image.mem_ids_filter l.image l.spHalRules.isSpHal id

theorem lt_size_of_mem_spNdk (h : id ∈ l.spNdk) : id < l.image.size :=
  List.mem_range.mp (List.mem_filter.mp h).1

theorem lt_size_of_mem_spHal (h : id ∈ l.spHal) : id < l.image.size :=
  List.mem_range.mp (List.mem_filter.mp h).1

theorem isLlNdk_iff {node : Node} (h : l.image.node? id = some node) :
    l.isLlNdk id = true ↔ l.OfNdk .lowLevel id := by
  simp [isLlNdk, ndkKind?, Image.path_of_node? h, OfNdk, h]

theorem mem_spNdk_iff_kind :
    id ∈ l.spNdk ↔ id < l.image.size ∧ l.ndkKind? id = some .sameProcess := by
  simp [spNdk, Image.ids, isSpNdk]

theorem mem_spHal_iff_path :
    id ∈ l.spHal ↔ id < l.image.size ∧ l.spHalRules.isSpHal (l.image.path id) = true := by
  simp [spHal, Image.ids]

theorem not_isNdk_iff : l.isNdk id = false ↔ l.ndkKind? id = none := by
  rw [isNdk, Option.isSome_eq_false_iff, Option.isNone_iff_eq_none]

theorem not_isLlNdk_iff : l.isLlNdk id = false ↔ l.ndkKind? id ≠ some .lowLevel := by
  rw [isLlNdk, decide_eq_false_iff_not]

theorem isLlNdk_of_not_isNdk (h : l.isNdk id = false) : l.isLlNdk id = false := by
  rw [not_isNdk_iff] at h
  simp [isLlNdk, h]

/-- A library of the NDK belongs to just one part of it. -/
theorem toNat_isNdk (l : Linker) (id : LibId) :
    (l.isNdk id).toNat =
      (l.isLlNdk id).toNat + (l.isSpNdk id).toNat + (l.isHlNdk id).toNat := by
  simp only [isNdk, isLlNdk, isSpNdk, isHlNdk]
  rcases l.ndkKind? id with _ | _ | _ | _ <;> rfl

/-- A library belongs to one part of the NDK at most. -/
theorem kind_of_mem_spNdk (h : id ∈ l.spNdk) : l.ndkKind? id = some .sameProcess :=
  (mem_spNdk_iff_kind.mp h).2

/-! ## What the roots need -/

/-- What the roots need, directly or not, without the roots. -/
def needsOf (l : Linker) (roots : List LibId) : List LibId :=
  (l.image.depsClosure l.isNdk roots).filter (!roots.contains ·)

theorem mem_needsOf (l : Linker) (roots : List LibId) (id : LibId) :
    id ∈ l.needsOf roots ↔ id ∈ l.image.depsClosure l.isNdk roots ∧ id ∉ roots := by
  simp [needsOf]

theorem mem_depsClosure_of_mem {roots : List LibId} (h : Reachable l) (hid : id ∈ roots) :
    id ∈ l.image.depsClosure l.isNdk roots :=
  (h.mem_depsClosure roots id).mpr ⟨id, hid, .refl⟩

/-- A needed library that is outside the NDK is needed by the roots as well. -/
theorem mem_depsClosure_of_dep {roots : List LibId} (h : Reachable l) {user dep : LibId}
    (huser : user ∈ l.image.depsClosure l.isNdk roots) (hdep : dep ∈ l.image.deps user)
    (hndk : l.isNdk dep = false) : dep ∈ l.image.depsClosure l.isNdk roots := by
  rw [h.mem_depsClosure] at huser ⊢
  obtain ⟨root, hroot, hchain⟩ := huser
  exact ⟨root, hroot, hchain.tail ⟨hdep, hndk⟩⟩

theorem not_isNdk_of_mem_needsOf {roots : List LibId} (h : Reachable l)
    (hid : id ∈ l.needsOf roots) : l.isNdk id = false := by
  rw [mem_needsOf, h.mem_depsClosure] at hid
  obtain ⟨⟨root, hroot, hchain⟩, hnot⟩ := hid
  rcases Chain.eq_or_entered hchain with rfl | hndk
  · exact absurd hroot hnot
  · exact hndk

/-! ## What each tier holds -/

theorem tiers_spHal (l : Linker) (oracle : Library → RefClass) :
    (l.tiers oracle).spHal = l.spHal.filter (!l.isLlNdk ·) := rfl

theorem tiers_spNdk (l : Linker) (oracle : Library → RefClass) :
    (l.tiers oracle).spNdk = l.spNdk.filter (!l.isLlNdk ·) := rfl

/-- The tiers told by what their roots need. Low-level NDK libraries are dropped from all of
them, but only the HALs among the roots can be such libraries. -/
theorem mem_tiers (h : Reachable l) (oracle : Library → RefClass) (id : LibId) :
    (id ∈ (l.tiers oracle).spHal ↔ id ∈ l.spHal ∧ l.isLlNdk id = false) ∧
      (id ∈ (l.tiers oracle).spHalDep ↔
        id ∈ l.needsOf l.spHal ∧ l.isGeneric oracle id = false) ∧
      (id ∈ (l.tiers oracle).vndkSpHal ↔
        id ∈ l.needsOf l.spHal ∧ l.isGeneric oracle id = true ∧ id ∉ l.needsOf l.spNdk) ∧
      (id ∈ (l.tiers oracle).spNdk ↔ id ∈ l.spNdk) ∧
      (id ∈ (l.tiers oracle).spNdkIndirect ↔
        id ∈ l.needsOf l.spNdk ∧
          ¬ (id ∈ l.needsOf l.spHal ∧ l.isGeneric oracle id = true)) ∧
      (id ∈ (l.tiers oracle).vndkSpBoth ↔
        id ∈ l.needsOf l.spNdk ∧ id ∈ l.needsOf l.spHal ∧ l.isGeneric oracle id = true) := by
  have hneeds : ∀ roots, id ∈ l.needsOf roots → l.isLlNdk id = false := fun roots hid =>
    isLlNdk_of_not_isNdk (not_isNdk_of_mem_needsOf h hid)
  have hspNdk : id ∈ l.spNdk → l.isLlNdk id = false := by
    intro hid
    simp [isLlNdk, kind_of_mem_spNdk hid]
  have hhal := hneeds l.spHal
  have hndk := hneeds l.spNdk
  simp only [tiers, Tiers.filter, mem_needsOf, List.mem_filter, List.contains_eq_mem,
    Bool.not_eq_eq_eq_not, Bool.not_true, decide_eq_true_eq, decide_eq_false_iff_not] at hhal hndk ⊢
  refine ⟨trivial, ?_, ?_, ?_, ?_, ?_⟩
  · grind
  · grind
  · grind
  · grind
  · grind

/-! ## One tier -/

end Linker

/-- The name of a tier. -/
inductive Tier
  | spHal
  | spHalDep
  | vndkSpHal
  | spNdk
  | spNdkIndirect
  | vndkSpBoth

namespace Tier

/-- All tiers, in the order of reports. -/
def all : List Tier := [.spHal, .spHalDep, .vndkSpHal, .spNdk, .spNdkIndirect, .vndkSpBoth]

def name : Tier → String
  | spHal => "sp_hal"
  | spHalDep => "sp_hal_dep"
  | vndkSpHal => "vndk_sp_hal"
  | spNdk => "sp_ndk"
  | spNdkIndirect => "sp_ndk_indirect"
  | vndkSpBoth => "vndk_sp_both"

end Tier

def Tiers.members (t : Tiers) : Tier → List LibId
  | .spHal => t.spHal
  | .spHalDep => t.spHalDep
  | .vndkSpHal => t.vndkSpHal
  | .spNdk => t.spNdk
  | .spNdkIndirect => t.spNdkIndirect
  | .vndkSpBoth => t.vndkSpBoth

theorem Tiers.named_eq (t : Tiers) :
    t.named = Tier.all.map fun tier => (tier.name, t.members tier) := rfl

namespace Linker

variable {l : Linker} {id : LibId}

/-- What puts a library into a tier. -/
def Belongs (l : Linker) (oracle : Library → RefClass) (id : LibId) : Tier → Prop
  | .spHal => id ∈ l.spHal ∧ l.isLlNdk id = false
  | .spHalDep => id ∈ l.needsOf l.spHal ∧ l.isGeneric oracle id = false
  | .vndkSpHal =>
    id ∈ l.needsOf l.spHal ∧ l.isGeneric oracle id = true ∧ id ∉ l.needsOf l.spNdk
  | .spNdk => id ∈ l.spNdk
  | .spNdkIndirect =>
    id ∈ l.needsOf l.spNdk ∧ ¬ (id ∈ l.needsOf l.spHal ∧ l.isGeneric oracle id = true)
  | .vndkSpBoth =>
    id ∈ l.needsOf l.spNdk ∧ id ∈ l.needsOf l.spHal ∧ l.isGeneric oracle id = true

theorem mem_members (h : Reachable l) (oracle : Library → RefClass) (id : LibId) (tier : Tier) :
    id ∈ (l.tiers oracle).members tier ↔ l.Belongs oracle id tier := by
  obtain ⟨hspHal, hspHalDep, hvndkSpHal, hspNdk, hspNdkIndirect, hvndkSpBoth⟩ :=
    mem_tiers h oracle id
  cases tier
  · exact hspHal
  · exact hspHalDep
  · exact hvndkSpHal
  · exact hspNdk
  · exact hspNdkIndirect
  · exact hvndkSpBoth

/-- A tier holds libraries of the image only. -/
theorem lt_size_of_mem_members (h : Reachable l) {oracle : Library → RefClass} {tier : Tier}
    (hid : id ∈ (l.tiers oracle).members tier) : id < l.image.size := by
  have hneeds : ∀ roots, (∀ root ∈ roots, root < l.image.size) → id ∈ l.needsOf roots →
      id < l.image.size := by
    intro roots hroots hid
    rw [mem_needsOf, h.mem_depsClosure] at hid
    obtain ⟨⟨root, hroot, hchain⟩, _⟩ := hid
    exact h.lt_size_of_chain (hroots root hroot) hchain
  have hspNdk := hneeds l.spNdk fun _ => lt_size_of_mem_spNdk
  have hspHal := hneeds l.spHal fun _ => lt_size_of_mem_spHal
  rw [mem_members h] at hid
  cases tier
  · exact lt_size_of_mem_spHal hid.1
  · exact hspHal hid.1
  · exact hspHal hid.1
  · exact lt_size_of_mem_spNdk hid
  · exact hspNdk hid.1
  · exact hspNdk hid.1

/-- No tier holds a library of the low-level NDK. -/
theorem not_mem_llNdk_of_mem_members (h : Reachable l) {oracle : Library → RefClass} {tier : Tier}
    (hid : id ∈ (l.tiers oracle).members tier) : id ∉ l.llNdk := by
  have hneeds : ∀ roots, id ∈ l.needsOf roots → l.isLlNdk id = false := fun roots hroots =>
    isLlNdk_of_not_isNdk (not_isNdk_of_mem_needsOf h hroots)
  have hkind : l.isLlNdk id = false := by
    rw [mem_members h] at hid
    cases tier
    · exact hid.2
    · exact hneeds _ hid.1
    · exact hneeds _ hid.1
    · simp [isLlNdk, kind_of_mem_spNdk hid]
    · exact hneeds _ hid.1
    · exact hneeds _ hid.1
  rw [llNdk, List.mem_filter, hkind]
  simp

/-- No tier holds a library twice. -/
theorem nodup_members (h : Reachable l) (oracle : Library → RefClass) (tier : Tier) :
    ((l.tiers oracle).members tier).Nodup := by
  have hids : ∀ p, (l.image.ids.filter p).Nodup := fun p => List.nodup_range.filter p
  have hneeds : ∀ roots p, ((l.image.depsClosure l.isNdk roots).filter p).Nodup :=
    fun roots p => (h.nodup_depsClosure roots).filter p
  cases tier
  · exact (hids _).filter _
  · exact ((hneeds _ _).filter _).filter _
  · exact (((hneeds _ _).filter _).filter _).filter _
  · exact (hids _).filter _
  · exact ((hneeds _ _).filter _).filter _
  · exact ((hneeds _ _).filter _).filter _

/-! ## Meaning -/

/-- A chain of needed libraries leads to `id` from one with `root`. After the first library,
it stays outside the NDK. -/
def ReachedFrom (l : Linker) (root : LibId → Prop) (id : LibId) : Prop :=
  ∃ first, root first ∧ Chain l.image.deps l.isNdk first id

/-- The library `id` is one of the system, and the reference image also has it. -/
def Generic (l : Linker) (oracle : Library → RefClass) (id : LibId) : Prop :=
  ∃ node, l.image.node? id = some node ∧ node.partition = .system ∧
    oracle node.toLibrary ≠ .newLib

/-- The library `id` is one of the vendor, or the reference image lacks it. -/
def Brought (l : Linker) (oracle : Library → RefClass) (id : LibId) : Prop :=
  ∃ node, l.image.node? id = some node ∧
    (node.partition = .vendor ∨ oracle node.toLibrary = .newLib)

theorem isGeneric_iff (oracle : Library → RefClass) :
    l.isGeneric oracle id = true ↔ l.Generic oracle id := by
  simp [isGeneric, Generic, Library.isSystem, Option.any_eq_true]

theorem not_isGeneric_iff (oracle : Library → RefClass) {node : Node}
    (h : l.image.node? id = some node) :
    l.isGeneric oracle id = false ↔ l.Brought oracle id := by
  have hpartition : node.partition ≠ .system ↔ node.partition = .vendor := by
    cases node.partition <;> simp
  simp [isGeneric, Brought, h, Library.isSystem, ← hpartition, imp_iff_not_or]

theorem mem_needsOf_spNdk (h : Reachable l) (id : LibId) :
    id ∈ l.needsOf l.spNdk ↔
      l.ReachedFrom (l.OfNdk .sameProcess) id ∧ ¬ l.OfNdk .sameProcess id := by
  simp only [mem_needsOf, h.mem_depsClosure, mem_spNdk, ReachedFrom]

theorem mem_needsOf_spHal (h : Reachable l) (id : LibId) :
    id ∈ l.needsOf l.spHal ↔ l.ReachedFrom l.OfHals id ∧ ¬ l.OfHals id := by
  simp only [mem_needsOf, h.mem_depsClosure, mem_spHal, ReachedFrom]

/-- What a chain from a root leads to is a library. -/
theorem node?_of_reachedFrom (h : Reachable l) (hid : l.ReachedFrom l.OfHals id) :
    ∃ node, l.image.node? id = some node := by
  obtain ⟨first, ⟨node, hnode, _⟩, hchain⟩ := hid
  exact Image.exists_node? (h.lt_size_of_chain (Image.lt_size_of_node? hnode) hchain)

/-- No two libraries share a path, so an oracle can tell them all apart. -/
theorem exists_oracle {img : Image} (h : img.Indexed) (verdict : LibId → RefClass) :
    ∃ oracle : Library → RefClass, ∀ id node, img.node? id = some node →
      oracle node.toLibrary = verdict id := by
  refine ⟨fun lib => ((img.find? lib.path).map verdict).getD .newLib, ?_⟩
  intro id node hnode
  simp only [Image.find?_path h hnode, Option.map_some, Option.getD_some]

/-! ## A small image -/

/-- Settings that put a library of the same-process NDK among the HALs as well. -/
def grallocConfig : Config := { Config.default with extraSpNdk := ["gralloc.a"] }

def grallocLinker : Linker :=
  { Linker.default with config := grallocConfig, ndk := .withExtra [] ["gralloc.a"] }

/-- A 32-bit system library without symbols. -/
def bareLib (path : String) (needed : List String) : Library :=
  ⟨.system, path, ⟨.elf32, .lsb, needed, ∅, ∅⟩⟩

/-- Library 1 is a root of both sides. Libraries 2 and 5 are HALs, and 2 and 3 need each
other. Both sides need 2, 3 and 4, and only HALs need 6. -/
def grallocRun : List Call :=
  [.add (bareLib "/system/lib/libc.so" []),
    .add (bareLib "/system/lib/gralloc.a.so" ["libc.so", "gralloc.b.so", "new", "both"]),
    .add (bareLib "/gralloc.b.so" ["new"]),
    .add (bareLib "new" ["gralloc.b.so"]),
    .add (bareLib "both" []),
    .add (bareLib "/vendor//libEGL_.so" ["both", "hal"]),
    .add (bareLib "hal" []),
    .resolve]

/-- The reference image lacks one of the libraries. -/
def grallocOracle (lib : Library) : RefClass :=
  if lib.path = "new" then .newLib else .exportEqual

theorem reachable_gralloc : Reachable (grallocLinker.after grallocRun) := by
  apply Reachable.after
  apply Reachable.fresh
  apply Fresh.ofConfig (c := grallocConfig)
  simp [ofConfig, grallocConfig, grallocLinker, SpHalRules.withExtra, SpHalRules.extraRules,
    Except.map, Config.default, Linker.default]

theorem tiers_gralloc :
    (grallocLinker.after grallocRun).tiers grallocOracle =
      { spHal := [1, 2, 5]
        spHalDep := [3]
        vndkSpHal := [6]
        spNdk := [1]
        spNdkIndirect := [2, 3]
        vndkSpBoth := [4] } := by
  decide +kernel

end Linker

/-! ## Sides -/

namespace Tiers

/-- The library `id` is in a tier that HALs bring in. -/
def HalSide (t : Tiers) (id : LibId) : Prop :=
  id ∈ t.spHal ∨ id ∈ t.spHalDep ∨ id ∈ t.vndkSpHal ∨ id ∈ t.vndkSpBoth

/-- The library `id` is in a tier that the same-process NDK brings in. -/
def NdkSide (t : Tiers) (id : LibId) : Prop :=
  id ∈ t.spNdk ∨ id ∈ t.spNdkIndirect ∨ id ∈ t.vndkSpBoth

theorem keep_of_mem_named {keep : LibId → Bool} {t : Tiers} {tier : String × List LibId}
    (h : tier ∈ (t.filter keep).named) {id : LibId} (hid : id ∈ tier.2) : keep id = true := by
  simp only [named, filter, List.mem_cons, List.not_mem_nil, or_false] at h
  rcases h with rfl | rfl | rfl | rfl | rfl | rfl
  all_goals exact (List.mem_filter.mp hid).2

/-- The pairs of tiers that can have a library in common. -/
def mayMeet : List (String × String) :=
  [("sp_hal", "sp_ndk"), ("sp_hal", "sp_ndk_indirect"), ("sp_hal_dep", "sp_ndk_indirect")]

end Tiers

namespace Linker

variable {l : Linker}

/-- No library of the HAL side is lost on the way from the closure to the tiers. -/
theorem halSide_iff (h : Reachable l) (oracle : Library → RefClass) (id : LibId) :
    (l.tiers oracle).HalSide id ↔
      id ∈ l.image.depsClosure l.isNdk l.spHal ∧ l.isLlNdk id = false := by
  obtain ⟨hspHal, hspHalDep, hvndkSpHal, _, _, hvndkSpBoth⟩ := mem_tiers h oracle id
  rw [Tiers.HalSide, hspHal, hspHalDep, hvndkSpHal, hvndkSpBoth]
  by_cases hroot : id ∈ l.spHal
  · have hclosure := mem_depsClosure_of_mem h hroot
    simp [mem_needsOf, hroot, hclosure]
  · have hll := fun hid : id ∈ l.needsOf l.spHal =>
      isLlNdk_of_not_isNdk (not_isNdk_of_mem_needsOf h hid)
    simp only [mem_needsOf, hroot, not_false_eq_true, and_true] at hll ⊢
    grind

theorem ndkSide_iff (h : Reachable l) (oracle : Library → RefClass) (id : LibId) :
    (l.tiers oracle).NdkSide id ↔ id ∈ l.image.depsClosure l.isNdk l.spNdk := by
  obtain ⟨_, _, _, hspNdk, hspNdkIndirect, hvndkSpBoth⟩ := mem_tiers h oracle id
  rw [Tiers.NdkSide, hspNdk, hspNdkIndirect, hvndkSpBoth]
  by_cases hroot : id ∈ l.spNdk
  · have hclosure := mem_depsClosure_of_mem h hroot
    simp [hroot, hclosure]
  · simp only [mem_needsOf, hroot, not_false_eq_true, and_true]
    grind

/-- Twelve of the fifteen pairs of tiers never meet. -/
theorem tiers_apart (h : Reachable l) (oracle : Library → RefClass) (id : LibId) :
    (id ∈ (l.tiers oracle).spHal → id ∉ (l.tiers oracle).spHalDep ∧
        id ∉ (l.tiers oracle).vndkSpHal ∧ id ∉ (l.tiers oracle).vndkSpBoth) ∧
      (id ∈ (l.tiers oracle).spHalDep → id ∉ (l.tiers oracle).vndkSpHal ∧
        id ∉ (l.tiers oracle).spNdk ∧ id ∉ (l.tiers oracle).vndkSpBoth) ∧
      (id ∈ (l.tiers oracle).vndkSpHal → id ∉ (l.tiers oracle).spNdk ∧
        id ∉ (l.tiers oracle).spNdkIndirect ∧ id ∉ (l.tiers oracle).vndkSpBoth) ∧
      (id ∈ (l.tiers oracle).spNdk → id ∉ (l.tiers oracle).spNdkIndirect ∧
        id ∉ (l.tiers oracle).vndkSpBoth) ∧
      (id ∈ (l.tiers oracle).spNdkIndirect → id ∉ (l.tiers oracle).vndkSpBoth) := by
  obtain ⟨hspHal, hspHalDep, hvndkSpHal, hspNdk, hspNdkIndirect, hvndkSpBoth⟩ :=
    mem_tiers h oracle id
  have hhal : id ∈ l.needsOf l.spHal → id ∉ l.spHal := fun hid =>
    ((mem_needsOf l _ id).mp hid).2
  have hndk : id ∈ l.needsOf l.spNdk → id ∉ l.spNdk := fun hid =>
    ((mem_needsOf l _ id).mp hid).2
  -- What HALs need is outside the NDK, so none of it is a root of the other side.
  have hside : id ∈ l.needsOf l.spHal → id ∉ l.spNdk := by
    intro hneeds hmem
    have hndk := not_isNdk_of_mem_needsOf h hneeds
    simp [isNdk, kind_of_mem_spNdk hmem] at hndk
  rw [hspHal, hspHalDep, hvndkSpHal, hspNdk, hspNdkIndirect, hvndkSpBoth]
  refine ⟨?_, ?_, ?_, ?_, ?_⟩
  · grind
  · grind
  · grind
  · grind
  · grind

/-! ## The laws -/

/-- What each tier holds. The roots are the same-process NDK and the predefined HALs, and a
library is reached if a chain of needed libraries leads to it that stays outside the NDK
after its root. A library that both sides reach moves to the common tier only if it is
generic and no root. And what an oracle says of the libraries of one image can be anything,
even if it is told their links. -/
theorem a_tier_holds_what_its_roots_reach (h : Reachable l) (oracle : Library → RefClass)
    (id : LibId) :
    (id ∈ (l.tiers oracle).spNdk ↔ l.OfNdk .sameProcess id) ∧
      (id ∈ (l.tiers oracle).spHal ↔ l.OfHals id ∧ ¬ l.OfNdk .lowLevel id) ∧
      (id ∈ (l.tiers oracle).vndkSpBoth ↔
        l.ReachedFrom (l.OfNdk .sameProcess) id ∧ l.ReachedFrom l.OfHals id ∧
          ¬ l.OfNdk .sameProcess id ∧ ¬ l.OfHals id ∧ l.Generic oracle id) ∧
      (id ∈ (l.tiers oracle).spNdkIndirect ↔
        l.ReachedFrom (l.OfNdk .sameProcess) id ∧ ¬ l.OfNdk .sameProcess id ∧
          id ∉ (l.tiers oracle).vndkSpBoth) ∧
      (id ∈ (l.tiers oracle).vndkSpHal ↔
        l.ReachedFrom l.OfHals id ∧ ¬ l.OfHals id ∧ l.Generic oracle id ∧
          id ∉ (l.tiers oracle).vndkSpBoth) ∧
      (id ∈ (l.tiers oracle).spHalDep ↔
        l.ReachedFrom l.OfHals id ∧ ¬ l.OfHals id ∧ l.Brought oracle id) ∧
      ∀ verdict : LibId → RefClass, ∃ oracle : Library → RefClass, ∀ id node,
        l.image.node? id = some node → oracle node.toLibrary = verdict id := by
  obtain ⟨hspHal, hspHalDep, hvndkSpHal, hspNdk, hspNdkIndirect, hvndkSpBoth⟩ :=
    mem_tiers h oracle id
  rw [mem_needsOf_spHal h] at hspHalDep
  rw [mem_needsOf_spHal h, mem_needsOf_spNdk h, isGeneric_iff] at hvndkSpHal
  rw [mem_needsOf_spHal h, mem_needsOf_spNdk h, isGeneric_iff] at hspNdkIndirect hvndkSpBoth
  refine ⟨?_, ?_, ?_, ?_, ?_, ?_, exists_oracle h.indexed⟩
  · rw [hspNdk, mem_spNdk]
  · rw [hspHal, mem_spHal]
    apply and_congr_right
    rintro ⟨node, hnode, _⟩
    rw [← isLlNdk_iff hnode, Bool.not_eq_true]
  · rw [hvndkSpBoth]
    grind
  · rw [hspNdkIndirect, hvndkSpBoth]
    grind
  · rw [hvndkSpHal, hvndkSpBoth]
    grind
  · rw [hspHalDep, and_assoc]
    apply and_congr_right
    intro hreached
    obtain ⟨node, hnode⟩ := node?_of_reachedFrom h hreached
    rw [not_isGeneric_iff oracle hnode]

theorem the_small_image_has_a_common_library :
    Reachable (grallocLinker.after grallocRun) ∧
      (grallocLinker.after grallocRun).ReachedFrom
        ((grallocLinker.after grallocRun).OfNdk .sameProcess) 4 ∧
      (grallocLinker.after grallocRun).ReachedFrom (grallocLinker.after grallocRun).OfHals 4 ∧
      (grallocLinker.after grallocRun).Generic grallocOracle 4 := by
  have hmem : 4 ∈ ((grallocLinker.after grallocRun).tiers grallocOracle).vndkSpBoth := by
    rw [tiers_gralloc]
    simp
  have hlaw := a_tier_holds_what_its_roots_reach reachable_gralloc grallocOracle 4
  obtain ⟨hndk, hhal, _, _, hgeneric⟩ := hlaw.2.2.1.mp hmem
  exact ⟨reachable_gralloc, hndk, hhal, hgeneric⟩

/-- Each side of the tiers is what its roots need, but for low-level NDK libraries, and it
holds all that its members need outside the NDK. -/
theorem the_tiers_of_a_side_lose_nothing (h : Reachable l) (oracle : Library → RefClass) :
    (∀ user dep, (l.tiers oracle).HalSide user → dep ∈ l.image.deps user →
        l.isNdk dep = true ∨ (l.tiers oracle).HalSide dep) ∧
      (∀ user dep, (l.tiers oracle).NdkSide user → dep ∈ l.image.deps user →
        l.isNdk dep = true ∨ (l.tiers oracle).NdkSide dep) ∧
      (∀ id, (l.tiers oracle).HalSide id ↔
        id ∈ l.image.depsClosure l.isNdk l.spHal ∧ l.isLlNdk id = false) ∧
      ∀ id, (l.tiers oracle).NdkSide id ↔ id ∈ l.image.depsClosure l.isNdk l.spNdk := by
  refine ⟨?_, ?_, halSide_iff h oracle, ndkSide_iff h oracle⟩
  · intro user dep huser hdep
    rw [halSide_iff h] at huser ⊢
    cases hndk : l.isNdk dep with
    | true => exact Or.inl rfl
    | false =>
      exact Or.inr ⟨mem_depsClosure_of_dep h huser.1 hdep hndk, isLlNdk_of_not_isNdk hndk⟩
  · intro user dep huser hdep
    rw [ndkSide_iff h] at huser ⊢
    cases hndk : l.isNdk dep with
    | true => exact Or.inl rfl
    | false => exact Or.inr (mem_depsClosure_of_dep h huser hdep hndk)

theorem the_small_image_needs_an_ndk_library_and_a_hal :
    Reachable (grallocLinker.after grallocRun) ∧
      (grallocLinker.after grallocRun).image.deps 1 = [0, 2, 3, 4] ∧
      (grallocLinker.after grallocRun).isNdk 0 = true ∧
      ((grallocLinker.after grallocRun).tiers grallocOracle).NdkSide 2 := by
  have hdeps : (grallocLinker.after grallocRun).image.deps 1 = [0, 2, 3, 4] := by
    decide +kernel
  have huser : ((grallocLinker.after grallocRun).tiers grallocOracle).NdkSide 1 := by
    rw [Tiers.NdkSide, tiers_gralloc]
    simp
  obtain ⟨_, hneeds, _, _⟩ := the_tiers_of_a_side_lose_nothing reachable_gralloc grallocOracle
  refine ⟨reachable_gralloc, hdeps, ?_, ?_⟩
  · rcases hneeds 1 0 huser (by simp [hdeps]) with hndk | hside
    · exact hndk
    · rw [Tiers.NdkSide, tiers_gralloc] at hside
      simp at hside
  · rcases hneeds 1 2 huser (by simp [hdeps]) with hndk | hside
    · exact absurd hndk (by decide +kernel)
    · exact hside

/-- Of the fifteen pairs of tiers only three can meet, and each of these does for some image.
Only roots belong to the NDK, and none of them to its low-level part. -/
theorem only_three_pairs_of_tiers_can_meet (h : Reachable l) (oracle : Library → RefClass) :
    ((l.tiers oracle).named.Pairwise fun a b =>
        (a.1, b.1) ∈ Tiers.mayMeet ∨ a.2.Disjoint b.2) ∧
      (∀ id, id ∈ (l.tiers oracle).spHalDep ∨ id ∈ (l.tiers oracle).vndkSpHal ∨
          id ∈ (l.tiers oracle).spNdkIndirect ∨ id ∈ (l.tiers oracle).vndkSpBoth →
        l.isNdk id = false) ∧
      (∀ tier ∈ (l.tiers oracle).named, ∀ id ∈ tier.2, l.isLlNdk id = false) ∧
      ∀ pair ∈ Tiers.mayMeet, ∃ l' oracle', Reachable l' ∧
        ∃ tier tier', (pair.1, tier) ∈ (l'.tiers oracle').named ∧
          (pair.2, tier') ∈ (l'.tiers oracle').named ∧ ¬ tier.Disjoint tier' := by
  refine ⟨?_, ?_, ?_, ?_⟩
  · have hapart := tiers_apart h oracle
    simp only [Tiers.named, Tiers.mayMeet, List.pairwise_cons, List.forall_mem_cons,
      List.not_mem_nil, false_implies, implies_true, List.Pairwise.nil, and_true, List.Disjoint]
    grind
  · intro id hid
    obtain ⟨_, hspHalDep, hvndkSpHal, _, hspNdkIndirect, hvndkSpBoth⟩ := mem_tiers h oracle id
    rw [hspHalDep, hvndkSpHal, hspNdkIndirect, hvndkSpBoth] at hid
    rcases hid with hid | hid | hid | hid
    all_goals exact not_isNdk_of_mem_needsOf h hid.1
  · intro tier htier id hid
    simpa using Tiers.keep_of_mem_named htier hid
  · intro pair hpair
    refine ⟨grallocLinker.after grallocRun, grallocOracle, reachable_gralloc, ?_⟩
    simp only [Tiers.mayMeet, List.mem_cons, List.not_mem_nil, or_false] at hpair
    rw [tiers_gralloc]
    rcases hpair with rfl | rfl | rfl
    · exact ⟨[1, 2, 5], [1], by simp [Tiers.named], by simp [Tiers.named], by simp⟩
    · exact ⟨[1, 2, 5], [2, 3], by simp [Tiers.named], by simp [Tiers.named], by simp⟩
    · exact ⟨[3], [2, 3], by simp [Tiers.named], by simp [Tiers.named], by simp⟩

theorem the_common_tier_of_the_small_image_meets_no_other :
    Reachable (grallocLinker.after grallocRun) ∧
      (grallocLinker.after grallocRun).isNdk 4 = false ∧
      ((grallocLinker.after grallocRun).tiers grallocOracle).named.Pairwise fun a b =>
        (a.1, b.1) ∈ Tiers.mayMeet ∨ a.2.Disjoint b.2 := by
  obtain ⟨hapart, hndk, _, _⟩ :=
    only_three_pairs_of_tiers_can_meet reachable_gralloc grallocOracle
  refine ⟨reachable_gralloc, hndk 4 ?_, hapart⟩
  rw [tiers_gralloc]
  simp

end Linker

end ImageTiers
