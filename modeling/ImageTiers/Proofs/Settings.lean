-- Longer lists in the settings. A new low-level stem is a place where chains end, a new
-- same-process stem is such a place and a root as well, and a new pattern makes roots only.
-- The law: each of the three moves the sides of the tiers one way only.
import ImageTiers.Proofs.Outlines

namespace ImageTiers

/-! ## The lists of the NDK -/

namespace NdkLists

variable (lowLevel sameProcess more : List String) (path : String)

/-- With more low-level stems, a library stays where it is or joins the low-level part. -/
theorem classify_more_lowLevel :
    (withExtra (lowLevel ++ more) sameProcess).classify path =
        (withExtra lowLevel sameProcess).classify path ∨
      (withExtra (lowLevel ++ more) sameProcess).classify path = some .lowLevel := by
  simp only [classify]
  cases stem? path with
  | none => exact Or.inl rfl
  | some stem =>
    by_cases hmore : stem ∈ more
    · right
      simp [withExtra, hmore]
    · left
      simp [withExtra, hmore]

/-- With more same-process stems, a library stays where it is, or it joins the same-process
part from outside the low-level one. -/
theorem classify_more_sameProcess :
    (withExtra lowLevel (sameProcess ++ more)).classify path =
        (withExtra lowLevel sameProcess).classify path ∨
      ((withExtra lowLevel (sameProcess ++ more)).classify path = some .sameProcess ∧
        (withExtra lowLevel sameProcess).classify path ≠ some .lowLevel) := by
  simp only [classify]
  cases stem? path with
  | none => exact Or.inl rfl
  | some stem =>
    by_cases hold : stem ∈ builtIn.lowLevel ++ lowLevel ∨ stem ∉ more
    · left
      rcases hold with hold | hmore
      · simp [withExtra, List.mem_append.mp hold]
      · simp [withExtra, hmore]
    · right
      rw [not_or, not_not, List.mem_append] at hold
      obtain ⟨hlow, hmore⟩ := hold
      constructor
      · simp [withExtra, hlow, hmore]
      · simp only [withExtra, List.contains_eq_mem, List.mem_append, decide_eq_true_eq, hlow,
          if_false, Option.bind_eq_bind, Option.bind_some]
        split
        · simp
        · split <;> simp

end NdkLists

/-! ## The rules for HALs -/

namespace SpHalRules

theorem extraRules_append {engine : PatternEngine} {texts more : List String}
    {rules' : List SpHalRule} (h : extraRules engine (texts ++ more) = .ok rules') :
    ∃ rules new, extraRules engine texts = .ok rules ∧ rules' = rules ++ new := by
  induction texts generalizing rules' with
  | nil => exact ⟨[], rules', rfl, rfl⟩
  | cons text texts ih =>
    rw [List.cons_append, extraRules] at h
    rw [extraRules]
    cases hrule : SpHalRule.ofText? engine .inclusion text "config" with
    | none => simp [hrule] at h
    | some rule =>
      rw [hrule] at h
      cases hrest : extraRules engine (texts ++ more) with
      | error e => simp [hrest] at h
      | ok rest =>
        obtain ⟨rules, new, hrules, rfl⟩ := ih hrest
        rw [hrest] at h
        cases h
        exact ⟨rule :: rules, new, by rw [hrules]; rfl, rfl⟩

theorem withExtra_append {engine : PatternEngine} {texts more : List String}
    {rules rules' : SpHalRules} (h : withExtra texts engine = .ok rules)
    (h' : withExtra (texts ++ more) engine = .ok rules') :
    ∃ new, rules'.rules = rules.rules ++ new := by
  rw [withExtra] at h h'
  cases hextra' : extraRules engine (texts ++ more) with
  | error e => simp [hextra', Except.map] at h'
  | ok extra' =>
    obtain ⟨extra, new, hextra, rfl⟩ := extraRules_append hextra'
    rw [hextra] at h
    rw [hextra'] at h'
    cases h
    cases h'
    exact ⟨new, (List.append_assoc _ _ _).symm⟩

/-- New rules come last, so they take no path away. -/
theorem isSpHal_append {rules rules' : SpHalRules} {new : List SpHalRule}
    (h : rules'.rules = rules.rules ++ new) {path : String} (hpath : rules.isSpHal path = true) :
    rules'.isSpHal path = true := by
  rw [isSpHal, Option.any_eq_true] at hpath ⊢
  obtain ⟨rule, hrule, haction⟩ := hpath
  refine ⟨rule, ?_, haction⟩
  rw [matchingRule?] at hrule ⊢
  rw [h, List.find?_append, hrule, Option.some_or]

end SpHalRules

namespace Linker

/-! ## The sides of the tiers -/

namespace SameGraph

variable {l l' : Linker} (h : SameGraph l l') (oracle : Library → RefClass)

include h

/-- More HALs: their side grows, and the other side stays. -/
theorem sides_of_more_hals (hndk : l'.ndk = l.ndk) (hroots : l.spHal ⊆ l'.spHal) :
    (l.tiers oracle).spHal ⊆ (l'.tiers oracle).spHal ∧
      (∀ id, (l.tiers oracle).HalSide id → (l'.tiers oracle).HalSide id) ∧
      (l'.tiers oracle).spNdk = (l.tiers oracle).spNdk ∧
      ∀ id, (l'.tiers oracle).NdkSide id ↔ (l.tiers oracle).NdkSide id := by
  refine ⟨?_, ?_, ?_, ?_⟩
  · rw [tiers_spHal, tiers_spHal, h.isLlNdk hndk]
    exact List.filter_subset _ hroots
  · intro id hid
    rw [halSide_iff h.reachable] at hid
    rw [halSide_iff h.reachable', h.isLlNdk hndk]
    refine ⟨h.mem_depsClosure_of_more hroots ?_ hid.1, hid.2⟩
    intro id _ hold hnew
    rw [h.isNdk hndk, hold] at hnew
    cases hnew
  · rw [tiers_spNdk, tiers_spNdk, h.isLlNdk hndk, h.spNdk hndk]
  · intro id
    rw [ndkSide_iff h.reachable, ndkSide_iff h.reachable', h.depsClosure hndk, h.spNdk hndk]

/-- A larger NDK: the side of the HALs shrinks. -/
theorem halSide_of_more_ndk (hrules : l'.spHalRules = l.spHalRules)
    (hndk : ∀ id, l'.isNdk id = false → l.isNdk id = false)
    (hll : ∀ id, l'.isLlNdk id = false → l.isLlNdk id = false) {id : LibId}
    (hid : (l'.tiers oracle).HalSide id) : (l.tiers oracle).HalSide id := by
  rw [halSide_iff h.reachable', h.spHal hrules] at hid
  rw [halSide_iff h.reachable]
  exact ⟨h.mem_depsClosure_of_fewer (List.Subset.refl _) hndk hid.1, hll id hid.2⟩

/-- More low-level NDK libraries: both sides shrink. -/
theorem sides_of_more_lowLevel (hrules : l'.spHalRules = l.spHalRules)
    (hkind : ∀ id, l'.ndkKind? id = l.ndkKind? id ∨ l'.ndkKind? id = some .lowLevel) :
    (l'.tiers oracle).spHal ⊆ (l.tiers oracle).spHal ∧
      (l'.tiers oracle).spNdk ⊆ (l.tiers oracle).spNdk ∧
      (∀ id, (l'.tiers oracle).HalSide id → (l.tiers oracle).HalSide id) ∧
      ∀ id, (l'.tiers oracle).NdkSide id → (l.tiers oracle).NdkSide id := by
  have hkept : ∀ id, l'.ndkKind? id ≠ some .lowLevel → l'.ndkKind? id = l.ndkKind? id :=
    fun id hid => (hkind id).resolve_right hid
  have hndk : ∀ id, l'.isNdk id = false → l.isNdk id = false := by
    simp only [not_isNdk_iff]
    intro id hid
    rw [← hkept id (by simp [hid]), hid]
  have hll : ∀ id, l'.isLlNdk id = false → l.isLlNdk id = false := by
    simp only [not_isLlNdk_iff]
    intro id hid
    rwa [← hkept id hid]
  have hroots : l'.spNdk ⊆ l.spNdk := by
    intro id hid
    rw [mem_spNdk_iff_kind] at hid ⊢
    rw [← h.size, ← hkept id (by simp [hid.2])]
    exact hid
  have hfilter : ∀ {roots roots' : List LibId}, roots' ⊆ roots →
      roots'.filter (!l'.isLlNdk ·) ⊆ roots.filter (!l.isLlNdk ·) := by
    intro roots roots' hroots id hid
    rw [List.mem_filter, Bool.not_eq_true'] at hid ⊢
    exact ⟨hroots hid.1, hll id hid.2⟩
  refine ⟨?_, ?_, ?_, ?_⟩
  · rw [tiers_spHal, tiers_spHal, h.spHal hrules]
    exact hfilter (List.Subset.refl _)
  · rw [tiers_spNdk, tiers_spNdk]
    exact hfilter hroots
  · intro id
    exact h.halSide_of_more_ndk oracle hrules hndk hll
  · intro id hid
    rw [ndkSide_iff h.reachable'] at hid
    rw [ndkSide_iff h.reachable]
    exact h.mem_depsClosure_of_fewer hroots hndk hid

/-- More same-process NDK libraries: their side grows, and that of the HALs shrinks. -/
theorem sides_of_more_sameProcess (hrules : l'.spHalRules = l.spHalRules)
    (hkind : ∀ id, l'.ndkKind? id = l.ndkKind? id ∨
      (l'.ndkKind? id = some .sameProcess ∧ l.ndkKind? id ≠ some .lowLevel)) :
    (l'.tiers oracle).spHal = (l.tiers oracle).spHal ∧
      (l.tiers oracle).spNdk ⊆ (l'.tiers oracle).spNdk ∧
      (∀ id, (l.tiers oracle).NdkSide id → (l'.tiers oracle).NdkSide id) ∧
      ∀ id, (l'.tiers oracle).HalSide id → (l.tiers oracle).HalSide id := by
  have hndk : ∀ id, l'.isNdk id = false → l.isNdk id = false := by
    simp only [not_isNdk_iff]
    intro id hid
    rcases hkind id with hsame | ⟨hnew, _⟩
    · rw [← hsame, hid]
    · rw [hid] at hnew
      cases hnew
  have hll : l'.isLlNdk = l.isLlNdk := by
    funext id
    rw [Linker.isLlNdk, Linker.isLlNdk]
    rcases hkind id with hsame | ⟨hnew, hold⟩
    · rw [hsame]
    · simp [hnew, hold]
  have hgained : ∀ id < l.image.size, l.ndkKind? id ≠ l'.ndkKind? id → id ∈ l'.spNdk := by
    intro id hid hne
    rcases hkind id with hsame | ⟨hnew, _⟩
    · exact absurd hsame.symm hne
    · exact mem_spNdk_iff_kind.mpr ⟨h.size.symm ▸ hid, hnew⟩
  have hroots : l.spNdk ⊆ l'.spNdk := by
    intro id hid
    have hold := mem_spNdk_iff_kind.mp hid
    by_cases hsame : l.ndkKind? id = l'.ndkKind? id
    · rw [mem_spNdk_iff_kind, h.size, ← hsame]
      exact hold
    · exact hgained id hold.1 hsame
  refine ⟨?_, ?_, ?_, ?_⟩
  · rw [tiers_spHal, tiers_spHal, h.spHal hrules, hll]
  · rw [tiers_spNdk, tiers_spNdk, hll]
    exact List.filter_subset _ hroots
  · intro id hid
    rw [ndkSide_iff h.reachable] at hid
    rw [ndkSide_iff h.reachable']
    apply h.mem_depsClosure_of_more hroots _ hid
    intro id hlt hold hnew
    apply hgained id hlt
    intro hsame
    rw [Linker.isNdk, ← hsame] at hnew
    rw [Linker.isNdk, hnew] at hold
    cases hold
  · intro id
    exact h.halSide_of_more_ndk oracle hrules hndk fun id hid => by rwa [← hll]

end SameGraph

/-! ## The law -/

/-- Longer lists in the settings, one list at a time. More patterns make the side of the HALs
grow and leave the other side as it is. More low-level stems make both sides shrink. More
same-process stems make their own side grow and that of the HALs shrink. -/
theorem longer_lists_move_the_sides_one_way {c : Config} (hpolicy : c.policy = .lenient)
    {libs : List Library} {l : Linker} (hl : ofManifest c libs = .ok l)
    (oracle : Library → RefClass) (more : List String) :
    (∀ start, ofConfig { c with extraSpHalPatterns := c.extraSpHalPatterns ++ more } = .ok start →
      ∃ l', ofManifest { c with extraSpHalPatterns := c.extraSpHalPatterns ++ more } libs = .ok l' ∧
        (l.tiers oracle).spHal ⊆ (l'.tiers oracle).spHal ∧
        (∀ id, (l.tiers oracle).HalSide id → (l'.tiers oracle).HalSide id) ∧
        (l'.tiers oracle).spNdk = (l.tiers oracle).spNdk ∧
        ∀ id, (l'.tiers oracle).NdkSide id ↔ (l.tiers oracle).NdkSide id) ∧
      (∃ l', ofManifest { c with extraLlNdk := c.extraLlNdk ++ more } libs = .ok l' ∧
        (l'.tiers oracle).spHal ⊆ (l.tiers oracle).spHal ∧
        (l'.tiers oracle).spNdk ⊆ (l.tiers oracle).spNdk ∧
        (∀ id, (l'.tiers oracle).HalSide id → (l.tiers oracle).HalSide id) ∧
        ∀ id, (l'.tiers oracle).NdkSide id → (l.tiers oracle).NdkSide id) ∧
      ∃ l', ofManifest { c with extraSpNdk := c.extraSpNdk ++ more } libs = .ok l' ∧
        (l'.tiers oracle).spHal = (l.tiers oracle).spHal ∧
        (l.tiers oracle).spNdk ⊆ (l'.tiers oracle).spNdk ∧
        (∀ id, (l.tiers oracle).NdkSide id → (l'.tiers oracle).NdkSide id) ∧
        ∀ id, (l'.tiers oracle).HalSide id → (l.tiers oracle).HalSide id := by
  obtain ⟨hndk, hrules⟩ := settings_of_ofManifest hl
  refine ⟨?_, ?_, ?_⟩
  · intro start hstart
    have hl' := ofManifest_of_linked hl hstart hpolicy
    obtain ⟨hndk', hrules'⟩ := settings_of_ofManifest hl'
    obtain ⟨new, hnew⟩ := SpHalRules.withExtra_append hrules hrules'
    have hgraph := sameGraph_of_ofManifest hl hl' rfl
    refine ⟨_, hl', hgraph.sides_of_more_hals oracle (hndk'.trans hndk.symm) ?_⟩
    intro id hid
    rw [mem_spHal_iff_path] at hid ⊢
    rw [hgraph.size, hgraph.path]
    exact ⟨hid.1, SpHalRules.isSpHal_append hnew hid.2⟩
  · have hstart := (ofConfig_eq_ok_iff
      (c := { c with extraLlNdk := c.extraLlNdk ++ more })).mpr ⟨_, hrules, rfl⟩
    have hl' := ofManifest_of_linked hl hstart hpolicy
    obtain ⟨hndk', hrules'⟩ := settings_of_ofManifest hl'
    have hgraph := sameGraph_of_ofManifest hl hl' rfl
    refine ⟨_, hl', hgraph.sides_of_more_lowLevel oracle ?_ ?_⟩
    · exact Except.ok.inj (hrules'.symm.trans hrules)
    · intro id
      rw [ndkKind?, ndkKind?, hgraph.path, hndk, hndk']
      exact NdkLists.classify_more_lowLevel _ _ _ _
  · have hstart := (ofConfig_eq_ok_iff
      (c := { c with extraSpNdk := c.extraSpNdk ++ more })).mpr ⟨_, hrules, rfl⟩
    have hl' := ofManifest_of_linked hl hstart hpolicy
    obtain ⟨hndk', hrules'⟩ := settings_of_ofManifest hl'
    have hgraph := sameGraph_of_ofManifest hl hl' rfl
    refine ⟨_, hl', hgraph.sides_of_more_sameProcess oracle ?_ ?_⟩
    · exact Except.ok.inj (hrules'.symm.trans hrules)
    · intro id
      rw [ndkKind?, ndkKind?, hgraph.path, hndk, hndk']
      exact NdkLists.classify_more_sameProcess _ _ _ _

/-- A library of the same-process NDK needs a second library, and that one a third. -/
def threeInARow : List Library :=
  [bareLib "/system/lib/libEGL.so" ["libui.so"], bareLib "/system/lib/libui.so" ["libbase.so"],
    bareLib "/system/lib/libbase.so" []]

theorem the_last_of_three_is_still_needed_if_the_second_is_ndk :
    Config.default.policy = .lenient ∧
      (∃ l, ofManifest .default threeInARow = .ok l ∧ l.image.deps 0 = [1] ∧
        l.image.deps 1 = [2] ∧ (l.tiers fun _ => .newLib).NdkSide 2) ∧
      ∃ l', ofManifest { Config.default with extraSpNdk := ["libui"] } threeInARow = .ok l' ∧
        (l'.tiers fun _ => .newLib).NdkSide 2 := by
  have hstart : ofConfig .default = .ok ⟨.default, .withExtra [] [], .builtIn, .empty⟩ :=
    ofConfig_eq_ok_iff.mpr ⟨_, by simp [SpHalRules.withExtra, SpHalRules.extraRules, Except.map,
      Config.default], rfl⟩
  have hl : ofManifest .default threeInARow = .ok (.holding _ threeInARow) :=
    ofManifest_of_ok hstart rfl _
  have hside : ((holding ⟨.default, .withExtra [] [], .builtIn, .empty⟩ threeInARow).tiers
      fun _ => .newLib).NdkSide 2 := by
    rw [ndkSide_iff ((Fresh.ofConfig hstart).reachable_holding _)]
    decide +kernel
  obtain ⟨_, _, l', hl', _, _, hgrows, _⟩ :=
    longer_lists_move_the_sides_one_way rfl hl (fun _ => .newLib) ["libui"]
  exact ⟨rfl, ⟨_, hl, by decide +kernel, by decide +kernel, hside⟩, l', hl', hgrows 2 hside⟩

end Linker

end ImageTiers
