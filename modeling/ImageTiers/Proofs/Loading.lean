-- Loading. The libraries of a manifest are added in order until one is refused, and the
-- first path that comes a second time decides whether one is. If none is, the image is
-- linked, and what it then holds is told by the libraries alone.
import ImageTiers.Proofs.Policies

namespace ImageTiers

/-- The first of some paths that is taken already, or that comes a second time. -/
def repeated? (taken : List String) : List String → Option String
  | [] => none
  | path :: paths => if path ∈ taken then some path else repeated? (taken ++ [path]) paths

theorem repeated?_eq_none_iff {taken : List String} (h : taken.Nodup) (paths : List String) :
    repeated? taken paths = none ↔ (taken ++ paths).Nodup := by
  induction paths generalizing taken with
  | nil => simpa [repeated?] using h
  | cons path paths ih =>
    rw [repeated?]
    split
    · rename_i hold
      simp only [reduceCtorEq, false_iff, List.nodup_append, not_and]
      intro _ _ hne
      exact hne path hold path List.mem_cons_self rfl
    · rename_i hnew
      have hnext : (taken ++ [path]).Nodup := by
        rw [List.nodup_append]
        refine ⟨h, List.nodup_singleton path, ?_⟩
        intro a ha b hb hab
        rw [List.mem_singleton.mp hb] at hab
        exact hnew (hab ▸ ha)
      rw [ih hnext, List.append_assoc, List.singleton_append]

namespace Linker

/-! ## Libraries one after the other -/

/-- What the loading of some libraries comes to is decided by the first repeated path. -/
theorem Reachable.load_cases {l : Linker} (h : Reachable l) (libs : List Library) :
    (∃ path, repeated? (l.image.libraries.map (·.path)) (libs.map (·.path)) = some path ∧
      (l.load libs).outcome = .error (.duplicatePath path)) ∨
    (repeated? (l.image.libraries.map (·.path)) (libs.map (·.path)) = none ∧
      (l.load libs).outcome = .ok () ∧ (l.load libs).linker = l.after (libs.map .add) ∧
      l.accepted (libs.map .add) = libs) := by
  induction libs generalizing l with
  | nil => exact Or.inr ⟨rfl, rfl, rfl, rfl⟩
  | cons lib libs ih =>
    have hnext := ih (h.add lib)
    rcases h.add_cases lib with ⟨hold, ha⟩ | ⟨hnew, ha⟩
    · refine Or.inl ⟨lib.path, ?_, ?_⟩
      · rw [List.map_cons, repeated?, if_pos hold]
      · rw [load, ha]
    · simp only [ha, Image.libraries_push, List.map_append, List.map_cons, List.map_nil] at hnext
      simp only [load, ha, List.map_cons, repeated?, if_neg hnew,
        Linker.after, accepted, List.cons.injEq, true_and]
      exact hnext

/-- A linker without libraries takes in all of those that have different paths, and no others. -/
theorem Fresh.accepted_add {start : Linker} (h : Fresh start) (libs : List Library) :
    start.accepted (libs.map .add) = libs ↔ (libs.map (·.path)).Nodup := by
  constructor
  · intro hall
    have hnodup := ((Reachable.fresh h).after (libs.map .add)).indexed.paths_nodup
    rwa [h.libraries_after, hall] at hnodup
  · intro hnodup
    rcases (Reachable.fresh h).load_cases libs with ⟨path, hpath, _⟩ | ⟨_, _, _, hall⟩
    · rw [h.image_eq, Image.libraries_empty, List.map_nil,
        (repeated?_eq_none_iff List.nodup_nil _).mpr hnodup] at hpath
      cases hpath
    · exact hall

/-! ## The image of a manifest -/

theorem ofConfig_eq_ok_iff {c : Config} {start : Linker} :
    ofConfig c = .ok start ↔ ∃ rules, SpHalRules.withExtra c.extraSpHalPatterns = .ok rules ∧
      start = ⟨c, .withExtra c.extraLlNdk c.extraSpNdk, rules, .empty⟩ := by
  rw [ofConfig]
  cases SpHalRules.withExtra c.extraSpHalPatterns with
  | error text => simp
  | ok rules => simp [eq_comm]

/-- The linker that was given some libraries, and linked them. -/
def holding (start : Linker) (libs : List Library) : Linker :=
  (start.after (libs.map .add)).resolve.linker

/-- The linked image of a manifest under given settings, or why there is none. -/
def ofManifest (c : Config) (libs : List Library) : Except LinkError Linker := do
  let start ← ofConfig c
  let loaded := start.load libs
  let _ ← loaded.outcome
  let resolved := loaded.linker.resolve
  let _ ← resolved.outcome
  return resolved.linker

theorem holding_eq (start : Linker) (libs : List Library) :
    start.holding libs = { start with image := (start.holding libs).image } := by
  rw [holding, resolve, after_eq]

theorem Fresh.reachable_holding {start : Linker} (h : Fresh start) (libs : List Library) :
    Reachable (start.holding libs) :=
  ((Reachable.fresh h).after _).resolve

theorem Fresh.libraries_holding {start : Linker} (h : Fresh start) {libs : List Library}
    (hlibs : (libs.map (·.path)).Nodup) : (start.holding libs).image.libraries = libs := by
  rw [holding, h.libraries_resolve, (h.accepted_add libs).mpr hlibs]

/-- The image of some libraries is a linking of an image with just these libraries. -/
theorem Fresh.image_holding {start : Linker} (h : Fresh start) {libs : List Library}
    (hlibs : (libs.map (·.path)).Nodup) :
    ∃ img : Image, img.Indexed ∧ img.libraries = libs ∧
      (start.holding libs).image = (img.link start.config.symbolFallback).image := by
  refine ⟨(start.after (libs.map .add)).image, ((Reachable.fresh h).after _).indexed, ?_, ?_⟩
  · rw [h.libraries_after, (h.accepted_add libs).mpr hlibs]
  · rw [holding, image_resolve, linked, config_after]

/-- The edges from a library are told by the libraries, in the order of the names it needs. -/
theorem Fresh.deps_holding {start : Linker} (h : Fresh start) {libs : List Library}
    (hlibs : (libs.map (·.path)).Nodup) (id : LibId) :
    (start.holding libs).image.deps id = (foundBy libs id).eraseDups := by
  obtain ⟨img, himg, rfl, hlink⟩ := h.image_holding hlibs
  rw [hlink, Image.deps_link himg]

theorem ofManifest_of_error {c : Config} {e : LinkError} (h : ofConfig c = .error e)
    (libs : List Library) : ofManifest c libs = .error e := by
  simp only [ofManifest, h]
  rfl

/-- Under the lenient policy only a repeated path stands in the way. -/
theorem ofManifest_of_ok {c : Config} {start : Linker} (h : ofConfig c = .ok start)
    (hpolicy : c.policy = .lenient) (libs : List Library) :
    ofManifest c libs =
      match repeated? [] (libs.map (·.path)) with
      | some path => .error (.duplicatePath path)
      | none => .ok (start.holding libs) := by
  have hfresh : Fresh start := .ofConfig h
  have hconfig : start.config = c := by
    obtain ⟨_, _, rfl⟩ := ofConfig_eq_ok_iff.mp h
    rfl
  have hload := (Reachable.fresh hfresh).load_cases libs
  rw [hfresh.image_eq, Image.libraries_empty, List.map_nil] at hload
  rcases hload with ⟨path, hpath, houtcome⟩ | ⟨hpath, houtcome, hlinker, _⟩
  · simp only [ofManifest, h, bind, Except.bind, hpath, houtcome]
  · have hresolve := outcome_resolve (start.after (libs.map .add))
    rw [config_after, hconfig, hpolicy, if_pos (Or.inl rfl)] at hresolve
    simp only [ofManifest, h, bind, Except.bind, hpath, houtcome, hlinker, hresolve]
    rfl

/-- The linked image of a manifest comes from a linker as it is set up, and from libraries
with different paths. -/
theorem eq_holding_of_ofManifest {c : Config} {libs : List Library} {l : Linker}
    (h : ofManifest c libs = .ok l) :
    ∃ start, ofConfig c = .ok start ∧ (libs.map (·.path)).Nodup ∧ l = start.holding libs := by
  cases hstart : ofConfig c with
  | error e =>
    rw [ofManifest_of_error hstart] at h
    cases h
  | ok start =>
    have hfresh : Fresh start := .ofConfig hstart
    rcases (Reachable.fresh hfresh).load_cases libs with
      ⟨path, _, houtcome⟩ | ⟨_, houtcome, hlinker, hall⟩
    · simp only [ofManifest, hstart, bind, Except.bind, houtcome] at h
      cases h
    · refine ⟨start, rfl, (hfresh.accepted_add libs).mp hall, ?_⟩
      simp only [ofManifest, hstart, bind, Except.bind, houtcome, hlinker] at h
      split at h
      · cases h
      · cases h
        rfl

theorem libraries_of_ofManifest {c : Config} {libs : List Library} {l : Linker}
    (h : ofManifest c libs = .ok l) : l.image.libraries = libs := by
  obtain ⟨_, hstart, hpaths, rfl⟩ := eq_holding_of_ofManifest h
  exact (Fresh.ofConfig hstart).libraries_holding hpaths

/-- The settings of a linked manifest. -/
theorem settings_of_ofManifest {c : Config} {libs : List Library} {l : Linker}
    (h : ofManifest c libs = .ok l) :
    l.ndk = .withExtra c.extraLlNdk c.extraSpNdk ∧
      SpHalRules.withExtra c.extraSpHalPatterns = .ok l.spHalRules := by
  obtain ⟨start, hstart, _, rfl⟩ := eq_holding_of_ofManifest h
  obtain ⟨rules, hrules, rfl⟩ := ofConfig_eq_ok_iff.mp hstart
  rw [holding_eq]
  exact ⟨rfl, hrules⟩

/-- A manifest that was linked once can be linked under all lenient settings. -/
theorem ofManifest_of_linked {c c' : Config} {libs : List Library} {l start' : Linker}
    (h : ofManifest c libs = .ok l) (hstart' : ofConfig c' = .ok start')
    (hpolicy' : c'.policy = .lenient) : ofManifest c' libs = .ok (start'.holding libs) := by
  obtain ⟨_, _, hpaths, _⟩ := eq_holding_of_ofManifest h
  rw [ofManifest_of_ok hstart' hpolicy', (repeated?_eq_none_iff List.nodup_nil _).mpr hpaths]

end Linker

end ImageTiers
