-- The patterns of the settings. They come after the rules of the table, and all of them include.
-- The law, for any engine of patterns: such a pattern can make a HAL of a path that no rule of
-- the table applies to, and that is all it can do; in which order the patterns come only tells
-- which of them is named.
import ImageTiers.Proofs.HalPaths
import ImageTiers.Proofs.Tiers

namespace ImageTiers

/-- The text is the first of the texts that has the property. -/
def FirstWith (P : String → Prop) (texts : List String) (text : String) : Prop :=
  ∃ before after, texts = before ++ text :: after ∧ P text ∧ ∀ t ∈ before, ¬ P t

/-- The text is a pattern, and it finds something in the path. -/
def Finds (engine : PatternEngine) (text path : String) : Prop :=
  ∃ pattern, engine.compile? text = some pattern ∧ engine.finds pattern path = true

instance (engine : PatternEngine) (text path : String) : Decidable (Finds engine text path) :=
  decidable_of_iff ((engine.compile? text).any (engine.finds · path) = true) <|
    Option.any_eq_true _ _

theorem firstWith_cons {P : String → Prop} {t : String} {ts : List String} {text : String} :
    FirstWith P (t :: ts) text ↔ (P t ∧ text = t) ∨ (¬ P t ∧ FirstWith P ts text) := by
  constructor
  · rintro ⟨before, after, htexts, htext, hbefore⟩
    cases before with
    | nil =>
      obtain ⟨rfl, rfl⟩ := List.cons_eq_cons.mp htexts
      exact .inl ⟨htext, rfl⟩
    | cons b before =>
      obtain ⟨rfl, rfl⟩ := List.cons_eq_cons.mp htexts
      rw [List.forall_mem_cons] at hbefore
      exact .inr ⟨hbefore.1, before, after, rfl, htext, hbefore.2⟩
  · rintro (⟨ht, rfl⟩ | ⟨ht, before, after, rfl, htext, hbefore⟩)
    · exact ⟨[], ts, rfl, ht, by simp⟩
    · exact ⟨t :: before, after, rfl, htext, List.forall_mem_cons.mpr ⟨ht, hbefore⟩⟩

theorem not_firstWith_nil {P : String → Prop} {text : String} : ¬ FirstWith P [] text := by
  rintro ⟨before, after, htexts, _⟩
  simp at htexts

theorem FirstWith.holds {P : String → Prop} {texts : List String} {text : String}
    (h : FirstWith P texts text) : P text := by
  obtain ⟨_, _, _, htext, _⟩ := h
  exact htext

theorem exists_firstWith_iff {P : String → Prop} {texts : List String} :
    (∃ text, FirstWith P texts text) ↔ ∃ text ∈ texts, P text := by
  induction texts with
  | nil => simp [not_firstWith_nil]
  | cons t ts ih =>
    by_cases ht : P t
    · simp [firstWith_cons, ht]
    · simp [firstWith_cons, ht, ih]

theorem Finds.exists_rule {engine : PatternEngine} {text path : String}
    (h : Finds engine text path) :
    ∃ rule, SpHalRule.ofText? engine .inclusion text "config" = some rule ∧
      rule.action = .inclusion := by
  obtain ⟨pattern, hpattern, _⟩ := h
  exact ⟨⟨.inclusion, text, engine.finds pattern, "config"⟩,
    by simp [SpHalRule.ofText?, hpattern], rfl⟩

namespace SpHalRules

section

variable {engine : PatternEngine}

/-! ## The rules of the settings -/

/-- Each text has become the rule that includes what it finds. -/
def RulesOf (engine : PatternEngine) : List String → List SpHalRule → Prop :=
  List.Forall₂ fun text rule => SpHalRule.ofText? engine .inclusion text "config" = some rule

theorem extraRules_eq_ok_iff {texts : List String} {rules : List SpHalRule} :
    extraRules engine texts = .ok rules ↔ RulesOf engine texts rules := by
  induction texts generalizing rules with
  | nil => simp [extraRules, RulesOf, eq_comm]
  | cons text texts ih =>
    rw [extraRules, RulesOf, List.forall₂_cons_left_iff]
    cases hrule : SpHalRule.ofText? engine .inclusion text "config" with
    | none => simp
    | some rule =>
      constructor
      · intro h
        cases hrest : extraRules engine texts with
        | error e => simp [hrest] at h
        | ok rest =>
          simp only [hrest, Except.map_ok, Except.ok.injEq] at h
          exact ⟨rule, rest, rfl, ih.mp hrest, h.symm⟩
      · rintro ⟨_, rest, ⟨⟩, hrest, rfl⟩
        rw [ih.mpr hrest]
        rfl

theorem extraRules_eq_error_iff {texts : List String} {text : String} :
    extraRules engine texts = .error text ↔ FirstWith (engine.compile? · = none) texts text := by
  induction texts with
  | nil => simp [extraRules, not_firstWith_nil]
  | cons t texts ih =>
    rw [extraRules, firstWith_cons, ← ih, SpHalRule.ofText?]
    cases engine.compile? t with
    | none => simp [eq_comm]
    | some pattern => cases extraRules engine texts <;> simp

theorem withExtra_eq_error_iff {texts : List String} {text : String} :
    withExtra texts engine = .error text ↔ FirstWith (engine.compile? · = none) texts text := by
  rw [← extraRules_eq_error_iff, withExtra]
  cases extraRules engine texts <;> simp [Except.map]

theorem withExtra_eq_ok_iff {texts : List String} {r : SpHalRules} :
    withExtra texts engine = .ok r ↔
      ∃ extra, RulesOf engine texts extra ∧ r = ⟨(builtIn engine).rules ++ extra⟩ := by
  simp only [← extraRules_eq_ok_iff, withExtra]
  cases extraRules engine texts <;> simp [Except.map, eq_comm]

theorem applies_iff_finds {text : String} {rule : SpHalRule}
    (h : SpHalRule.ofText? engine .inclusion text "config" = some rule) (path : String) :
    rule.applies path = true ↔ Finds engine text path := by
  rw [SpHalRule.ofText?, Option.map_eq_some_iff] at h
  obtain ⟨pattern, hpattern, rfl⟩ := h
  simp [Finds, hpattern]

/-- The first rule that applies is that of the first text that finds something. -/
theorem RulesOf.find?_eq_some_iff {texts : List String} {extra : List SpHalRule}
    (h : RulesOf engine texts extra) (path : String) (rule : SpHalRule) :
    extra.find? (·.applies path) = some rule ↔
      ∃ text, FirstWith (Finds engine · path) texts text ∧
        SpHalRule.ofText? engine .inclusion text "config" = some rule := by
  induction h with
  | nil => simp [not_firstWith_nil]
  | @cons t first texts extra hfirst _ ih =>
    simp only [firstWith_cons, ← applies_iff_finds hfirst]
    by_cases happlies : first.applies path = true
    · rw [List.find?_cons_of_pos (p := fun rule : SpHalRule => rule.applies path) happlies]
      simp [happlies, hfirst]
    · rw [List.find?_cons_of_neg (p := fun rule : SpHalRule => rule.applies path) happlies, ih]
      simp [happlies]

/-! ## Both kinds of rules -/

section

variable {texts : List String} {r : SpHalRules} {path : String}
  (h : withExtra texts engine = .ok r)

include h

theorem matchingRule?_withExtra_of_some {rule : SpHalRule}
    (hpath : (builtIn engine).matchingRule? path = some rule) :
    r.matchingRule? path = some rule := by
  obtain ⟨extra, _, rfl⟩ := withExtra_eq_ok_iff.mp h
  rw [matchingRule?] at hpath ⊢
  rw [List.find?_append, hpath, Option.some_or]

theorem matchingRule?_withExtra_of_none (hpath : (builtIn engine).matchingRule? path = none)
    (rule : SpHalRule) :
    r.matchingRule? path = some rule ↔ ∃ text, FirstWith (Finds engine · path) texts text ∧
      SpHalRule.ofText? engine .inclusion text "config" = some rule := by
  obtain ⟨extra, hextra, rfl⟩ := withExtra_eq_ok_iff.mp h
  rw [← hextra.find?_eq_some_iff, matchingRule?, List.find?_append, ← matchingRule?, hpath,
    Option.none_or]

theorem isSpHal_withExtra_of_some {rule : SpHalRule}
    (hpath : (builtIn engine).matchingRule? path = some rule) :
    r.isSpHal path = (builtIn engine).isSpHal path := by
  rw [isSpHal, matchingRule?_withExtra_of_some h hpath, isSpHal, hpath]

theorem isSpHal_withExtra_of_none (hpath : (builtIn engine).matchingRule? path = none) :
    r.isSpHal path = true ↔ ∃ text ∈ texts, Finds engine text path := by
  rw [isSpHal, ← exists_firstWith_iff, Option.any_eq_true]
  simp only [matchingRule?_withExtra_of_none h hpath]
  constructor
  · rintro ⟨rule, ⟨text, hfirst, _⟩, _⟩
    exact ⟨text, hfirst⟩
  · rintro ⟨text, hfirst⟩
    obtain ⟨rule, hrule, haction⟩ := hfirst.holds.exists_rule
    exact ⟨rule, ⟨text, hfirst, hrule⟩, by rw [haction]; rfl⟩

/-- Neither the order of the texts nor how often each of them comes makes a difference. -/
theorem withExtra_of_same_members {texts' : List String}
    (hmembers : ∀ text, text ∈ texts' ↔ text ∈ texts) :
    ∃ r', withExtra texts' engine = .ok r' ∧ ∀ path, r'.isSpHal path = r.isSpHal path := by
  cases h' : withExtra texts' engine with
  | error text =>
    obtain ⟨bad, hbad⟩ : ∃ text, FirstWith (engine.compile? · = none) texts text := by
      have hexists := exists_firstWith_iff.mp ⟨text, withExtra_eq_error_iff.mp h'⟩
      rw [exists_firstWith_iff]
      simpa only [hmembers] using hexists
    rw [withExtra_eq_error_iff.mpr hbad] at h
    cases h
  | ok r' =>
    refine ⟨r', rfl, fun path => ?_⟩
    cases hpath : (builtIn engine).matchingRule? path with
    | some rule => rw [isSpHal_withExtra_of_some h hpath, isSpHal_withExtra_of_some h' hpath]
    | none =>
      rw [Bool.eq_iff_iff, isSpHal_withExtra_of_none h hpath, isSpHal_withExtra_of_none h' hpath]
      simp only [hmembers]

theorem isSpHal_withExtra_of_mem_loaderPaths (hengine : engine.ReadsTable)
    (hpath : path ∈ loaderPaths) : r.isSpHal path = false := by
  obtain ⟨rule, hrule, haction⟩ := matchingRule?_of_mem_loaderPaths hengine hpath
  rw [isSpHal, matchingRule?_withExtra_of_some h hrule, Option.any_some, haction]
  rfl

end

end

/-! ## The law -/

/-- Whatever engine compiles and finds the patterns: texts of the settings fail at the first that
is no pattern. The rules that they make never override those of the table, they add the paths
in which one of them finds something, and the first that does is named. As sets of texts they
tell which libraries are HALs. With an engine that reads the table, no text makes a HAL of a
loader. -/
theorem extra_patterns_add_and_never_override (engine : PatternEngine) (texts : List String) :
    ((∃ text, withExtra texts engine = .error text) ↔
        ∃ text ∈ texts, engine.compile? text = none) ∧
      (∀ text, withExtra texts engine = .error text ↔
        FirstWith (engine.compile? · = none) texts text) ∧
      ∀ r, withExtra texts engine = .ok r →
        (∀ path rule, (builtIn engine).matchingRule? path = some rule →
          r.matchingRule? path = some rule ∧ r.isSpHal path = (builtIn engine).isSpHal path) ∧
        (∀ path, (builtIn engine).matchingRule? path = none →
          (r.isSpHal path = true ↔ ∃ text ∈ texts, Finds engine text path) ∧
          ∀ rule, r.matchingRule? path = some rule ↔
            ∃ text, FirstWith (Finds engine · path) texts text ∧
              SpHalRule.ofText? engine .inclusion text "config" = some rule) ∧
        (∀ texts', (∀ text, text ∈ texts' ↔ text ∈ texts) →
          ∃ r', withExtra texts' engine = .ok r' ∧ (∀ path, r'.isSpHal path = r.isSpHal path) ∧
            ∀ l : Linker, Linker.spHal { l with spHalRules := r' } =
              Linker.spHal { l with spHalRules := r }) ∧
        (engine.ReadsTable → ∀ path ∈ loaderPaths, r.isSpHal path = false ∧
          ∀ (l : Linker), ∀ id ∈ Linker.spHal { l with spHalRules := r },
            l.image.path id ≠ path) := by
  refine ⟨?_, fun text => withExtra_eq_error_iff, fun r h => ⟨?_, ?_, ?_, ?_⟩⟩
  · simp only [withExtra_eq_error_iff, exists_firstWith_iff]
  · intro path rule hpath
    exact ⟨matchingRule?_withExtra_of_some h hpath, isSpHal_withExtra_of_some h hpath⟩
  · intro path hpath
    exact ⟨isSpHal_withExtra_of_none h hpath, matchingRule?_withExtra_of_none h hpath⟩
  · intro texts' hmembers
    obtain ⟨r', h', hsame⟩ := withExtra_of_same_members h hmembers
    exact ⟨r', h', hsame, fun l => by simp only [Linker.spHal, hsame]⟩
  · intro hengine path hpath
    have hnot := isSpHal_withExtra_of_mem_loaderPaths h hengine hpath
    refine ⟨hnot, ?_⟩
    rintro l id hid rfl
    rw [Linker.mem_spHal_iff_path] at hid
    exact Bool.false_ne_true (hnot.symm.trans hid.2)

theorem the_first_pattern_that_finds_a_library_is_named :
    PatternEngine.standard.ReadsTable ∧
      ∃ r, withExtra ["EGL", "libfoo", "foo"] = .ok r ∧
        r.isSpHal "/vendor/lib/libfoo.so" = true ∧
        (∃ rule, r.matchingRule? "/vendor/lib/libfoo.so" = some rule ∧ rule.text = "libfoo") ∧
        "/system/lib/libEGL.so" ∈ loaderPaths ∧ r.isSpHal "/system/lib/libEGL.so" = false := by
  have hengine := PatternEngine.readsTable_standard
  have hpatterns : ∀ text ∈ ["EGL", "libfoo", "foo"],
      PatternEngine.standard.compile? text ≠ none := by
    decide +kernel
  have hnone : builtIn.matchingRule? "/vendor/lib/libfoo.so" = none := by
    rw [matchingRule?_builtIn_eq_none_iff hengine]
    refine ⟨by decide, fun hform => ?_⟩
    obtain ⟨start, hstart, hinfix⟩ := hform.exists_start
    have hno : ∀ start ∈ nameStarts,
        ¬ ("/" ++ start).toList <:+: "/vendor/lib/libfoo.so".toList := by decide +kernel
    exact hno start hstart hinfix
  have hfirst : FirstWith (Finds .standard · "/vendor/lib/libfoo.so") ["EGL", "libfoo", "foo"]
      "libfoo" :=
    ⟨["EGL"], ["foo"], rfl, by decide +kernel, by decide +kernel⟩
  obtain ⟨hfails, _, hlaw⟩ :=
    extra_patterns_add_and_never_override .standard ["EGL", "libfoo", "foo"]
  refine ⟨hengine, ?_⟩
  cases h : withExtra ["EGL", "libfoo", "foo"] with
  | error text =>
    obtain ⟨bad, hmem, hbad⟩ := hfails.mp ⟨text, h⟩
    exact absurd hbad (hpatterns bad hmem)
  | ok r =>
    obtain ⟨_, hadds, _, hloaders⟩ := hlaw r h
    obtain ⟨hadded, hnamed⟩ := hadds _ hnone
    obtain ⟨pattern, hpattern, _⟩ := hfirst.holds
    have hrule : SpHalRule.ofText? .standard .inclusion "libfoo" "config" =
        some ⟨.inclusion, "libfoo", PatternEngine.standard.finds pattern, "config"⟩ := by
      rw [SpHalRule.ofText?, hpattern, Option.map_some]
    exact ⟨r, rfl, hadded.mpr ⟨"libfoo", by decide, hfirst.holds⟩,
      ⟨_, (hnamed _).mpr ⟨"libfoo", hfirst, hrule⟩, rfl⟩, by decide,
      (hloaders hengine _ (by decide)).1⟩

end SpHalRules

end ImageTiers
