-- Strictness. The strict switch overrides the policy of the configuration, and a strict run
-- does what a lenient one does until the image is linked. The laws: the policy in the file
-- does not show in strict runs, and a run that is stopped by the switch alone is stopped
-- because something was not found.
import ImageTiers.Proofs.Invocations

namespace ImageTiers

/-! ## Settings but for the policy -/

namespace Config

def withPolicy (p : LinkPolicy) (c : Config) : Config := { c with policy := p }

/-- The member of a configuration object that sets the policy, if one does. -/
def policyMember : Option LinkPolicy → List Json.Member
  | none => []
  | some p => [(some "policy", .string (some p.name))]

/-- Two texts of one configuration object, of which each may set a policy or set none. -/
def DifferInPolicy (text text' : String) : Prop :=
  ∃ (before after : List Json.Member) (ending : Json.Ending) (clean : Bool)
    (p p' : Option LinkPolicy),
    (∀ m ∈ before ++ after, m.1 ≠ some "policy") ∧
      Json.read text = ⟨.object (before ++ (policyMember p ++ after)) ending, clean⟩ ∧
      Json.read text' = ⟨.object (before ++ (policyMember p' ++ after)) ending, clean⟩

/-- Only the member with its name reads or writes the policy. -/
theorem put_policy (s : Slots) (policy : Option LinkPolicy) {m : Json.Member}
    (hm : m.1 ≠ some "policy") :
    put { s with policy } m = (put s m).map fun s => { s with policy } := by
  unfold put
  split
  case h_1 => rfl
  case h_2 => exact absurd rfl hm
  case h_7 => rfl
  all_goals
    simp only [bind, Except.bind]
    split <;> rfl

theorem foldlM_put_policy (members : List Json.Member) (s : Slots) (policy : Option LinkPolicy)
    (h : ∀ m ∈ members, m.1 ≠ some "policy") :
    members.foldlM put { s with policy } =
      (members.foldlM put s).map fun s => { s with policy } := by
  induction members generalizing s with
  | nil => rfl
  | cons m members ih =>
    obtain ⟨hm, hmembers⟩ := List.forall_mem_cons.mp h
    simp only [List.foldlM_cons, put_policy s policy hm, bind, Except.bind]
    cases put s m with
    | error e => rfl
    | ok s => exact ih s hmembers

theorem policy_of_foldlM_put {members : List Json.Member} {s s' : Slots}
    (h : ∀ m ∈ members, m.1 ≠ some "policy") (hs : members.foldlM put s = .ok s') :
    s'.policy = s.policy := by
  have hsame := foldlM_put_policy members s s.policy h
  rw [show ({ s with policy := s.policy } : Slots) = s from rfl, hs, Except.map,
    Except.ok.injEq] at hsame
  rw [hsame]

/-- A policy in the object changes nothing else in the settings. -/
theorem decoder_policyMember (before after : List Json.Member) (ending : Json.Ending)
    (p : Option LinkPolicy) (q : LinkPolicy) (h : ∀ m ∈ before ++ after, m.1 ≠ some "policy") :
    (decoder (.object (before ++ (policyMember p ++ after)) ending)).map (·.withPolicy q) =
      (decoder (.object (before ++ after) ending)).map (·.withPolicy q) := by
  obtain ⟨hbefore, hafter⟩ := List.forall_mem_append.mp h
  cases p with
  | none => rfl
  | some p =>
    simp only [decoder, policyMember, List.cons_append, List.nil_append, List.foldlM_append, bind,
      Except.bind]
    cases hs : before.foldlM put .empty with
    | error e => rfl
    | ok s =>
      have hpolicy : s.policy = none := policy_of_foldlM_put hbefore hs
      have hput : put s (some "policy", .string (some p.name)) =
          .ok { s with policy := some p } := by
        cases p <;> simp [put, Json.fill, hpolicy] <;> rfl
      simp only [List.foldlM_cons, hput, bind, Except.bind,
        foldlM_put_policy after s (some p) hafter]
      cases after.foldlM put s with
      | error e => rfl
      | ok s =>
        simp only [Except.map]
        cases Json.ensure (decide (ending = .closed)) <;> rfl

theorem DifferInPolicy.ofText {text text' : String} (h : DifferInPolicy text text')
    (q : LinkPolicy) :
    (Config.ofText text').map (·.withPolicy q) = (Config.ofText text).map (·.withPolicy q) := by
  obtain ⟨before, after, ending, clean, p, p', hother, htext, htext'⟩ := h
  have hroot := (decoder_policyMember before after ending p' q hother).trans
    (decoder_policyMember before after ending p q hother).symm
  simp only [Config.ofText, Json.decode, htext, htext', bind, Except.bind]
  revert hroot
  cases decoder (.object (before ++ (policyMember p ++ after)) ending) <;>
    cases decoder (.object (before ++ (policyMember p' ++ after)) ending) <;> intro hroot
  · exact hroot
  · cases hroot
  · cases hroot
  · cases clean
    · rfl
    · exact hroot

end Config

/-! ## Linkers but for the policy -/

namespace Linker

def withPolicy (p : LinkPolicy) (l : Linker) : Linker :=
  { l with config := l.config.withPolicy p }

theorem ofConfig_withPolicy (c : Config) (p : LinkPolicy) :
    ofConfig (c.withPolicy p) = (ofConfig c).map (withPolicy p) := by
  simp only [ofConfig, Config.withPolicy]
  split <;> rfl

theorem load_withPolicy (l : Linker) (p : LinkPolicy) (libs : List Library) :
    (l.withPolicy p).load libs =
      { l.load libs with linker := (l.load libs).linker.withPolicy p } := by
  induction libs generalizing l with
  | nil => rfl
  | cons lib libs ih =>
    have hadd : (l.withPolicy p).add lib =
        { l.add lib with linker := (l.add lib).linker.withPolicy p } := by
      simp only [add, withPolicy]
      split <;> rfl
    rw [load, load, hadd]
    rcases l.add lib with ⟨l', log, e | id⟩
    · rfl
    · simp only [ih]

/-- A report is empty if there is nothing to count. -/
theorem isEmpty_report_iff (l : Linker) :
    l.linked.report.isEmpty = true ↔
      l.linked.stats.missingDeps = 0 ∧ l.linked.stats.unresolvedSymbols = 0 := by
  obtain ⟨hdeps, hsymbols⟩ := Image.counts_link l.image l.config.symbolFallback
  rw [linked, ← hdeps, ← hsymbols, UnresolvedReport.isEmpty, Bool.and_eq_true]
  simp only [List.length_eq_zero_iff, List.isEmpty_iff]

theorem outcome_withPolicy (l : Linker) (p : LinkPolicy) :
    (l.withPolicy p).resolve.outcome =
      if p = .lenient ∨
          (l.linked.stats.missingDeps = 0 ∧ l.linked.stats.unresolvedSymbols = 0) then
        .ok l.linked.stats
      else .error (.unresolved l.linked.report) :=
  outcome_resolve (l.withPolicy p)

end Linker

/-! ## The parts of a run -/

namespace Run

variable {α β : Type}

theorem map_get {ε : Type} (f : α → β) (activities : List Activity) (cause : ε → Cause)
    (result : Except ε α) :
    f <$> get activities cause result = get activities cause (result.map f) := by
  cases result <;> rfl

theorem map_step (f : Linker → Linker) (s : Step α) :
    f <$> step s = step { s with linker := f s.linker } := by
  obtain ⟨l, log, e | a⟩ := s <;> rfl

end Run

namespace Invocation

/-- The part of a run before the linking: the libraries of the manifest. -/
def loadLibraries (inv : Invocation) (files : Files) : Run Linker := do
  let some file := inv.manifest | Run.fail [] (.usage .manifestRequired)
  let config ← inv.loadConfig files
  let linker ← Run.get [] .link (Linker.ofConfig config)
  Run.step (linker.load (← loadManifest file files))

theorem loadImage_eq (inv : Invocation) (files : Files) :
    inv.loadImage files = inv.loadLibraries files >>= fun l => Run.step l.resolve := by
  rw [loadImage, loadLibraries]
  cases inv.manifest with
  | none => rfl
  | some file => simp only [bind_assoc]

/-- A run whose image is linked under the policy `p`, whatever the settings say. -/
def runUnder (inv : Invocation) (p : LinkPolicy) (files : Files) : Run Unit := do
  if inv.help then
    Run.write (usage ++ "\n")
  else
    let some command := inv.command | Run.fail [] (.usage .noCommand)
    let l ← inv.loadLibraries files
    let l ← Run.step (l.withPolicy p).resolve
    let text ← inv.report files l command
    Run.write text

def withStrict (strict : Bool) (inv : Invocation) : Invocation := { inv with strict := strict }

end Invocation

/-! ## Files but for the policy -/

/-- The settings that a file holds, or why they cannot be had. -/
def Files.config (files : Files) (file : String) : Except LinkError Config :=
  match files.text file with
  | .error e => .error (.file e)
  | .ok text => (Config.ofText text).mapError .config

/-- Two files whose texts differ in the policy hold the same settings but for it. -/
theorem Files.config_of_differInPolicy {files files' : Files} {file text text' : String}
    (htext : files.text file = .ok text) (htext' : files'.text file = .ok text')
    (h : Config.DifferInPolicy text text') (p : LinkPolicy) :
    (files'.config file).map (·.withPolicy p) = (files.config file).map (·.withPolicy p) := by
  have hswap : ∀ read : Except Json.DecodeError Config,
      (read.mapError LinkError.config).map (·.withPolicy p) =
        (read.map (·.withPolicy p)).mapError .config := by
    rintro (e | c) <;> rfl
  simp only [config, htext, htext', hswap, h.ofText p]

/-- The files that the invocation names hold the same in both cases, but for the policy in
the configuration file. -/
structure Invocation.SameButPolicy (inv : Invocation) (files files' : Files) : Prop where
  manifest : ∀ file, inv.manifest = some file → files' file = files file
  reference : ∀ file, inv.genericRefs = some file → files' file = files file
  config : ∀ file, inv.config = some file → ∀ p,
    (files'.config file).map (·.withPolicy p) = (files.config file).map (·.withPolicy p)

namespace Invocation

theorem settings_withPolicy (inv : Invocation) (config : Option Config) (p : LinkPolicy) :
    (inv.settings config).withPolicy p = (config.getD .default).withPolicy p := by
  rw [settings]
  split <;> rfl

theorem loadConfig_eq (inv : Invocation) (files : Files) :
    inv.loadConfig files =
      match inv.config with
      | none => pure (inv.settings none)
      | some file =>
        Run.get [.loadingConfig file] .link
          ((files.config file).map fun c => inv.settings (some c)) := by
  rw [loadConfig]
  cases inv.config with
  | none =>
    simp only [settings, Option.getD_none, pure_bind]
  | some file =>
    simp only [Files.config, settings, Option.getD_some]
    cases files.text file with
    | error e => rfl
    | ok text =>
      simp only [Run.get, pure_bind]
      cases Config.ofText text with
      | error e => rfl
      | ok c => cases inv.strict <;> rfl

theorem withPolicy_loadConfig (inv : Invocation) (files : Files) (p : LinkPolicy) :
    Config.withPolicy p <$> inv.loadConfig files =
      match inv.config with
      | none => pure (Config.default.withPolicy p)
      | some file =>
        Run.get [.loadingConfig file] .link ((files.config file).map (·.withPolicy p)) := by
  rw [loadConfig_eq]
  cases inv.config with
  | none => rw [map_pure, settings_withPolicy, Option.getD_none]
  | some file =>
    simp only [Run.map_get]
    cases files.config file with
    | error e => rfl
    | ok c => simp only [Except.map, settings_withPolicy, Option.getD_some]

namespace SameButPolicy

variable {inv : Invocation} {files files' : Files} (h : inv.SameButPolicy files files')

include h

theorem loadLibraries {strict : Bool} {p : LinkPolicy}
    (hconfig : (inv.withStrict strict).loadConfig files' =
      Config.withPolicy p <$> inv.loadConfig files) :
    (inv.withStrict strict).loadLibraries files' =
      Linker.withPolicy p <$> inv.loadLibraries files := by
  rw [Invocation.loadLibraries, Invocation.loadLibraries, hconfig,
    show (inv.withStrict strict).manifest = inv.manifest from rfl]
  cases hfile : inv.manifest with
  | none => rfl
  | some file =>
    simp only [loadManifest_congr (h.manifest file hfile), map_bind, bind_map_left,
      Linker.ofConfig_withPolicy, ← Run.map_get, Linker.load_withPolicy, Run.map_step]

theorem report {strict : Bool} (l : Linker) (command : Command) :
    (inv.withStrict strict).report files' l command = inv.report files l command := by
  have horacle : (inv.withStrict strict).loadOracle files' = inv.loadOracle files :=
    loadOracle_congr h.reference
  cases command with
  | deps => rfl
  | spHal => rfl
  | spLib =>
    simp only [Invocation.report, horacle]
    rfl

theorem run_eq_runUnder {strict : Bool} {p : LinkPolicy}
    (hconfig : (inv.withStrict strict).loadConfig files' =
      Config.withPolicy p <$> inv.loadConfig files) :
    (inv.withStrict strict).run files' = inv.runUnder p files := by
  cases hhelp : inv.help with
  | true => simp [run, runUnder, hhelp, withStrict]
  | false =>
    cases hcommand : inv.command with
    | none => simp [run, runUnder, hhelp, hcommand, withStrict]
    | some command =>
      have hhelp' : (inv.withStrict strict).help = false := hhelp
      have hcommand' : (inv.withStrict strict).command = some command := hcommand
      rw [run_eq _ files' hhelp' hcommand', loadImage_eq, h.loadLibraries hconfig]
      simp only [runUnder, hhelp, hcommand, Bool.false_eq_true, if_false, bind_map_left, bind_assoc,
        h.report]

/-- A strict run does not see the policy of the configuration file. -/
theorem run_strict : (inv.withStrict true).run files' = inv.runUnder .strict files := by
  apply h.run_eq_runUnder
  rw [withPolicy_loadConfig, loadConfig_eq, show (inv.withStrict true).config = inv.config from rfl]
  cases hfile : inv.config with
  | none => rfl
  | some file =>
    simp only [← h.config file hfile]
    rfl

theorem loadConfig_lenient (hlenient : ∀ file c, inv.config = some file →
      files'.config file = .ok c → c.policy = .lenient) :
    (inv.withStrict false).loadConfig files' =
      Config.withPolicy .lenient <$> inv.loadConfig files := by
  rw [withPolicy_loadConfig, loadConfig_eq,
    show (inv.withStrict false).config = inv.config from rfl]
  cases hfile : inv.config with
  | none => rfl
  | some file =>
    simp only [← h.config file hfile]
    cases hc : files'.config file with
    | error e => rfl
    | ok c =>
      simp only [Except.map, Config.withPolicy, ← hlenient file c hfile hc]
      rfl

end SameButPolicy

/-- The two policies part ways only where the image is linked and something is missing. -/
theorem runUnder_cases (inv : Invocation) (files : Files) (trace : Trace) :
    (inv.runUnder .strict files).run trace = (inv.runUnder .lenient files).run trace ∨
      ∃ l trace', (inv.loadLibraries files).run trace = (.ok l, trace') ∧
        ¬ (l.linked.stats.missingDeps = 0 ∧ l.linked.stats.unresolvedSymbols = 0) ∧
        ((inv.runUnder .strict files).run trace).1 =
          .error ⟨[], .link (.unresolved l.linked.report)⟩ := by
  cases hhelp : inv.help with
  | true => exact Or.inl (by simp [runUnder, hhelp])
  | false =>
    cases hcommand : inv.command with
    | none => exact Or.inl (by simp [runUnder, hhelp, hcommand])
    | some command =>
      simp only [runUnder, hhelp, hcommand, Bool.false_eq_true, if_false, Run.run_bind]
      rcases hload : (inv.loadLibraries files).run trace with ⟨e | l, trace'⟩
      · exact Or.inl rfl
      · simp only [Run.run_step, Linker.outcome_withPolicy]
        by_cases hfound : l.linked.stats.missingDeps = 0 ∧ l.linked.stats.unresolvedSymbols = 0
        · left
          simp only [hfound, and_self, or_true, if_true, Except.map, Except.mapError]
          rfl
        · exact Or.inr ⟨l, trace', rfl, hfound, by simp [hfound, Except.map, Except.mapError]⟩

/-! ## The law -/

/-- The strict switch can only stop a run. What a run with the switch comes to does not
depend on the policy in the configuration file, be it lenient, strict or not there. If such
a run prints a report, then without the switch and under a lenient policy the run prints the
same one. And if only the lenient run prints, then the strict one fails after the linking,
because something was not found, and tells as many names and symbols as the lenient linking
counts. -/
theorem the_strict_switch_can_only_stop_a_run :
    (∀ (files files' : Files) (file text text' : String), files.text file = .ok text →
      files'.text file = .ok text' → Config.DifferInPolicy text text' → ∀ p,
        (files'.config file).map (·.withPolicy p) = (files.config file).map (·.withPolicy p)) ∧
    ∀ (inv : Invocation) (files files' : Files), inv.SameButPolicy files files' →
      (inv.withStrict true).outcome files' = (inv.withStrict true).outcome files ∧
      ((∀ file c, inv.config = some file → files'.config file = .ok c → c.policy = .lenient) →
        (∀ text, ((inv.withStrict true).outcome files).1 = .ok text →
          ((inv.withStrict false).outcome files').1 = .ok text) ∧
        ∀ text f, ((inv.withStrict false).outcome files').1 = .ok text →
          ((inv.withStrict true).outcome files).1 = .error f →
            ∃ (l : Linker) (before : Trace) (stats : LinkStats) (report : UnresolvedReport),
              ((inv.withStrict false).loadImage files').run .start =
                (.ok l.resolve.linker, before.note l.resolve.log) ∧
              l.resolve.outcome = .ok stats ∧
              f = ⟨[], .link (.unresolved report)⟩ ∧ report.isEmpty = false ∧
              report.deps.length = stats.missingDeps ∧
              report.symbols.length = stats.unresolvedSymbols) := by
  constructor
  · intro files files' file text text' htext htext' h
    exact Files.config_of_differInPolicy htext htext' h
  · intro inv files files' h
    have hstrict : (inv.withStrict true).run files = inv.runUnder .strict files :=
      SameButPolicy.run_strict ⟨fun _ _ => rfl, fun _ _ => rfl, fun _ _ _ => rfl⟩
    refine ⟨by rw [outcome, outcome, h.run_strict, hstrict], ?_⟩
    intro hlenient
    have hconfig := h.loadConfig_lenient hlenient
    rw [fst_outcome, fst_outcome, hstrict, h.run_eq_runUnder hconfig]
    rcases inv.runUnder_cases files .start with hsame | ⟨l, before, hload, hmissing, herror⟩
    · rw [hsame]
      refine ⟨fun _ htext => htext, ?_⟩
      intro text f htext hf
      rw [htext] at hf
      cases hf
    · rw [herror]
      refine ⟨fun _ htext => (by cases htext), ?_⟩
      intro text f _ hf
      cases hf
      obtain ⟨hdeps, hsymbols⟩ := Image.counts_link l.image l.config.symbolFallback
      have hlinks : (l.withPolicy .lenient).resolve.outcome = .ok l.linked.stats := by
        rw [Linker.outcome_withPolicy, if_pos (Or.inl rfl)]
      refine ⟨l.withPolicy .lenient, before, l.linked.stats, l.linked.report, ?_, hlinks, rfl, ?_,
        hdeps, hsymbols⟩
      · rw [loadImage_eq, h.loadLibraries hconfig, bind_map_left, Run.run_bind, hload]
        simp only [Run.run_step, hlinks]
        rfl
      · rwa [Bool.eq_false_iff, ne_eq, Linker.isEmpty_report_iff]

/-- A run on a manifest of one library, which needs another one. -/
def lonelyRun : Invocation :=
  { Invocation.empty with command := some .deps, manifest := some "m", config := some "c" }

def lonelyFiles (config : String) : Files := .ofTexts
  [("c", config),
    ("m", "[\x7b\"partition\":\"system\",\"path\":\"/system/lib/libui.so\",\"class\":\"32\"," ++
      "\"dt_needed\":[\"libgone.so\"]\x7d]")]

/-- The library of the manifest. -/
def lonelyLibrary : Library :=
  ⟨.system, "/system/lib/libui.so", ⟨.elf32, .lsb, ["libgone.so"], ∅, ∅⟩⟩

theorem reads_lonelyFiles {config : String} {c : Config} (hread : Config.ofText config = .ok c)
    (strict : Bool) :
    (lonelyRun.withStrict strict).Reads (lonelyFiles config) (some c) [lonelyLibrary] none :=
  ⟨.some (Files.hold_ofTexts rfl (by decide +kernel)), .some (Files.hold_ofTexts rfl hread), .none⟩

theorem a_missing_library_stops_the_strict_run_alone :
    Config.DifferInPolicy "\x7b\"policy\":\"strict\"\x7d" "\x7b\x7d" ∧
      lonelyRun.SameButPolicy (lonelyFiles "\x7b\"policy\":\"strict\"\x7d")
        (lonelyFiles "\x7b\x7d") ∧
      ∃ text report,
        ((lonelyRun.withStrict false).outcome (lonelyFiles "\x7b\x7d")).1 = .ok text ∧
        ((lonelyRun.withStrict true).outcome
          (lonelyFiles "\x7b\"policy\":\"strict\"\x7d")).1 =
            .error ⟨[], .link (.unresolved report)⟩ ∧
        report.isEmpty = false := by
  have hdiffer : Config.DifferInPolicy "\x7b\"policy\":\"strict\"\x7d" "\x7b\x7d" :=
    ⟨[], [], .closed, true, some .strict, none, by simp, by rfl, by rfl⟩
  have hsame : lonelyRun.SameButPolicy (lonelyFiles "\x7b\"policy\":\"strict\"\x7d")
      (lonelyFiles "\x7b\x7d") := by
    refine ⟨?_, ?_, ?_⟩
    · rintro _ ⟨⟩
      rfl
    · rintro _ ⟨⟩
    · rintro _ ⟨⟩
      exact the_strict_switch_can_only_stop_a_run.1 _ _ "c" _ _ (Files.text_ofTexts rfl)
        (Files.text_ofTexts rfl) hdiffer
  have hread : Config.ofText "\x7b\x7d" = .ok .default := by decide +kernel
  have hreadStrict : Config.ofText "\x7b\"policy\":\"strict\"\x7d" = .ok .strict := by
    decide +kernel
  have hlenient : ∀ file c, lonelyRun.config = some file →
      (lonelyFiles "\x7b\x7d").config file = .ok c → c.policy = .lenient := by
    rintro _ c ⟨⟩ hc
    rw [Files.config, lonelyFiles, Files.text_ofTexts rfl] at hc
    dsimp only at hc
    rw [hread] at hc
    cases hc
    rfl
  have hlinked : (Linker.ofManifest .default [lonelyLibrary]).toOption.isSome = true := by
    decide +kernel
  have hstopped : (Linker.ofManifest .strict [lonelyLibrary]).toOption.isSome = false := by
    decide +kernel
  cases hl : Linker.ofManifest .default [lonelyLibrary] with
  | error e =>
    rw [hl] at hlinked
    cases hlinked
  | ok l =>
    cases he : Linker.ofManifest .strict [lonelyLibrary] with
    | ok l =>
      rw [he] at hstopped
      cases hstopped
    | error e =>
      have hprints := (reads_lonelyFiles hread false).outcome rfl rfl
      have hfails := (reads_lonelyFiles hreadStrict true).outcome rfl rfl
      rw [show (lonelyRun.withStrict false).settings (some .default) = .default from rfl, hl]
        at hprints
      rw [show (lonelyRun.withStrict true).settings (some .strict) = .strict from rfl, he]
        at hfails
      obtain ⟨_, _, _, report, _, _, hreport, hempty, _⟩ :=
        ((the_strict_switch_can_only_stop_a_run.2 _ _ _ hsame).2 hlenient).2 _ _ hprints hfails
      exact ⟨hdiffer, hsame, _, report, hprints, hfails.trans (congrArg _ hreport), hempty⟩

end Invocation

end ImageTiers
