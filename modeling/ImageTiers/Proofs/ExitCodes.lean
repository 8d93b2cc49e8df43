-- Exit codes. A command line is refused, or its run fails, or it prints. A run can fail in
-- a few ways only, each with the file that is to blame, and all of them come before its only
-- writing. The laws: the exit code tells the three apart, only the last one leaves something
-- on the standard output, and a command line that is not refused never lacks a command or
-- a manifest when it is run.
import ImageTiers.Proofs.Invocations

namespace ImageTiers

/-! ## What a part of a run can come to -/

namespace Run

variable {α β : Type}

/-- The part of a run either fails as `P` tells, or comes to what `Q` tells. -/
def Ends (P : Failure → Prop) (Q : α → Prop) (m : Run α) : Prop :=
  ∀ trace, (∀ f, (m.run trace).1 = .error f → P f) ∧ ∀ a, (m.run trace).1 = .ok a → Q a

variable {P : Failure → Prop} {Q : α → Prop} {R : β → Prop}

theorem ends_pure {a : α} (h : Q a) : Ends P Q (pure a) := by
  intro trace
  refine ⟨fun _ hf => (nomatch hf), ?_⟩
  rintro _ ⟨⟩
  exact h

theorem ends_fail {activities : List Activity} {cause : Cause} (h : P ⟨activities, cause⟩) :
    Ends P Q (fail activities cause) := by
  intro trace
  refine ⟨?_, fun _ ha => (nomatch ha)⟩
  rintro _ ⟨⟩
  exact h

theorem ends_note (entries : Log) : Ends P (fun _ => True) (note entries) :=
  fun _ => ⟨fun _ hf => (nomatch hf), fun _ _ => trivial⟩

theorem ends_write (text : String) : Ends P (fun _ => True) (write text) :=
  fun _ => ⟨fun _ hf => (nomatch hf), fun _ _ => trivial⟩

theorem ends_bind {m : Run α} {next : α → Run β} (hm : Ends P Q m)
    (hnext : ∀ a, Q a → Ends P R (next a)) : Ends P R (m >>= next) := by
  intro trace
  obtain ⟨hfails, hgives⟩ := hm trace
  rw [run_bind]
  split
  · rename_i a trace' hrun
    exact hnext a (hgives a (by rw [hrun])) trace'
  · rename_i f trace' hrun
    refine ⟨?_, fun _ ha => (nomatch ha)⟩
    rintro _ ⟨⟩
    exact hfails f (by rw [hrun])

theorem ends_get {ε : Type} {activities : List Activity} {cause : ε → Cause}
    {result : Except ε α} (herror : ∀ e, result = .error e → P ⟨activities, cause e⟩)
    (hok : ∀ a, result = .ok a → Q a) : Ends P Q (get activities cause result) := by
  cases result with
  | ok a => exact ends_pure (hok a rfl)
  | error e => exact ends_fail (herror e rfl)

theorem ends_step {s : Step α} {Q : Linker → Prop}
    (herror : ∀ e, s.outcome = .error e → P ⟨[], .link e⟩)
    (hok : ∀ a, s.outcome = .ok a → Q s.linker) : Ends P Q (step s) := by
  unfold step
  exact ends_bind (ends_note s.log) fun _ _ =>
    ends_bind (ends_get herror hok) fun _ h => ends_pure h

/-- The part of a run writes nothing if it fails. -/
def FailsSilently (m : Run α) : Prop :=
  ∀ trace f, (m.run trace).1 = .error f → (m.run trace).2.output = trace.output

theorem failsSilently_write (text : String) : FailsSilently (write text) :=
  fun _ _ hf => (nomatch hf)

theorem Silent.failsSilently {m : Run α} (h : Silent m) : FailsSilently m :=
  fun trace _ _ => h trace

theorem Silent.bind_failsSilently {m : Run α} {next : α → Run β} (hm : Silent m)
    (hnext : ∀ a, FailsSilently (next a)) : FailsSilently (m >>= next) := by
  intro trace f
  have hfirst := hm trace
  rw [run_bind]
  split
  · rename_i a trace' hrun
    rw [hrun] at hfirst
    intro hf
    rw [hnext a trace' f hf, hfirst]
  · rename_i f' trace' hrun
    intro _
    rw [← hfirst, hrun]

end Run

namespace Linker

theorem error_of_ofConfig {c : Config} {e : LinkError} (h : ofConfig c = .error e) :
    ∃ text, e = .invalidPattern text := by
  unfold ofConfig at h
  split at h
  · rename_i text _
    cases h
    exact ⟨text, rfl⟩
  · cases h

theorem error_of_resolve {l : Linker} {e : LinkError} (h : l.resolve.outcome = .error e) :
    ∃ report, e = .unresolved report ∧ report.isEmpty = false := by
  simp only [resolve] at h
  split at h
  · rename_i hstrict
    simp only [Bool.and_eq_true, Bool.not_eq_true'] at hstrict
    cases h
    exact ⟨_, rfl, hstrict.2⟩
  · cases h

theorem Fresh.error_of_load {start : Linker} (h : Fresh start) {libs : List Library}
    {e : LinkError} (he : (start.load libs).outcome = .error e) :
    ∃ path, e = .duplicatePath path ∧ repeated? [] (libs.map (·.path)) = some path := by
  rcases (Reachable.fresh h).load_cases libs with ⟨path, hpath, hload⟩ | ⟨_, hload, _⟩
  · rw [h.image_eq, Image.libraries_empty] at hpath
    rw [hload] at he
    cases he
    exact ⟨path, rfl, hpath⟩
  · rw [hload] at he
    cases he

end Linker

/-! ## Failures of a whole run -/

namespace Invocation

/-- All the ways in which a run can fail. The last activity and the cause tell which. -/
inductive Fails (inv : Invocation) (files : Files) : Failure → Prop
  | noCommand : inv.help = false → inv.command = none → Fails inv files ⟨[], .usage .noCommand⟩
  | noManifest : inv.help = false → inv.manifest = none →
      Fails inv files ⟨[], .usage .manifestRequired⟩
  | unreadConfig {file : String} {e : FileError} : inv.config = some file →
      files.text file = .error e → Fails inv files ⟨[.loadingConfig file], .link (.file e)⟩
  | badConfig {file text : String} {e : Json.DecodeError} : inv.config = some file →
      files.text file = .ok text → Config.ofText text = .error e →
      Fails inv files ⟨[.loadingConfig file], .link (.config e)⟩
  | badPattern (text : String) : Fails inv files ⟨[], .link (.invalidPattern text)⟩
  | unreadManifest {file : String} {e : FileError} : inv.manifest = some file →
      files.text file = .error e → Fails inv files ⟨[.readingManifest file], .file e⟩
  | badManifest {file text : String} {e : Json.DecodeError} : inv.manifest = some file →
      files.text file = .ok text → Manifest.ofText text = .error e →
      Fails inv files ⟨[.inManifest file, .parsingManifest], .json e⟩
  | samePath {file path : String} {libs : List Library} : inv.manifest = some file →
      files.Hold Manifest.ofText file libs → repeated? [] (libs.map (·.path)) = some path →
      Fails inv files ⟨[], .link (.duplicatePath path)⟩
  | unresolved {report : UnresolvedReport} : report.isEmpty = false →
      Fails inv files ⟨[], .link (.unresolved report)⟩
  | unreadReference {file : String} {e : FileError} : inv.genericRefs = some file →
      files.text file = .error e → Fails inv files ⟨[.loadingGenericRefs file], .link (.file e)⟩
  | badReference {file text : String} {e : Json.DecodeError} : inv.genericRefs = some file →
      files.text file = .ok text → Reference.ofText text = .error e →
      Fails inv files ⟨[.loadingGenericRefs file], .link (.config e)⟩

variable (inv : Invocation) (files : Files)

theorem ends_loadConfig : Run.Ends (inv.Fails files) (fun _ => True) (inv.loadConfig files) := by
  rw [loadConfig]
  cases hfile : inv.config with
  | none => exact Run.ends_pure trivial
  | some file =>
    refine Run.ends_bind (Run.ends_get (fun e he => .unreadConfig hfile he) fun _ h => h) ?_
    intro text htext
    refine Run.ends_bind (Q := fun _ => True) ?_ fun c _ => Run.ends_pure trivial
    exact Run.ends_get (fun e he => .badConfig hfile htext he) fun _ _ => trivial

theorem ends_loadManifest {file : String} (hfile : inv.manifest = some file) :
    Run.Ends (inv.Fails files) (files.Hold Manifest.ofText file) (loadManifest file files) := by
  refine Run.ends_bind (Run.ends_get (fun e he => .unreadManifest hfile he) fun _ h => h) ?_
  intro text htext
  rw [parseManifest]
  cases hlibs : Manifest.ofText text with
  | ok libs => exact Run.ends_pure ⟨text, htext, hlibs⟩
  | error e => exact Run.ends_fail (.badManifest hfile htext hlibs)

theorem ends_loadImage (hhelp : inv.help = false) :
    Run.Ends (inv.Fails files) (fun _ => True) (inv.loadImage files) := by
  rw [loadImage]
  cases hfile : inv.manifest with
  | none => exact Run.ends_fail (.noManifest hhelp hfile)
  | some file =>
    refine Run.ends_bind (inv.ends_loadConfig files) fun c _ => ?_
    -- Of the linker that is set up it counts that it has no libraries: then only a path
    -- that the manifest repeats can be refused.
    refine Run.ends_bind (Q := Linker.Fresh) (Run.ends_get ?_ fun _ h => .ofConfig h) ?_
    · intro e he
      obtain ⟨text, rfl⟩ := Linker.error_of_ofConfig he
      exact .badPattern text
    intro start hstart
    refine Run.ends_bind (inv.ends_loadManifest files hfile) fun libs hlibs => ?_
    refine Run.ends_bind (Q := fun _ => True) (Run.ends_step ?_ fun _ _ => trivial) ?_
    · intro e he
      obtain ⟨path, rfl, hpath⟩ := hstart.error_of_load he
      exact .samePath hfile hlibs hpath
    intro l _
    refine Run.ends_step ?_ fun _ _ => trivial
    intro e he
    obtain ⟨report, rfl, hreport⟩ := Linker.error_of_resolve he
    exact .unresolved hreport

theorem ends_loadOracle :
    Run.Ends (inv.Fails files) (fun _ => True) (inv.loadOracle files) := by
  rw [loadOracle]
  cases hfile : inv.genericRefs with
  | none => exact Run.ends_pure trivial
  | some file =>
    refine Run.ends_bind (Run.ends_get (fun e he => .unreadReference hfile he) fun _ h => h) ?_
    intro text htext
    refine Run.ends_bind (Q := fun _ => True)
      (Run.ends_get (fun e he => .badReference hfile htext he) fun _ _ => trivial) ?_
    intro reference _
    exact Run.ends_bind (Run.ends_note _) fun _ _ => Run.ends_pure trivial

theorem ends_report (l : Linker) (command : Command) :
    Run.Ends (inv.Fails files) (fun _ => True) (inv.report files l command) := by
  cases command with
  | deps => exact Run.ends_pure trivial
  | spHal => exact Run.ends_pure trivial
  | spLib =>
    refine Run.ends_bind (inv.ends_loadOracle files) fun oracle _ => ?_
    exact Run.ends_bind (Run.ends_note _) fun _ _ => Run.ends_pure trivial

theorem ends_run : Run.Ends (inv.Fails files) (fun _ => True) (inv.run files) := by
  rcases inv.run_cases files with h | ⟨hhelp, hcommand, h⟩ | ⟨command, hhelp, _, h⟩
  · rw [h]
    exact Run.ends_write _
  · rw [h]
    exact Run.ends_fail (.noCommand hhelp hcommand)
  · rw [h]
    refine Run.ends_bind (Q := fun _ => True) ?_ fun text _ => Run.ends_write text
    exact Run.ends_bind (inv.ends_loadImage files hhelp) fun l _ => inv.ends_report files l command

/-- All that can fail comes before the writing. -/
theorem failsSilently_run : Run.FailsSilently (inv.run files) := by
  rcases inv.run_cases files with h | ⟨_, _, h⟩ | ⟨command, _, _, h⟩
  · rw [h]
    exact Run.failsSilently_write _
  · rw [h]
    exact (Run.silent_fail _ _).failsSilently
  · rw [h]
    refine Run.Silent.bind_failsSilently ?_ Run.failsSilently_write
    exact Run.silent_bind (inv.silent_loadImage files) fun l => inv.silent_report files l command

/-! ## Lines that are not refused -/

theorem problem?_of_parse {words : List String} (h : (parse words).2 = none) :
    (parse words).1.problem? = none := by
  unfold parse at h ⊢
  split at h
  · cases h
  · exact h

/-- What is not refused asks for help or has both a command and a manifest. -/
theorem complete_of_problem? {inv : Invocation} (h : inv.problem? = none)
    (hhelp : inv.help = false) : inv.command ≠ none ∧ inv.manifest ≠ none := by
  simp only [problem?, hhelp, Bool.false_eq_true, if_false] at h
  split at h
  · cases h
  · split at h
    · cases h
    · rename_i hcommand hmanifest
      exact ⟨by simpa using hcommand, by simpa using hmanifest⟩

/-- The run of a line that is not refused fails over what its files hold, if it fails. -/
theorem Fails.cause_ne_usage {inv : Invocation} {files : Files} {f : Failure}
    (h : inv.Fails files f) (hinv : inv.problem? = none) (e : UsageError) :
    f.cause ≠ .usage e := by
  cases h with
  | noCommand hhelp hcommand => exact absurd hcommand (complete_of_problem? hinv hhelp).1
  | noManifest hhelp hmanifest => exact absurd hmanifest (complete_of_problem? hinv hhelp).2
  | _ => exact nofun

theorem outcome_eq_error_iff {inv : Invocation} {files : Files} {f : Failure} :
    (inv.outcome files).1 = .error f ↔ ((inv.run files).run .start).1 = .error f := by
  rw [fst_outcome]
  cases ((inv.run files).run .start).1 <;> simp [Except.map]

theorem run_accept (words : List String) (trace : Trace) :
    (accept words).run trace =
      (match parse words with
        | (_, some e) => .error ⟨[], .usage e⟩
        | (inv, none) => .ok inv, trace) := by
  rw [accept]
  rcases parse words with ⟨inv, _ | e⟩ <;> rfl

theorem silent_accept (words : List String) : Run.Silent (accept words) := by
  intro trace
  rw [run_accept]

end Invocation

/-! ## The law -/

/-- A line is refused, or its run fails, or the run prints its text. -/
theorem execute_cases (files : Files) (words : List String) :
    (∃ e, (Invocation.parse words).2 = some e ∧ (execute files words).code = 2 ∧
      (execute files words).stdout = "") ∨
    ((Invocation.parse words).2 = none ∧
      ∃ f, ((Invocation.parse words).1.outcome files).1 = .error f ∧
        (execute files words).code = 1 ∧ (execute files words).stdout = "") ∨
    ((Invocation.parse words).2 = none ∧
      ∃ text, ((Invocation.parse words).1.outcome files).1 = .ok text ∧
        (execute files words).code = 0 ∧ (execute files words).stdout = text) := by
  rw [execute, Invocation.run_accept]
  rcases Invocation.parse words with ⟨inv, _ | e⟩
  · right
    have hsilent := inv.failsSilently_run files .start
    dsimp only
    rw [Invocation.fst_outcome]
    revert hsilent
    rcases (inv.run files).run .start with ⟨f | ⟨⟩, trace⟩
    · intro hsilent
      exact Or.inl ⟨rfl, f, rfl, rfl, hsilent f rfl⟩
    · intro _
      exact Or.inr ⟨rfl, trace.output, rfl, rfl, rfl⟩
  · exact Or.inl ⟨e, rfl, rfl, rfl⟩

/-- Only a run that succeeds prints. A line that is refused writes nothing, and neither does the
run of an invocation that fails, whatever has been written before. The program ends with
code 2 if the line is refused, with code 1 if the line is not refused and its run fails, and
else with code 0. The output is empty unless the code is 0, and then it is what the run
writes. A run of a line that is not refused fails over what the files of the line hold, and
never over the line itself. -/
theorem only_a_run_that_succeeds_prints (files : Files) (words : List String) :
    Run.Silent (Invocation.accept words) ∧
    (∀ inv : Invocation, Run.FailsSilently (inv.run files)) ∧
    ((execute files words).code = 2 ↔ ∃ e, (Invocation.parse words).2 = some e) ∧
    ((execute files words).code = 1 ↔ (Invocation.parse words).2 = none ∧
      ∃ f, ((Invocation.parse words).1.outcome files).1 = .error f) ∧
    ((execute files words).code = 0 ↔ (Invocation.parse words).2 = none ∧
      ∃ text, ((Invocation.parse words).1.outcome files).1 = .ok text) ∧
    ((∃ e, (Invocation.parse words).2 = some e) → (execute files words).stdout = "") ∧
    ((∃ f, ((Invocation.parse words).1.outcome files).1 = .error f) →
      (execute files words).stdout = "") ∧
    ((execute files words).stdout ≠ "" → (execute files words).code = 0 ∧
      ((Invocation.parse words).1.outcome files).1 = .ok (execute files words).stdout) ∧
    ((Invocation.parse words).2 = none →
      ∀ f, ((Invocation.parse words).1.outcome files).1 = .error f →
        (Invocation.parse words).1.Fails files f ∧ ∀ e, f.cause ≠ .usage e) := by
  have hfails : (Invocation.parse words).2 = none →
      ∀ f, ((Invocation.parse words).1.outcome files).1 = .error f →
        (Invocation.parse words).1.Fails files f ∧ ∀ e, f.cause ≠ .usage e := by
    intro hparse f hf
    rw [Invocation.outcome_eq_error_iff] at hf
    have hinv := Invocation.problem?_of_parse hparse
    have hfail := ((Invocation.parse words).1.ends_run files .start).1 f hf
    exact ⟨hfail, hfail.cause_ne_usage hinv⟩
  refine ⟨Invocation.silent_accept words, fun inv => inv.failsSilently_run files, ?_⟩
  rcases execute_cases files words with ⟨e, hparse, hcode, hout⟩ |
    ⟨hparse, f, hf, hcode, hout⟩ | ⟨hparse, text, htext, hcode, hout⟩
  · simp [hparse, hcode, hout]
  · refine ⟨?_, ?_, ?_, ?_, ?_, ?_, hfails⟩ <;> simp [hparse, hf, hcode, hout]
  · refine ⟨?_, ?_, ?_, ?_, ?_, ?_, hfails⟩ <;> simp [hparse, htext, hcode, hout]

/-- Without the manifest that it names, a line is not refused, but its run fails. -/
theorem a_line_whose_manifest_is_gone_fails_when_it_is_run :
    (Invocation.parse ["deps", "--manifest", "m"]).2 = none ∧
      (execute (.ofTexts []) ["deps", "--manifest", "m"]).code = 1 ∧
      (execute (.ofTexts []) ["deps", "--manifest", "m"]).stdout = "" := by
  have hparse : (Invocation.parse ["deps", "--manifest", "m"]).2 = none := by decide +kernel
  have hf : ((Invocation.parse ["deps", "--manifest", "m"]).1.outcome (.ofTexts [])).1 =
      .error ⟨[.readingManifest "m"], .file .notFound⟩ := by decide +kernel
  obtain ⟨_, _, _, hcode, _, _, hout, _⟩ :=
    only_a_run_that_succeeds_prints (.ofTexts []) ["deps", "--manifest", "m"]
  exact ⟨hparse, hcode.mpr ⟨hparse, _, hf⟩, hout ⟨_, hf⟩⟩

end ImageTiers
