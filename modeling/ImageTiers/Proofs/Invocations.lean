-- Invocations. A run reads its files one after the other, and it fails at the first one that
-- cannot be read. If all can be read, then what it prints is told by their contents: by the
-- settings, the libraries and the reference image.
import ImageTiers.Proofs.Loading
import ImageTiers.Run

namespace ImageTiers

/-! ## Steps of a run -/

namespace Run

variable {α β : Type}

section

variable (trace : Trace)

theorem run_bind (first : Run α) (next : α → Run β) :
    (first >>= next).run trace =
      match first.run trace with
      | (.ok a, trace) => (next a).run trace
      | (.error e, trace) => (.error e, trace) := by
  change (ExceptT.bind first next) trace = _
  simp only [ExceptT.bind, ExceptT.mk, bind, StateT.bind, ExceptT.run]
  generalize first trace = result
  obtain ⟨a | a, trace⟩ := result
  · rfl
  · rfl

theorem run_get {ε : Type} (activities : List Activity) (cause : ε → Cause) (result : Except ε α) :
    (get activities cause result).run trace =
      (result.mapError fun e => ⟨activities, cause e⟩, trace) := by
  cases result <;> rfl

theorem run_step (s : Step α) :
    (step s).run trace =
      ((s.outcome.map fun _ => s.linker).mapError fun e => ⟨[], .link e⟩, trace.note s.log) := by
  obtain ⟨linker, log, outcome⟩ := s
  cases outcome <;> rfl

end

/-! ## Parts that write nothing -/

/-- The part of a run writes nothing, be it that it fails or not. -/
def Silent (m : Run α) : Prop := ∀ trace, (m.run trace).2.output = trace.output

theorem silent_pure (a : α) : Silent (pure a) := fun _ => rfl

theorem silent_fail (activities : List Activity) (cause : Cause) :
    Silent (fail activities cause : Run α) := fun _ => rfl

theorem silent_note (entries : Log) : Silent (note entries) := fun _ => rfl

theorem silent_get {ε : Type} (activities : List Activity) (cause : ε → Cause)
    (result : Except ε α) : Silent (get activities cause result) := by
  intro trace
  rw [run_get]

theorem silent_step (s : Step α) : Silent (step s) := by
  intro trace
  rw [run_step, Trace.note]

theorem silent_bind {m : Run α} {next : α → Run β} (hm : Silent m)
    (hnext : ∀ a, Silent (next a)) : Silent (m >>= next) := by
  intro trace
  have hfirst := hm trace
  rw [run_bind]
  split
  · rename_i a trace' hrun
    rw [hnext a trace', ← hfirst, hrun]
  · rename_i f trace' hrun
    rw [← hfirst, hrun]

/-- If a silent part ends in a text that is then written, the output is just this text. -/
theorem Silent.run_write {m : Run String} (h : Silent m) :
    (((m >>= write).run .start).1.map fun _ => ((m >>= write).run .start).2.output) =
      (m.run .start).1 := by
  have hout := h .start
  rw [run_bind]
  revert hout
  generalize m.run .start = result
  obtain ⟨f | text, trace⟩ := result
  · intro _
    rfl
  · intro hout
    change Except.ok (trace.output ++ text) = .ok text
    rw [hout, Trace.start, String.empty_append]

end Run

namespace Invocation

variable (inv : Invocation) (files : Files)

theorem silent_loadConfig : Run.Silent (inv.loadConfig files) := by
  rw [loadConfig]
  cases inv.config with
  | none => exact Run.silent_pure _
  | some file =>
    refine Run.silent_bind (Run.silent_get _ _ _) fun text => ?_
    exact Run.silent_bind (Run.silent_get _ _ _) fun config => Run.silent_pure _

theorem silent_loadManifest (file : String) : Run.Silent (loadManifest file files) := by
  refine Run.silent_bind (Run.silent_get _ _ _) fun text => ?_
  split
  · exact Run.silent_pure _
  · exact Run.silent_fail _ _

theorem silent_loadImage : Run.Silent (inv.loadImage files) := by
  rw [loadImage]
  cases inv.manifest with
  | none => exact Run.silent_fail _ _
  | some file =>
    refine Run.silent_bind (inv.silent_loadConfig files) fun config => ?_
    refine Run.silent_bind (Run.silent_get _ _ _) fun start => ?_
    refine Run.silent_bind (silent_loadManifest files file) fun libs => ?_
    exact Run.silent_bind (Run.silent_step _) fun l => Run.silent_step _

theorem silent_loadOracle : Run.Silent (inv.loadOracle files) := by
  rw [loadOracle]
  cases inv.genericRefs with
  | none => exact Run.silent_pure _
  | some file =>
    refine Run.silent_bind (Run.silent_get _ _ _) fun text => ?_
    refine Run.silent_bind (Run.silent_get _ _ _) fun reference => ?_
    exact Run.silent_bind (Run.silent_note _) fun _ => Run.silent_pure _

/-- A report is written only after all of it is there. -/
theorem silent_report (l : Linker) (command : Command) :
    Run.Silent (inv.report files l command) := by
  cases command with
  | deps => exact Run.silent_pure _
  | spHal => exact Run.silent_pure _
  | spLib =>
    refine Run.silent_bind (inv.silent_loadOracle files) fun oracle => ?_
    exact Run.silent_bind (Run.silent_note _) fun _ => Run.silent_pure _

theorem run_eq {command : Command} (hhelp : inv.help = false)
    (hcommand : inv.command = some command) :
    inv.run files =
      (inv.loadImage files >>= fun l => inv.report files l command) >>= Run.write := by
  simp only [run, hhelp, hcommand, Bool.false_eq_true, if_false, bind_assoc]

/-- A run writes the help, or it lacks a command, or it writes a report once it is there. -/
theorem run_cases :
    inv.run files = Run.write (usage ++ "\n") ∨
      (inv.help = false ∧ inv.command = none ∧
        inv.run files = Run.fail [] (.usage .noCommand)) ∨
      ∃ command, inv.help = false ∧ inv.command = some command ∧
        inv.run files =
          (inv.loadImage files >>= fun l => inv.report files l command) >>= Run.write := by
  cases hhelp : inv.help with
  | true => exact .inl (by rw [run, hhelp, if_pos rfl])
  | false =>
    cases hcommand : inv.command with
    | none => exact .inr (.inl ⟨rfl, rfl, by simp [run, hhelp, hcommand]⟩)
    | some command => exact .inr (.inr ⟨command, rfl, rfl, inv.run_eq files hhelp hcommand⟩)

theorem fst_outcome :
    (inv.outcome files).1 =
      ((inv.run files).run .start).1.map fun _ => ((inv.run files).run .start).2.output := rfl

/-- What an invocation writes is the text of the report. -/
theorem outcome_eq {command : Command} (hhelp : inv.help = false)
    (hcommand : inv.command = some command) :
    (inv.outcome files).1 =
      ((inv.loadImage files >>= fun l => inv.report files l command).run .start).1 := by
  rw [fst_outcome, inv.run_eq files hhelp hcommand]
  exact Run.Silent.run_write <|
    Run.silent_bind (inv.silent_loadImage files) fun l => inv.silent_report files l command

end Invocation

/-! ## Which files are read -/

theorem Files.text_congr {files files' : Files} {file : String} (h : files' file = files file) :
    files'.text file = files.text file := by
  rw [text, text, h]

namespace Invocation

variable {inv : Invocation} {files files' : Files}

theorem loadConfig_congr (h : ∀ file, inv.config = some file → files' file = files file) :
    inv.loadConfig files' = inv.loadConfig files := by
  rw [loadConfig, loadConfig]
  cases hfile : inv.config with
  | none => rfl
  | some file => simp only [Files.text_congr (h file hfile)]

theorem loadManifest_congr {file : String} (h : files' file = files file) :
    loadManifest file files' = loadManifest file files := by
  rw [loadManifest, loadManifest, Files.text_congr h]

theorem loadOracle_congr (h : ∀ file, inv.genericRefs = some file → files' file = files file) :
    inv.loadOracle files' = inv.loadOracle files := by
  rw [loadOracle, loadOracle]
  cases hfile : inv.genericRefs with
  | none => rfl
  | some file => simp only [Files.text_congr (h file hfile)]

/-- A run reads only the files that its invocation names. -/
theorem run_congr (h : ∀ file ∈ inv.files, files' file = files file) :
    inv.run files' = inv.run files := by
  have hconfig : inv.loadConfig files' = inv.loadConfig files :=
    loadConfig_congr fun file hfile => h file (by simp [Invocation.files, hfile])
  have hmanifest : ∀ file, inv.manifest = some file →
      loadManifest file files' = loadManifest file files :=
    fun file hfile => loadManifest_congr (h file (by simp [Invocation.files, hfile]))
  have horacle : inv.loadOracle files' = inv.loadOracle files :=
    loadOracle_congr fun file hfile => h file (by simp [Invocation.files, hfile])
  have himage : inv.loadImage files' = inv.loadImage files := by
    rw [loadImage, loadImage]
    cases hfile : inv.manifest with
    | none => rfl
    | some file => simp only [hconfig, hmanifest file hfile]
  have hreport : inv.report files' = inv.report files := by
    funext l command
    cases command <;> simp only [report, horacle]
  rw [run, run, himage, hreport]

end Invocation

/-! ## What the files hold -/

/-- The file holds `a`, as `ofText` reads its text. -/
def Files.Hold {ε α : Type} (files : Files) (ofText : String → Except ε α) (file : String)
    (a : α) : Prop :=
  ∃ text, files.text file = .ok text ∧ ofText text = .ok a

/-- Files that are told by their names and texts. -/
def Files.ofTexts (texts : List (String × String)) : Files := fun name =>
  (texts.lookup name).elim (.error .notFound) (.ok ·.toUTF8)

theorem Files.text_ofTexts {texts : List (String × String)} {file text : String}
    (h : texts.lookup file = some text) : (ofTexts texts).text file = .ok text := by
  have hutf8 : String.fromUTF8? text.toUTF8 = some text := by
    simp [String.fromUTF8?, String.fromUTF8, text.isValidUTF8]
  simp only [Files.text, ofTexts, h, Option.elim_some, bind, Except.bind, hutf8]
  rfl

theorem Files.hold_ofTexts {ε α : Type} {ofText : String → Except ε α}
    {texts : List (String × String)} {file text : String} {a : α}
    (hfile : texts.lookup file = some text) (hread : ofText text = .ok a) :
    (ofTexts texts).Hold ofText file a :=
  ⟨text, text_ofTexts hfile, hread⟩

namespace Invocation

/-- The files that an invocation names can be read, and this is what they hold. -/
structure Reads (inv : Invocation) (files : Files) (config : Option Config)
    (libs : List Library) (reference : Option Reference) : Prop where
  manifest : Option.Rel (files.Hold Manifest.ofText) inv.manifest (some libs)
  config : Option.Rel (files.Hold Config.ofText) inv.config config
  reference : Option.Rel (files.Hold Reference.ofText) inv.genericRefs reference

/-- The settings of a run whose configuration file holds `config`. -/
def settings (inv : Invocation) (config : Option Config) : Config :=
  if inv.strict then { config.getD .default with policy := .strict } else config.getD .default

end Invocation

/-- How libraries compare with a reference image. Without one, all of them are in it. -/
def Reference.compare : Option Reference → Library → RefClass
  | none => fun _ => .exportEqual
  | some reference => reference.classify

/-- The report that a command prints. -/
def Command.report (oracle : Library → RefClass) (format : Format) (l : Linker) :
    Command → String
  | deps => Report.deps l.image format
  | spHal => Report.paths l.image l.spHal format
  | spLib => Report.tiers l.image (l.tiers oracle) format

namespace Invocation.Reads

variable {inv : Invocation} {files : Files} {config : Option Config} {libs : List Library}
  {reference : Option Reference} (h : inv.Reads files config libs reference)

include h

theorem loadConfig : inv.loadConfig files = pure (inv.settings config) := by
  have hconfig := h.config
  rw [Invocation.loadConfig, settings]
  cases hfile : inv.config with
  | none =>
    rw [hfile] at hconfig
    cases hconfig
    cases inv.strict <;> rfl
  | some file =>
    rw [hfile] at hconfig
    cases hconfig with
    | some hold =>
      obtain ⟨text, htext, hread⟩ := hold
      simp only [htext, hread, Run.get, pure_bind]
      cases inv.strict <;> rfl

theorem loadManifest :
    ∃ file, inv.manifest = some file ∧ Invocation.loadManifest file files = pure libs := by
  have hmanifest := h.manifest
  cases hfile : inv.manifest with
  | none =>
    rw [hfile] at hmanifest
    cases hmanifest
  | some file =>
    rw [hfile] at hmanifest
    cases hmanifest with
    | some hold =>
      obtain ⟨text, htext, hread⟩ := hold
      refine ⟨file, rfl, ?_⟩
      simp only [Invocation.loadManifest, htext, Run.get, pure_bind, parseManifest, hread,
        Except.mapError]

/-- A run comes to the linked image of the manifest. -/
theorem loadImage (trace : Trace) :
    ((inv.loadImage files).run trace).1 =
      (Linker.ofManifest (inv.settings config) libs).mapError fun e => ⟨[], .link e⟩ := by
  obtain ⟨file, hfile, hlibs⟩ := h.loadManifest
  simp only [Invocation.loadImage, hfile, h.loadConfig, hlibs, pure_bind, Run.run_bind,
    Run.run_get, Run.run_step, Linker.ofManifest]
  cases Linker.ofConfig (inv.settings config) with
  | error e => rfl
  | ok start =>
    simp only [Except.mapError, bind, Except.bind]
    cases (start.load libs).outcome with
    | error e => rfl
    | ok _ =>
      simp only [Except.map]
      cases (start.load libs).linker.resolve.outcome with
      | error e => rfl
      | ok _ => rfl

theorem loadOracle (trace : Trace) :
    ((inv.loadOracle files).run trace).1 = .ok (Reference.compare reference) := by
  have hreference := h.reference
  rw [Invocation.loadOracle]
  cases hfile : inv.genericRefs with
  | none =>
    rw [hfile] at hreference
    cases hreference
    rfl
  | some file =>
    rw [hfile] at hreference
    cases hreference with
    | some hold =>
      obtain ⟨text, htext, hread⟩ := hold
      simp only [htext, hread, Run.get, pure_bind]
      rfl

theorem report (l : Linker) (command : Command) (trace : Trace) :
    ((inv.report files l command).run trace).1 =
      .ok (command.report (Reference.compare reference) inv.format l) := by
  cases command with
  | deps => rfl
  | spHal => rfl
  | spLib =>
    have horacle := h.loadOracle trace
    rw [Invocation.report, Run.run_bind]
    revert horacle
    generalize (inv.loadOracle files).run trace = oracle
    obtain ⟨oracle, trace⟩ := oracle
    rintro rfl
    rfl

/-- What a run prints is the report on the linked image. A run whose files can be read fails
only if the image cannot be linked. -/
theorem outcome (hhelp : inv.help = false) {command : Command}
    (hcommand : inv.command = some command) :
    (inv.outcome files).1 =
      ((Linker.ofManifest (inv.settings config) libs).map fun l =>
        command.report (Reference.compare reference) inv.format l).mapError
          fun e => ⟨[], .link e⟩ := by
  have himage := h.loadImage .start
  rw [inv.outcome_eq files hhelp hcommand, Run.run_bind]
  revert himage
  generalize (inv.loadImage files).run .start = image
  obtain ⟨image, trace⟩ := image
  rintro rfl
  cases Linker.ofManifest (inv.settings config) libs with
  | error e => rfl
  | ok l => exact h.report l command trace

end Invocation.Reads

end ImageTiers
