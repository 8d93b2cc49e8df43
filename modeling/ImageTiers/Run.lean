-- Running a command line. A run reads files through a function, so it can
-- work on a disk as well as on a tree of files in memory. It logs what it
-- does, and it writes its report last, when nothing can fail any more.
import ImageTiers.CommandLine
import ImageTiers.Manifest

namespace ImageTiers

/-! ## Failures -/

/-- What a run was doing when it failed. -/
inductive Activity
  | loadingConfig (file : String)
  | readingManifest (file : String)
  | inManifest (file : String)
  | parsingManifest
  | loadingGenericRefs (file : String)
  deriving DecidableEq

def Activity.message : Activity → String
  | loadingConfig file => "loading config " ++ file
  | readingManifest file => "reading manifest " ++ file
  | inManifest file => "in " ++ file
  | parsingManifest => "parsing library manifest"
  | loadingGenericRefs file => "loading generic refs " ++ file

/-- Why a run failed. -/
inductive Cause
  | usage (e : UsageError)
  | link (e : LinkError)
  | json (e : Json.DecodeError)
  | file (e : FileError)
  deriving DecidableEq

def Cause.message : Cause → String
  | usage e => e.message
  | link e => e.message
  | json e => e.text
  | file e => e.message

/-- A failed run: its cause, and what was going on, the outermost activity first. -/
structure Failure where
  activities : List Activity
  cause : Cause
  deriving DecidableEq

/-- All that there is to say about a failure, the outermost first. -/
def Failure.messages (f : Failure) : List String :=
  f.activities.map (·.message) ++ [f.cause.message]

/-! ## Files -/

/-- The content of each file, or why it cannot be had. -/
abbrev Files := String → Except FileError ByteArray

/-- Files whose contents were taken in before. -/
def Files.ofContents (contents : List (String × Except FileError ByteArray)) : Files := fun name =>
  (contents.lookup name).getD (.error .notFound)

/-- The content of a file as text. -/
def Files.text (files : Files) (name : String) : Except FileError String := do
  let content ← files name
  match String.fromUTF8? content with
  | some text => return text
  | none => throw .invalidData

/-! ## Steps of a run -/

/-- What a run has left behind so far. -/
structure Trace where
  log : Log
  /-- What is written to the standard output. -/
  output : String

namespace Trace

def start : Trace := ⟨[], ""⟩

def note (t : Trace) (entries : Log) : Trace := { t with log := t.log ++ entries }

def write (t : Trace) (text : String) : Trace := { t with output := t.output ++ text }

end Trace

/-- A part of a run. What it leaves behind stays even if it fails. -/
abbrev Run := ExceptT Failure (StateM Trace)

namespace Run

def fail {α : Type} (activities : List Activity) (cause : Cause) : Run α :=
  throw ⟨activities, cause⟩

/-- Goes on with a value, or fails. -/
def get {ε α : Type} (activities : List Activity) (cause : ε → Cause) : Except ε α → Run α
  | .ok a => pure a
  | .error e => fail activities (cause e)

def note (entries : Log) : Run Unit := modify (·.note entries)

def write (text : String) : Run Unit := modify (·.write text)

/-- Does a step of the linker. -/
def step {α : Type} (s : Step α) : Run Linker := do
  note s.log
  let _ ← get [] .link s.outcome
  return s.linker

end Run

def parseManifest (text : String) : Except Failure (List Library) :=
  (Manifest.ofText text).mapError fun e => ⟨[.parsingManifest], .json e⟩

namespace Invocation

/-- The settings: those of the configuration file, or the defaults. The strict
switch wins over both. -/
def loadConfig (inv : Invocation) (files : Files) : Run Config := do
  let config ← match inv.config with
    | none => pure Config.default
    | some file => do
      let text ← Run.get [.loadingConfig file] (.link ∘ .file) (files.text file)
      Run.get [.loadingConfig file] (.link ∘ .config) (Config.ofText text)
  return if inv.strict then { config with policy := .strict } else config

def loadManifest (file : String) (files : Files) : Run (List Library) := do
  let text ← Run.get [.readingManifest file] .file (files.text file)
  match parseManifest text with
  | .ok libs => return libs
  | .error f => throw { f with activities := .inManifest file :: f.activities }

/-- The linked image of the manifest. -/
def loadImage (inv : Invocation) (files : Files) : Run Linker := do
  let some file := inv.manifest | Run.fail [] (.usage .manifestRequired)
  let config ← inv.loadConfig files
  let linker ← Run.get [] .link (Linker.ofConfig config)
  let linker ← Run.step (linker.load (← loadManifest file files))
  Run.step linker.resolve

/-- How libraries compare with the reference image. Without one, every system
library counts as generic. -/
def loadOracle (inv : Invocation) (files : Files) : Run (Library → RefClass) :=
  match inv.genericRefs with
  | none => pure fun _ => .exportEqual
  | some file => do
    let text ← Run.get [.loadingGenericRefs file] (.link ∘ .file) (files.text file)
    let reference ← Run.get [.loadingGenericRefs file] (.link ∘ .config) (Reference.ofText text)
    Run.note [.loadedReference reference.size]
    return reference.classify

def usage : String :=
  "usage: vndk-def <command> --manifest FILE [options]\n" ++
  "\n" ++
  "commands:\n" ++
  "  deps      print resolved DT_NEEDED edges and unresolved symbols\n" ++
  "  sp-hal    print predefined same-process HALs\n" ++
  "  sp-lib    print same-process library tiers\n" ++
  "\n" ++
  "options:\n" ++
  "  --manifest FILE       JSON list of libraries (partition, path, class, symbols)\n" ++
  "  --config FILE         JSON linker config\n" ++
  "  --generic-refs FILE   reference exports for sp-lib, \x7bpath: [symbols]\x7d\n" ++
  "  --strict              fail on missing DT_NEEDED or unresolved symbols\n" ++
  "  --json                print JSON instead of text\n" ++
  "  -v, --verbose         debug logging\n" ++
  "  -h, --help            print this message"

/-- The text of the report on a linked image. -/
def report (inv : Invocation) (files : Files) (linker : Linker) : Command → Run String
  | .deps => return Report.deps linker.image inv.format
  | .spHal => return Report.paths linker.image linker.spHal inv.format
  | .spLib => do
    let tiers := linker.tiers (← inv.loadOracle files)
    Run.note tiers.log
    return Report.tiers linker.image tiers inv.format

/-- Writes the help, or else the report that the invocation asks for. -/
def run (inv : Invocation) (files : Files) : Run Unit := do
  if inv.help then
    Run.write (usage ++ "\n")
  else
    let some command := inv.command | Run.fail [] (.usage .noCommand)
    let linker ← inv.loadImage files
    let text ← inv.report files linker command
    Run.write text

/-- What an invocation writes, or why it fails, and the log. -/
def outcome (inv : Invocation) (files : Files) : Except Failure String × Log :=
  let (result, trace) := (inv.run files).run .start
  (result.map fun _ => trace.output, trace.log)

/-- The invocation of a command line that is not refused. -/
def accept (words : List String) : Run Invocation :=
  match parse words with
  | (_, some e) => Run.fail [] (.usage e)
  | (inv, none) => pure inv

end Invocation

/-! ## Whole runs -/

/-- What a run of the program leaves behind. -/
structure Exit where
  code : UInt32
  stdout : String
  stderr : String

def Log.lines (log : Log) : List String := log.map fun e => e.level.name ++ " " ++ e.message

/-- The lines of a failure: what failed, and below it why. -/
def Failure.lines (f : Failure) : List String :=
  match f.messages with
  | [] => []
  | first :: causes =>
    ("Error: " ++ first) ::
      (if causes.isEmpty then [] else ["", "Caused by:"] ++ causes.map ("    " ++ ·))

/-- Runs a command line. A line that is refused ends with code 2, a run that
fails with code 1, and all others with code 0. What has been written to the
standard output stays there in each case. -/
def execute (files : Files) (words : List String) : Exit :=
  match (Invocation.accept words).run .start with
  | (.error f, trace) =>
    ⟨2, trace.output, "vndk-def: " ++ f.cause.message ++ "\n\n" ++ Invocation.usage ++ "\n"⟩
  | (.ok inv, trace) =>
    let (result, trace) := (inv.run files).run trace
    let logged := (trace.log.shownAt (if inv.verbose then .debug else .warn)).lines
    match result with
    | .ok () => ⟨0, trace.output, Report.lines logged⟩
    | .error f => ⟨1, trace.output, Report.lines (logged ++ f.lines)⟩

end ImageTiers
