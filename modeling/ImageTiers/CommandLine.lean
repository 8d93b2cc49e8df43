-- The command line: which report to print, from which files, and how. A line
-- is read word by word. The first word that cannot be read ends the reading,
-- and what the words before it asked for stays.
import ImageTiers.Report

namespace ImageTiers

/-! ## Words -/

/-- The report to print. -/
inductive Command
  | deps
  | spHal
  | spLib
  deriving DecidableEq

namespace Command

def all : List Command := [.deps, .spHal, .spLib]

def name : Command → String
  | deps => "deps"
  | spHal => "sp-hal"
  | spLib => "sp-lib"

def ofName? (name : String) : Option Command := all.find? (·.name = name)

end Command

/-- An option that takes the next word, whatever that is, as a file name. -/
inductive FileOption
  | manifest
  | config
  | genericRefs
  deriving DecidableEq

namespace FileOption

def all : List FileOption := [.manifest, .config, .genericRefs]

def name : FileOption → String
  | manifest => "--manifest"
  | config => "--config"
  | genericRefs => "--generic-refs"

def ofName? (name : String) : Option FileOption := all.find? (·.name = name)

end FileOption

/-- An option that stands alone. -/
inductive Switch
  | strict
  | json
  | verbose
  | help
  deriving DecidableEq

namespace Switch

def all : List Switch := [.strict, .json, .verbose, .help]

def names : Switch → List String
  | strict => ["--strict"]
  | json => ["--json"]
  | verbose => ["-v", "--verbose"]
  | help => ["-h", "--help"]

def ofName? (name : String) : Option Switch := all.find? (·.names.contains name)

end Switch

/-! ## Invocations -/

/-- What a command line asks for. -/
structure Invocation where
  command : Option Command
  manifest : Option String
  config : Option String
  genericRefs : Option String
  strict : Bool
  json : Bool
  verbose : Bool
  help : Bool
  deriving DecidableEq

/-- Why a command line is refused. -/
inductive UsageError
  | needsValue (option : String)
  | unknownOption (word : String)
  | unexpectedArgument (word : String)
  | unknownCommand (word : String)
  | noCommand
  | manifestRequired
  | genericRefsNotApplicable
  deriving DecidableEq

def UsageError.message : UsageError → String
  | needsValue option => option ++ " needs a value"
  | unknownOption word => "unknown option " ++ word
  | unexpectedArgument word => "unexpected argument " ++ word
  | unknownCommand word => "unknown command " ++ word
  | noCommand => "no command given"
  | manifestRequired => "--manifest is required"
  | genericRefsNotApplicable => "--generic-refs only applies to sp-lib"

namespace Invocation

def empty : Invocation := ⟨none, none, none, none, false, false, false, false⟩

def setFile (inv : Invocation) (file : String) : FileOption → Invocation
  | .manifest => { inv with manifest := some file }
  | .config => { inv with config := some file }
  | .genericRefs => { inv with genericRefs := some file }

def turnOn (inv : Invocation) : Switch → Invocation
  | .strict => { inv with strict := true }
  | .json => { inv with json := true }
  | .verbose => { inv with verbose := true }
  | .help => { inv with help := true }

def scan (inv : Invocation) : List String → Invocation × Option UsageError
  | [] => (inv, none)
  | word :: words =>
    match FileOption.ofName? word with
    | some option =>
      match words with
      | [] => (inv, some (.needsValue word))
      | file :: words => scan (inv.setFile file option) words
    | none =>
      match Switch.ofName? word with
      | some switch => scan (inv.turnOn switch) words
      | none =>
        if word.toList.head? = some '-' then (inv, some (.unknownOption word))
        else if inv.command.isSome then (inv, some (.unexpectedArgument word))
        else
          match Command.ofName? word with
          | some command => scan { inv with command := some command } words
          | none => (inv, some (.unknownCommand word))

/-- What an invocation lacks, or has too much. One that asks for help lacks nothing. -/
def problem? (inv : Invocation) : Option UsageError :=
  if inv.help then none
  else if inv.command.isNone then some .noCommand
  else if inv.manifest.isNone then some .manifestRequired
  else if inv.genericRefs.isSome ∧ inv.command ≠ some .spLib then some .genericRefsNotApplicable
  else none

/-- What a command line asks for, and what is wrong with it. -/
def parse (words : List String) : Invocation × Option UsageError :=
  match scan empty words with
  | (inv, some e) => (inv, some e)
  | (inv, none) => (inv, inv.problem?)

def files (inv : Invocation) : List String :=
  inv.config.toList ++ inv.manifest.toList ++ inv.genericRefs.toList

def format (inv : Invocation) : Format := if inv.json then .json else .text

end Invocation

end ImageTiers
