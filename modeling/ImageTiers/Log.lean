-- What the library reports while it works. An entry says what happened; its
-- level and its text follow from that.
import ImageTiers.Findings
import ImageTiers.Library

namespace ImageTiers

/-- How much an entry matters, the most severe level first. -/
inductive LogLevel
  | warn
  | info
  | debug
  deriving DecidableEq

namespace LogLevel

def name : LogLevel → String
  | warn => "WARN"
  | info => "INFO"
  | debug => "DEBUG"

/-- A reader who asks for `limit` sees an entry of level `l`. -/
def shownAt (l limit : LogLevel) : Bool :=
  match limit, l with
  | debug, _ => true
  | info, debug => false
  | info, _ => true
  | warn, warn => true
  | warn, _ => false

end LogLevel

structure TierCounts where
  spHal : Nat
  spHalDep : Nat
  vndkSpHal : Nat
  spNdk : Nat
  spNdkIndirect : Nat
  vndkSpBoth : Nat
  deriving DecidableEq

inductive LogEntry
  | added (group : Group) (path : String)
  | needsItself (path : String)
  | missingNeeded (path soname : String)
  | unresolvedSymbol (path symbol : String)
  | linked (libraries : Nat) (stats : LinkStats)
  | loadedReference (libraries : Nat)
  | tiers (counts : TierCounts)
  deriving DecidableEq

namespace LogEntry

def level : LogEntry → LogLevel
  | missingNeeded .. => .warn
  | linked .. => .info
  | loadedReference .. => .info
  | _ => .debug

def message : LogEntry → String
  | added g path => "add " ++ g.partition.root ++ " lib " ++ path ++ " (" ++ g.elfClass.title ++ ")"
  | needsItself path => path ++ ": ignoring DT_NEEDED on itself"
  | missingNeeded path soname => path ++ ": missing needed library: " ++ soname
  | unresolvedSymbol path symbol => path ++ ": unresolved symbol " ++ symbol
  | linked libraries s =>
    "resolved " ++ toString libraries ++ " libs: " ++ toString s.depEdges ++ " edges, " ++
      toString s.missingDeps ++ " missing DT_NEEDED, " ++ toString s.linkedSymbols ++
      " linked / " ++ toString s.unresolvedSymbols ++ " unresolved symbols"
  | loadedReference libraries => "loaded " ++ toString libraries ++ " generic reference libraries"
  | tiers c =>
    "sp-lib: " ++ toString c.spHal ++ " sp_hal, " ++ toString c.spHalDep ++ " sp_hal_dep, " ++
      toString c.vndkSpHal ++ " vndk_sp_hal, " ++ toString c.spNdk ++ " sp_ndk, " ++
      toString c.spNdkIndirect ++ " sp_ndk_indirect, " ++ toString c.vndkSpBoth ++ " vndk_sp_both"

end LogEntry

/-- The entries in the order they were made. -/
abbrev Log := List LogEntry

/-- What a reader who asks for `limit` sees of a log. -/
def Log.shownAt (log : Log) (limit : LogLevel) : Log := log.filter (·.level.shownAt limit)

end ImageTiers
