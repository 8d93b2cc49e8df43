-- The settings of a linker, and their JSON form. Every setting has a
-- default, so an empty object is a valid configuration.
import ImageTiers.Json.Decode
import ImageTiers.Json.Value

namespace ImageTiers

open Json (Draft Decoder DecodeError)

/-- What a linker does about names and symbols that it does not find. -/
inductive LinkPolicy
  /-- Record them. -/
  | lenient
  /-- Record them, and then fail. -/
  | strict
  deriving DecidableEq

namespace LinkPolicy

def all : List LinkPolicy := [.lenient, .strict]

def name : LinkPolicy → String
  | lenient => "lenient"
  | strict => "strict"

end LinkPolicy

structure Config where
  policy : LinkPolicy
  /-- Look for a symbol in the rest of the group if no needed library has it. -/
  symbolFallback : Bool
  /-- More stems of the low-level NDK. -/
  extraLlNdk : List String
  /-- More stems of the same-process NDK. -/
  extraSpNdk : List String
  /-- More patterns for the paths of same-process HALs. -/
  extraSpHalPatterns : List String
  deriving DecidableEq

namespace Config

def default : Config := ⟨.lenient, true, [], [], []⟩

def strict : Config := { default with policy := .strict }

/-! ## Encoding -/

/-- The names of the settings, in the order they are written. -/
def fieldNames : List String :=
  ["policy", "symbol_fallback", "extra_ll_ndk", "extra_sp_ndk", "extra_sp_hal_patterns"]

/-- All settings with their names, in the order they are written. -/
def members (c : Config) : List (String × Json) :=
  [("policy", .string c.policy.name), ("symbol_fallback", .bool c.symbolFallback),
    ("extra_ll_ndk", .strings c.extraLlNdk), ("extra_sp_ndk", .strings c.extraSpNdk),
    ("extra_sp_hal_patterns", .strings c.extraSpHalPatterns)]

def toJson (c : Config) : Json := .object c.members

/-! ## Decoding -/

/-- The settings seen so far. -/
structure Slots where
  policy : Option LinkPolicy
  symbolFallback : Option Bool
  extraLlNdk : Option (List String)
  extraSpNdk : Option (List String)
  extraSpHalPatterns : Option (List String)

namespace Slots

def empty : Slots := ⟨none, none, none, none, none⟩

/-- The configuration, with defaults for what was not seen. -/
def config (s : Slots) : Config where
  policy := s.policy.getD Config.default.policy
  symbolFallback := s.symbolFallback.getD Config.default.symbolFallback
  extraLlNdk := s.extraLlNdk.getD Config.default.extraLlNdk
  extraSpNdk := s.extraSpNdk.getD Config.default.extraSpNdk
  extraSpHalPatterns := s.extraSpHalPatterns.getD Config.default.extraSpHalPatterns

end Slots

def decodePolicy : Decoder LinkPolicy :=
  Json.decodeChoice .direct (LinkPolicy.all.map fun p => (p.name, p))

def decodeStrings : Decoder (List String) := Json.decodeList Json.decodeString

/-- Takes in one member of the object. A key must be known and must be new. -/
def put (s : Slots) : Json.Member → Except DecodeError Slots
  | (none, _) => .error .malformed
  | (some "policy", d) => do
    return { s with policy := ← Json.fill "policy" s.policy decodePolicy d }
  | (some "symbol_fallback", d) => do
    return { s with
      symbolFallback := ← Json.fill "symbol_fallback" s.symbolFallback Json.decodeBool d }
  | (some "extra_ll_ndk", d) => do
    return { s with extraLlNdk := ← Json.fill "extra_ll_ndk" s.extraLlNdk decodeStrings d }
  | (some "extra_sp_ndk", d) => do
    return { s with extraSpNdk := ← Json.fill "extra_sp_ndk" s.extraSpNdk decodeStrings d }
  | (some "extra_sp_hal_patterns", d) => do
    return { s with
      extraSpHalPatterns :=
        ← Json.fill "extra_sp_hal_patterns" s.extraSpHalPatterns decodeStrings d }
  | (some name, _) => .error (.unknownField name fieldNames)

/-- The settings without their names, in the order they are written. The last
ones may be left out. -/
def ofItems (items : List Draft) : Except DecodeError Slots := do
  let (policy, items) ← Json.takeItem decodePolicy items
  let (symbolFallback, items) ← Json.takeItem Json.decodeBool items
  let (extraLlNdk, items) ← Json.takeItem decodeStrings items
  let (extraSpNdk, items) ← Json.takeItem decodeStrings items
  let (extraSpHalPatterns, items) ← Json.takeItem decodeStrings items
  Json.ensure items.isEmpty
  return ⟨policy, symbolFallback, extraLlNdk, extraSpNdk, extraSpHalPatterns⟩

def decoder : Decoder Config
  | .object members ending => do
    let slots ← members.foldlM put .empty
    Json.ensure (ending = .closed)
    return slots.config
  | .array items ending => do
    let slots ← ofItems items
    Json.ensure (ending = .closed)
    return slots.config
  | _ => .error .malformed

def ofText (text : String) : Except DecodeError Config := Json.decode decoder text

end Config

end ImageTiers
