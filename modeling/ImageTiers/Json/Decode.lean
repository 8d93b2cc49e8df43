-- Decoding a JSON text into a value of the library. A decoder looks at what
-- was read and gives the value, or the first error in the order of the text.
import ImageTiers.Json.Draft

namespace ImageTiers.Json

/-! ## Errors -/

/-- Why a text does not decode. -/
inductive DecodeError
  /-- The text is no JSON, or a value has the wrong shape. -/
  | malformed
  | missingField (name : String)
  | duplicateField (name : String)
  | unknownField (name : String) (known : List String)
  | unknownVariant (name : String) (known : List String)
  deriving DecidableEq

namespace DecodeError

def ticked (s : String) : String := "`" ++ s ++ "`"

/-- The names that would have been right. -/
def choices : List String → String
  | [a, b] => ticked a ++ " or " ++ ticked b
  | names => "one of " ++ ", ".intercalate (names.map ticked)

/-- The text of an error that names a field or a variant. The others have none. -/
def message? : DecodeError → Option String
  | malformed => none
  | missingField f => some ("missing field " ++ ticked f)
  | duplicateField f => some ("duplicate field " ++ ticked f)
  | unknownField f known => some ("unknown field " ++ ticked f ++ ", expected " ++ choices known)
  | unknownVariant v known =>
    some ("unknown variant " ++ ticked v ++ ", expected " ++ choices known)

end DecodeError

/-- A decoder of values of one type. -/
abbrev Decoder (α : Type) := Draft → Except DecodeError α

/-- Refuses what is not so, without a text. -/
def ensure (b : Bool) : Except DecodeError Unit := if b then .ok () else .error .malformed

/-! ## Plain values -/

def decodeBool : Decoder Bool
  | .bool b => .ok b
  | _ => .error .malformed

def decodeString : Decoder String
  | .string (some s) => .ok s
  | _ => .error .malformed

def decodeList {α : Type} (item : Decoder α) : Decoder (List α)
  | .array items ending => do
    let xs ← items.mapM item
    ensure (ending = .closed)
    return xs
  | _ => .error .malformed

/-! ## Choices -/

/-- Where a decoder works: on the text itself, or on a value that was kept
until the object around it was read. -/
inductive Stage
  | direct
  | kept
  deriving DecidableEq

/-- The value that the name `name` stands for. -/
def pick {α : Type} (options : List (String × α)) (name : String) : Except DecodeError α :=
  match options.lookup name with
  | some a => .ok a
  | none => .error (.unknownVariant name (options.map (·.1)))

/-- The value beside a variant's name says nothing: it is `null`, or, if it was
kept, an empty object. -/
def isBare (stage : Stage) : Draft → Bool
  | .null => true
  | .object [] .closed => stage = .kept
  | _ => false

/-- One of some named values. It is written as its name, or as an object with
its name as the only key. Only the text itself shows the name before it is
known that there is no second key. -/
def decodeChoice {α : Type} (stage : Stage) (options : List (String × α)) : Decoder α
  | .string (some name) => pick options name
  | .object ((some name, value) :: rest) ending => do
    ensure (stage = .direct || rest.isEmpty)
    let a ← pick options name
    ensure (isBare stage value && rest.isEmpty && ending = .closed)
    return a
  | _ => .error .malformed

/-! ## Parts of a record -/

/-- Fills the slot of a field, which must still be free. -/
def fill {α : Type} (name : String) (slot : Option α) (decode : Decoder α) (d : Draft) :
    Except DecodeError (Option α) :=
  if slot.isSome then .error (.duplicateField name) else some <$> decode d

/-- The first of some items, if there is one, and the items after it. -/
def takeItem {α : Type} (decode : Decoder α) :
    List Draft → Except DecodeError (Option α × List Draft)
  | [] => .ok (none, [])
  | d :: ds => do return (some (← decode d), ds)

/-- The value of a field that has to be there. -/
def required {α : Type} (name : String) : Option α → Except DecodeError α
  | some a => .ok a
  | none => .error (.missingField name)

/-! ## Texts -/

def decode {α : Type} (decoder : Decoder α) (text : String) : Except DecodeError α := do
  let doc := read text
  let a ← decoder doc.root
  ensure doc.clean
  return a

end ImageTiers.Json
