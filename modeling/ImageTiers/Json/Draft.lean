-- What a JSON text says, as far as it can be read. A text may break off or
-- stop making sense anywhere. Everything read up to that point is kept, so
-- that whoever looks for an error in it finds the first one in the text, be
-- it in the meaning or in the writing.
import ImageTiers.Json.Token

namespace ImageTiers.Json

/-! ## Drafts -/

/-- How the reading of an array or object ended: at its closing bracket, or
where no more could be read. -/
inductive Ending
  | closed
  | cut
  deriving DecidableEq

/-- A value as read. The members of an object keep their order, and a key may
come twice. -/
inductive Draft
  | null
  | bool (b : Bool)
  | number (n : Numeral)
  | string (s : Text)
  | array (items : List Draft) (ending : Ending)
  | object (members : List (Text × Draft)) (ending : Ending)
  /-- There is no value where one should be. -/
  | broken

/-- A key with its value. -/
abbrev Member := Text × Draft

/-! ## Reading -/

/-- An array or object that is still open. What it holds so far is listed
backwards. -/
inductive Open
  | array (before : List Draft)
  | object (before : List Member) (key : Text)

/-- How far the reading has come. `up` are the open arrays and objects, the
inner one first. -/
inductive Reading
  /-- A value has to come. -/
  | value (up : List Open)
  /-- An array was opened: a value or its end has to come. -/
  | item (up : List Open)
  /-- An object was opened: a key or its end has to come. -/
  | member (up : List Open)
  /-- After a comma in an object: a key has to come. -/
  | key (before : List Member) (up : List Open)
  | colon (before : List Member) (key : Text) (up : List Open)
  /-- A value is complete. -/
  | after (d : Draft) (up : List Open)
  /-- No more can be read. -/
  | stuck (root : Draft)

/-- Ends every open array and object where it stands, with `d` innermost. -/
def Draft.within (d : Draft) : List Open → Draft
  | [] => d
  | .array before :: up => within (.array (d :: before).reverse .cut) up
  | .object before key :: up => within (.object ((key, d) :: before).reverse .cut) up

namespace Reading

/-- What was read if nothing more can be. -/
def soFar : Reading → Draft
  | value up => Draft.broken.within up
  | item up => (Draft.array [] .cut).within up
  | member up => (Draft.object [] .cut).within up
  | key before up => (Draft.object before.reverse .cut).within up
  | colon before k up => (Draft.object ((k, .broken) :: before).reverse .cut).within up
  | after d up => d.within up
  | stuck root => root

/-- Reads the first token of a value. -/
def begin (up : List Open) : Token → Reading
  | .null => after .null up
  | .bool b => after (.bool b) up
  | .number n => after (.number n) up
  | .string s => after (.string s) up
  | .openArray => item up
  | .openObject => member up
  | _ => stuck (value up).soFar

/-- Reads one token. -/
def step : Reading → Token → Reading
  | value up, t => begin up t
  | item up, .closeArray => after (.array [] .closed) up
  | item up, t => begin (.array [] :: up) t
  | member up, .closeObject => after (.object [] .closed) up
  | member up, .string k => colon [] k up
  | key before up, .string k => colon before k up
  | colon before k up, .colon => value (.object before k :: up)
  | after d (.array before :: up), .comma => value (.array (d :: before) :: up)
  | after d (.array before :: up), .closeArray =>
    after (.array (d :: before).reverse .closed) up
  | after d (.object before k :: up), .comma => key ((k, d) :: before) up
  | after d (.object before k :: up), .closeObject =>
    after (.object ((k, d) :: before).reverse .closed) up
  | r, _ => stuck r.soFar

end Reading

/-- Reads on through a text whose first characters, as many as the number says,
belong to a token that was already read. -/
def Reading.through (r : Reading) : Nat → List Char → Reading
  | _, [] => r
  | n + 1, _ :: cs => through r n cs
  | 0, c :: cs =>
    if isBlank c then through r 0 cs
    else
      match scanToken c cs with
      | some (t, n) => through (r.step t) n cs
      | none => .stuck r.soFar

/-- A whole text as read. -/
structure Document where
  root : Draft
  /-- The value is complete and nothing follows it. -/
  clean : Bool

/-- What was read by the end of the text. -/
def Reading.document : Reading → Document
  | .after d [] => ⟨d, true⟩
  | r => ⟨r.soFar, false⟩

/-- Reads a text. -/
def read (text : String) : Document := (Reading.through (.value []) 0 text.toList).document

/-! ## Values that are not looked into -/

namespace Draft

mutual

/-- The value was read to its end. That is all it takes to pass over it. -/
def isComplete : Draft → Bool
  | array items ending => ending = .closed && allComplete items
  | object members ending => ending = .closed && membersComplete members
  | broken => false
  | _ => true

def allComplete : List Draft → Bool
  | [] => true
  | d :: ds => d.isComplete && allComplete ds

def membersComplete : List (Text × Draft) → Bool
  | [] => true
  | (_, d) :: ms => d.isComplete && membersComplete ms

end

mutual

/-- The value can be kept for later: it is complete, its strings and keys are
text, its numbers fit a double, and its arrays and objects are nested at most
`room` deep. -/
def isKeepable (room : Nat) : Draft → Bool
  | array items ending => match room with
    | 0 => false
    | room + 1 => ending = .closed && allKeepable room items
  | object members ending => match room with
    | 0 => false
    | room + 1 => ending = .closed && membersKeepable room members
  | string s => s.isSome
  | number n => n.isFinite
  | broken => false
  | _ => true

def allKeepable (room : Nat) : List Draft → Bool
  | [] => true
  | d :: ds => d.isKeepable room && allKeepable room ds

def membersKeepable (room : Nat) : List (Text × Draft) → Bool
  | [] => true
  | (k, d) :: ms => k.isSome && d.isKeepable room && membersKeepable room ms

end

end Draft

end ImageTiers.Json
