-- JSON values as this library writes them, and their printed forms: one
-- member a line, two spaces for each level, or all on one line.
import ImageTiers.Hex

namespace ImageTiers

/-- A JSON value to be written. Members keep their order. -/
inductive Json
  | bool (b : Bool)
  | string (s : String)
  | array (items : List Json)
  | object (members : List (String × Json))

namespace Json

/-- An array of strings. -/
def strings (ss : List String) : Json := .array (ss.map .string)

/-! ## Strings -/

/-- A character as it stands inside a string. Quotes, backslashes and control
characters are escaped, and all else stands for itself. -/
def escape : Char → List Char
  | '\"' => ['\\', '\"']
  | '\\' => ['\\', '\\']
  | '\x08' => ['\\', 'b']
  | '\x0c' => ['\\', 'f']
  | '\n' => ['\\', 'n']
  | '\r' => ['\\', 'r']
  | '\t' => ['\\', 't']
  | c =>
    if c < ' ' then ['\\', 'u', '0', '0', hexDigit (c.toNat / 16), hexDigit (c.toNat % 16)]
    else [c]

def quote (s : String) : String := "\"" ++ String.ofList (s.toList.flatMap escape) ++ "\""

/-! ## Printing -/

/-- The start of a line at a level. -/
def newLine (level : Nat) : String := "\n" ++ String.ofList (List.replicate (2 * level) ' ')

mutual

/-- The text of a value that starts somewhere in a line of the given level. -/
def render (level : Nat) : Json → String
  | bool true => "true"
  | bool false => "false"
  | string s => quote s
  | array [] => "[]"
  | array items =>
    "[" ++ newLine (level + 1) ++
      ("," ++ newLine (level + 1)).intercalate (renderItems (level + 1) items) ++
      newLine level ++ "]"
  | object [] => "\x7b\x7d"
  | object members =>
    "\x7b" ++ newLine (level + 1) ++
      ("," ++ newLine (level + 1)).intercalate (renderMembers (level + 1) members) ++
      newLine level ++ "\x7d"

def renderItems (level : Nat) : List Json → List String
  | [] => []
  | i :: is => i.render level :: renderItems level is

def renderMembers (level : Nat) : List (String × Json) → List String
  | [] => []
  | (k, v) :: ms => (quote k ++ ": " ++ v.render level) :: renderMembers level ms

end

/-- The printed form of a value, with a line end after it. -/
def pretty (j : Json) : String := j.render 0 ++ "\n"

mutual

/-- The printed form of a value on one line, without a blank between its tokens. -/
def compact : Json → String
  | bool true => "true"
  | bool false => "false"
  | string s => quote s
  | array items => "[" ++ ",".intercalate (compactItems items) ++ "]"
  | object members => "\x7b" ++ ",".intercalate (compactMembers members) ++ "\x7d"

def compactItems : List Json → List String
  | [] => []
  | i :: is => i.compact :: compactItems is

def compactMembers : List (String × Json) → List String
  | [] => []
  | (k, v) :: ms => (quote k ++ ":" ++ v.compact) :: compactMembers ms

end

end Json

end ImageTiers
