-- What can go wrong, by cause.
import ImageTiers.Json.Decode
import ImageTiers.Findings

namespace ImageTiers

inductive FileError
  | notFound
  | isADirectory
  | notADirectory
  /-- The content is not UTF-8. -/
  | invalidData
  /-- The name holds a character that no file name can have. -/
  | invalidInput
  | other (text : String)
  deriving DecidableEq

namespace FileError

/-- The kind of the error, in one word. -/
def kind : FileError → String
  | notFound => "NotFound"
  | isADirectory => "IsADirectory"
  | notADirectory => "NotADirectory"
  | invalidData => "InvalidData"
  | invalidInput => "InvalidInput"
  | other _ => "Other"

def message : FileError → String
  | notFound => "no such file or directory"
  | isADirectory => "is a directory"
  | notADirectory => "not a directory"
  | invalidData => "the content is not UTF-8"
  | invalidInput => "the file name contains a null character"
  | other text => text

end FileError

def Json.DecodeError.text (e : Json.DecodeError) : String := e.message?.getD "malformed JSON"

/-- What a linker, or one of the files that set it up, can refuse. -/
inductive LinkError
  | duplicatePath (path : String)
  | unknownPath (path : String)
  | invalidPattern (text : String)
  | unresolved (report : UnresolvedReport)
  | config (cause : Json.DecodeError)
  | file (cause : FileError)
  deriving DecidableEq

def LinkError.message : LinkError → String
  | duplicatePath path => "library already added: " ++ path
  | unknownPath path => "no library registered at " ++ path
  | invalidPattern text => "invalid SP-HAL pattern `" ++ text ++ "`"
  | unresolved report => "strict resolution failed: " ++ report.message
  | config cause => "bad config: " ++ cause.text
  | file cause => cause.message

end ImageTiers
