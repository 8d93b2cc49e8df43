-- The program: it reads the files that its command line names, and does the rest
-- as one pure run.
import ImageTiers.Run

namespace ImageTiers

/-- The cause of a failed reading. -/
def FileError.ofSystem : IO.Error → FileError
  | .noFileOrDirectory .. => .notFound
  | e => .other e.toString

def readFromDisk (name : String) : IO (Except FileError ByteArray) := do
  try
    return .ok (← IO.FS.readBinFile name)
  catch e =>
    return .error (.ofSystem e)

end ImageTiers

open ImageTiers in
def main (words : List String) : IO UInt32 := do
  let contents ← (Invocation.parse words).1.files.mapM fun name => do
    return (name, ← readFromDisk name)
  let exit := execute (.ofContents contents) words
  IO.print exit.stdout
  IO.eprint exit.stderr
  return exit.code
