import DspBridge.Files.Folder
import DspBridge.Text.Blank

/-!
# Programs

A program as the bridge sees it: started with arguments in a directory, it leaves the directory
changed, writes to its two outputs, and succeeds or not. It sees nothing but its arguments and what
the directory holds. What it does elsewhere is left out, and so are the time that it takes and the
processes that it may leave behind.
-/

namespace DspBridge

open Files (Folder)

/-- Why a program cannot be started. -/
inductive StartError where
  | notFound
  | denied
  | notFolder
  | notProgram
  | nameTooLong
  | nulByte
  deriving DecidableEq, Repr

/-- The wording of an error. -/
def StartError.message : StartError → String
  | .notFound => Files.FileError.notFound.message
  | .denied => Files.FileError.denied.message
  | .notFolder => Files.FileError.notFolder.message
  | .notProgram => "Exec format error (os error 8)"
  | .nameTooLong => Files.FileError.nameTooLong.message
  | .nulByte => "nul byte found in provided data"

/-- What a run of a program leaves behind. -/
structure Run where
  /-- What is left of the directory in which the program was started. -/
  folder : Option Folder
  succeeded : Bool
  output : List UInt8
  diagnostics : List UInt8
  deriving DecidableEq, Repr

/-- A program under the name by which it is started. -/
structure Program where
  name : String
  start : (arguments : List String) → Folder → Except StartError Run

/-- The lines of a text, without their ends. -/
def firstLine? (text : String) : Option String :=
  if text.isEmpty then none
  else
    let line := text.toList.takeWhile (· != '\n')
    let line :=
      if line.length < text.length && line.getLast? == some '\r' then line.dropLast else line
    some (String.ofList line)

/-- What a program says about its version: the first line of its output. -/
def Program.version (program : Program) : String :=
  match program.start ["--version"] Folder.empty with
  | .ok run =>
      if run.succeeded then
        ((firstLine? (Text.Utf8.decodeLossy run.output)).map Text.trim).getD "unknown"
      else "unknown"
  | .error _ => "unknown"

end DspBridge
