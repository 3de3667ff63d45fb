import DspBridge.Compiler.Program
import DspBridge.Text.Blank

/-!
# The state of a running script

Everything a script can see or change: its arguments and variables, the directory it runs in, what
it has written, and where its descriptors lead. A script that has finished changes nothing any more.
-/

namespace DspBridge.Shell

open Files (Folder FileError)

/-- Where a descriptor leads. -/
inductive Stream where
  | output
  | diagnostics
  | file (names : List String)
  | discard
  deriving DecidableEq, Repr

/-- How a script ends. -/
inductive Exit where
  | code (status : Nat)
  | signal (number : Nat)
  deriving DecidableEq, Repr

/-- The state of a running script. -/
structure Machine where
  /-- The path of the script. -/
  name : String
  arguments : List String
  bindings : List (String × String)
  /-- The absolute path of the directory. -/
  directory : String
  folder : Folder
  /-- Whether the directory itself has been deleted. It is empty then, and nothing can be made in
  it. -/
  deleted : Bool
  input : List UInt8
  streams : List (Nat × Stream)
  output : List UInt8
  diagnostics : List UInt8
  /-- The status of the last command. -/
  status : Nat
  /-- The line of the last command. -/
  line : Nat
  finished : Option Exit
  deriving Repr

namespace Machine

/-- A script about to start: it has no input, and its descriptors lead to its two outputs. -/
def start (name directory : String) (arguments : List String) (folder : Folder) : Machine where
  name := name
  arguments := arguments
  bindings := []
  directory := directory
  folder := folder
  deleted := false
  input := []
  streams := [(1, .output), (2, .diagnostics)]
  output := []
  diagnostics := []
  status := 0
  line := 1
  finished := none

/-- Write bytes to a stream; a file that no longer exists takes nothing. -/
def writeTo (machine : Machine) (stream : Stream) (bytes : List UInt8) : Machine :=
  match stream with
  | .output => { machine with output := machine.output ++ bytes }
  | .diagnostics => { machine with diagnostics := machine.diagnostics ++ bytes }
  | .discard => machine
  | .file names =>
      match machine.folder.find? names with
      | some (.file content standing) =>
          { machine with folder := machine.folder.put names (.file (content ++ bytes) standing) }
      | _ => machine

/-- Write bytes to a descriptor; one that is not open takes nothing. -/
def write (machine : Machine) (descriptor : Nat) (bytes : List UInt8) : Machine :=
  match machine.streams.lookup descriptor with
  | some stream => machine.writeTo stream bytes
  | none => machine

/-- Write a text to a descriptor. -/
def say (machine : Machine) (descriptor : Nat) (text : String) : Machine :=
  machine.write descriptor (Text.bytesOf text)

/-- The machine after a command with a status. -/
def done (machine : Machine) (status : Nat) : Machine := { machine with status }

/-- The machine after a command that complains. -/
def complain (machine : Machine) (status : Nat) (text : String) : Machine :=
  (machine.say 2 (text ++ "\n")).done status

/-- Complain the way the shell does, with the script and the line. -/
def shellComplain (machine : Machine) (status : Nat) (text : String) : Machine :=
  machine.complain status s!"{machine.name}: {machine.line}: {text}"

/-- The machine after the end of the script. -/
def finish (machine : Machine) (exit : Exit) : Machine :=
  { machine with finished := some (machine.finished.getD exit) }

/-- The machine with a variable set. -/
def assign (machine : Machine) (name value : String) : Machine :=
  { machine with bindings := (name, value) :: machine.bindings.filter (·.1 != name) }

/-- The text by which the script knows its own process. -/
def processId : String := "1"

/-- The value of a parameter, empty if it is not set. -/
def parameter (machine : Machine) (name : String) : String :=
  if name == "#" then toString machine.arguments.length
  else if name == "?" then toString machine.status
  else if name == "$" then processId
  else if name == "0" then machine.name
  else if name == "*" || name == "@" then " ".intercalate machine.arguments
  else
    match name.toNat? with
    | some index => (machine.arguments[index - 1]?).getD ""
    | none => (machine.bindings.lookup name).getD ""

/-- The machine whose directory has been deleted with all that it held. -/
def deleteDirectory (machine : Machine) : Machine :=
  { machine with folder := Folder.empty, deleted := true }

/-- What becomes of an attempt to make something in the directory. -/
def making {α : Type} (machine : Machine) (attempt : Except FileError α) : Except FileError α :=
  if machine.deleted then .error .notFound else attempt

/-- The status that the script ends with. -/
def exit (machine : Machine) : Exit := machine.finished.getD (.code machine.status)

/-- What the run of the script leaves behind. -/
def toRun (machine : Machine) : Run where
  folder := if machine.deleted then none else some machine.folder
  succeeded := machine.exit == .code 0
  output := machine.output
  diagnostics := machine.diagnostics

end Machine

/-- How the shell words a file error, depending on whether a file was to be made. -/
def openReason (creating : Bool) (error : FileError) : String :=
  match error, creating with
  | .notFound, true => "Directory nonexistent"
  | .notFound, false => "No such file"
  | other, _ => other.reason

end DspBridge.Shell
