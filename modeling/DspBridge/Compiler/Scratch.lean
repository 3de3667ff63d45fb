import DspBridge.Compiler.Basic
import DspBridge.Compiler.Program
import DspBridge.Text.Quoted

/-!
# Compiling in a scratch directory

The backend that runs a compiler program. It owns a scratch directory, which it clears before each
unit; the source is written there, the program runs there, and what it generates is read from
there. Every path that it is given has to lead to something below that directory.

The program may leave the directory in any state, so clearing it can fail, and can stop half-way.
What stands outside of the directory is left out, except for what links in the directory lead to; and
nothing but the backend and its program is at work there.
-/

namespace DspBridge

open Files (Folder FileError Limits)

/-- The state of the backend. -/
structure Scratch where
  /-- The scratch directory, unless something has deleted it. -/
  folder : Option Folder
  lastError : String
  limits : Limits
  deriving DecidableEq, Repr

/-- Why the backend faults. -/
inductive ScratchFault where
  | notCleared (error : FileError)
  | notRelative (path : String)
  | notWritten (error : FileError)
  | notStarted (program : String) (error : StartError)
  | notRenamed (error : FileError)
  | notRead (path : String) (error : FileError)
  deriving DecidableEq, Repr

/-- The wording of a fault. -/
def ScratchFault.message : ScratchFault → String
  | .notCleared error => s!"cannot clear scratch dir: {error.message}"
  | .notRelative path => s!"unit path must be relative: {path}"
  | .notWritten error | .notRenamed error => error.message
  | .notStarted program error => s!"failed to run {program}: {error.message}"
  | .notRead path error => s!"cannot read {path}: {error.message}"

/-- A fault as the compiler sees it. -/
def ScratchFault.toFault (fault : ScratchFault) : Fault := ⟨fault.message⟩

/-- A scratch directory that cannot be made. -/
structure ScratchRefusal where
  path : String
  error : FileError
  deriving DecidableEq, Repr

/-- The wording of a refusal. -/
def ScratchRefusal.message (refusal : ScratchRefusal) : String :=
  s!"{refusal.error.message} at path {Text.quote refusal.path}"

namespace Scratch

/-- A scratch directory that has just been made. -/
def new (limits : Limits := {}) : Scratch := ⟨some Folder.empty, "", limits⟩

/-- Make a scratch directory of some name at a path below `top`, which holds `tree`. -/
def make (tree : Folder) (top path name : String) : Except ScratchRefusal Scratch :=
  let place := Files.join (Files.join top path) name
  match tree.makeFolder [] (Files.join path name) with
  | .ok _ => .ok (new (.below place))
  | .error error => .error ⟨place, error⟩

/-- The file that a compiler program names after the source file instead of the unit. -/
def sidecarName (name : String) : String := descriptorName (sourceName name)

/-- The names that lead to a path below the scratch directory. -/
def resolve (path : String) : Except ScratchFault (List String) :=
  match Files.below? path with
  | some names => .ok names
  | none => .error (.notRelative path)

/-- Actions of the backend that a fault ends. -/
abbrev Attempt (α : Type) := ExceptT ScratchFault (Action Scratch) α

/-- Report an event. -/
def tell (event : Event) : Attempt Unit := ExceptT.lift (report event)

/-- End with a fault. -/
def fault {α : Type} (fault : ScratchFault) : Attempt α := throw fault

/-- Change the state. -/
def change (next : Scratch → Scratch) : Attempt Unit := ExceptT.lift (modify next)

/-- Remove everything in the directory, up to the first thing that cannot be removed. -/
def clear : Action Scratch (Except FileError Unit) := do
  let scratch ← get
  match scratch.folder with
  | none => pure (.error .notFound)
  | some folder =>
      let (cleared, left) := folder.clear scratch.limits.nesting
      modify fun scratch => { scratch with folder := some left }
      pure cleared

/-- The names that a path stands for, or a fault. -/
def resolved (path : String) : Attempt (List String) :=
  match resolve path with
  | .ok names => pure names
  | .error error => fault error

/-- Write the source of a unit, and make the directories that it stands in. -/
def writeSource (name content : String) : Attempt Unit := do
  let names ← resolved (sourceName name)
  let scratch ← getThe Scratch
  let limit := scratch.limits.path
  match scratch.folder, Folder.checkPath limit (Files.around (sourceName name)) with
  | none, _ => fault (.notWritten .notFound)
  | some _, .error error => fault (.notWritten error)
  | some folder, .ok () =>
      let (made, folder) := folder.makeFolders [] names.dropLast
      change fun scratch => { scratch with folder := some folder }
      match made with
      | .error error => fault (.notWritten error)
      | .ok () =>
          match folder.writeBytes [] (sourceName name) (Text.bytesOf content) limit with
          | .error error => fault (.notWritten error)
          | .ok folder => change fun scratch => { scratch with folder := some folder }

/-- Run the program in the directory; whether it succeeded. -/
def execute (program : Program) (name command : String) : Attempt Bool := do
  tell (.running program.name command)
  match program.start (commandArguments command name) ((← getThe Scratch).folder.getD Folder.empty) with
  | .error error => fault (.notStarted program.name error)
  | .ok run =>
      change fun scratch => { scratch with folder := run.folder }
      if run.succeeded then pure true
      else
        let diagnostic := Text.trim (Text.Utf8.decodeLossy run.diagnostics)
        change fun scratch => { scratch with lastError := diagnostic }
        pure false

/-- Give the descriptor the name of the unit if the program has named it after the source file. -/
def settle (name : String) : Attempt Unit := do
  let sidecar := sidecarName name
  let _ ← resolved sidecar
  let scratch ← getThe Scratch
  let limit := scratch.limits.path
  match scratch.folder with
  | none => pure ()
  | some folder =>
      if folder.has [] sidecar limit then
        let _ ← resolved (descriptorName name)
        match folder.rename [] sidecar (descriptorName name) limit with
        | .error error => fault (.notRenamed error)
        | .ok folder => change fun scratch => { scratch with folder := some folder }

/-- Translate a unit: its artifacts live until the next one. -/
def generate (program : Program) (name content command : String) : Attempt Bool := do
  match ← ExceptT.lift clear with
  | .error error => fault (.notCleared error)
  | .ok () =>
      writeSource name content
      if ← execute program name command then
        settle name
        change fun scratch => { scratch with lastError := "" }
        pure true
      else pure false

/-- The text of a file in the directory. -/
def read (path : String) (scratch : Scratch) : Except ScratchFault String :=
  match resolve path with
  | .error fault => .error fault
  | .ok _ =>
      match scratch.folder with
      | none => .error (.notRead path .notFound)
      | some folder => (folder.readText [] path scratch.limits.path).mapError (.notRead path)

/-- Forget the last error and clear the directory; a directory that cannot be cleared is only
reported. -/
def reset : Action Scratch Unit := do
  modify fun scratch => { scratch with lastError := "" }
  match ← clear with
  | .ok () => pure ()
  | .error error => report (.scratchNotCleared error.message)

/-- The backend of a compiler program. -/
def backend (program : Program) : Backend Scratch where
  generate name content command := do
    let result ← (generate program name content command).run
    pure (result.mapError ScratchFault.toFault)
  read path := fun scratch => pure ((scratch.read path).mapError ScratchFault.toFault, scratch)
  lastError := fun scratch => pure (scratch.lastError, scratch)
  reset := reset
  version := pure program.version

end Scratch
end DspBridge
