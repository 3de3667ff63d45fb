import DspBridge.Files.Folder
import DspBridge.Yaml.Value

/-!
# Settings

What users set in a document of their own: the compiler program, its include directories and further
flags, and whether declarations are reported. Everything that is left out has a standard value.

Which documents the parser takes is worked out here, but not how it words what is wrong with the
others: an error carries whatever it says.
-/

namespace DspBridge

open Files (FileError)

/-- The settings of a run. -/
structure Settings where
  /-- The compiler program. -/
  program : String
  includeDirs : List String
  /-- Further flags of every compilation. -/
  flags : String
  /-- Whether declaration lines are reported. -/
  logDeclarations : Bool
  deriving DecidableEq, Repr

namespace Settings

/-- The settings of an empty document. -/
def standard : Settings := ⟨"faust", [], "", true⟩

/-- Where the settings stand in the home directory. -/
def homePath : String := ".faust-cmaj/config.yaml"

/-- Why a part of a document does not fit. -/
inductive Cause where
  | wrongKind (found expected : String)
  | repeated (name : String)
  deriving DecidableEq, Repr

/-- A part of a document that does not fit: how it is reached, and where it stands. -/
structure Misfit where
  path : String
  mark : Yaml.Mark
  cause : Cause
  deriving DecidableEq, Repr

/-- The wording of a cause. -/
def Cause.message : Cause → String
  | .wrongKind found expected => s!"invalid type: {found}, expected {expected}"
  | .repeated name => s!"duplicate field `{name}`"

/-- The wording of a misfit; its place is left out at the very beginning of the document. -/
def Misfit.message (misfit : Misfit) : String :=
  let path := if misfit.path.isEmpty then "" else misfit.path ++ ": "
  let line := misfit.mark.line + 1
  let column := misfit.mark.column + 1
  let place := if line = 1 ∧ column = 1 then "" else s!" at line {line} column {column}"
  path ++ misfit.cause.message ++ place

/-- What the parser says about a document that it does not take. -/
structure Complaint where
  path : String
  text : String
  deriving DecidableEq, Repr

/-- Why a file gives no settings. -/
inductive Error where
  | unreadable (path : String) (error : FileError)
  | malformed (complaint : Complaint)
  | unfit (path : String) (misfit : Misfit)
  deriving DecidableEq, Repr

/-- The wording of an error. -/
def Error.message : Error → String
  | .unreadable path error => s!"{path}: {error.message}"
  | .malformed complaint => s!"{complaint.path}: {complaint.text}"
  | .unfit path misfit => s!"{path}: {misfit.message}"

end Settings
end DspBridge
