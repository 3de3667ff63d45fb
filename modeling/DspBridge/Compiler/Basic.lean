import DspBridge.Compiler.Backend
import DspBridge.Compiler.Command

/-!
# The compiler

One compilation through a backend. Whatever goes wrong becomes one error with one text: what the
backend reports about it, or else the fault itself. A fault is followed by a reset, so the backend
can be used again.
-/

namespace DspBridge

/-- Why a unit was not compiled. -/
inductive CompileError where
  /-- The unit has no name. -/
  | emptyName
  /-- The compiler refused the unit, with a diagnostic that may be empty. -/
  | refused (reported : String)
  /-- The backend faulted, with a diagnostic that may be empty. -/
  | faulted (fault : Fault) (reported : String)
  deriving DecidableEq, Repr

/-- The wording of an error. -/
def CompileError.message : CompileError → String
  | .emptyName => "empty DSP name"
  | .refused reported => if reported.isEmpty then "compilation failed" else reported
  | .faulted fault reported => if reported.isEmpty then fault.message else reported

/-- What a compilation makes. -/
structure Output where
  /-- The translated source. -/
  translated : String
  /-- The user interface descriptor. -/
  descriptor : String
  deriving DecidableEq, Repr

/-- A compiler with a backend in state `backend`. -/
structure Compiler (σ : Type) where
  backend : σ
  includeDirs : List String
  /-- How the last compilation failed, if it did. -/
  failure : Option CompileError

namespace Compiler

variable {σ : Type}

/-- A compiler that has compiled nothing yet. -/
def new (backend : σ) (includeDirs : List String) : Compiler σ := ⟨backend, includeDirs, none⟩

/-- The text of the last compilation's error, empty if it succeeded. -/
def errorMessage (compiler : Compiler σ) : String :=
  (compiler.failure.map CompileError.message).getD ""

/-- An action of the backend. -/
def ask {α : Type} (action : Action σ α) : Action (Compiler σ) α :=
  action.on Compiler.backend fun backend compiler => { compiler with backend }

/-- Record a failure. -/
def fail (error : CompileError) : Action (Compiler σ) (Except CompileError Output) := do
  report (.compileFailed error.message)
  modify fun compiler => { compiler with failure := some error }
  pure (.error error)

/-- Translate a unit and read what was generated; nothing if the compiler refused the unit. -/
def produce (backend : Backend σ) (name content command : String) :
    Action σ (Except Fault (Option Output)) := do
  match ← backend.generate name content command with
  | .error fault => pure (.error fault)
  | .ok false => pure (.ok none)
  | .ok true =>
      match ← backend.read (moduleName name) with
      | .error fault => pure (.error fault)
      | .ok translated =>
          match ← backend.read (descriptorName name) with
          | .error fault => pure (.error fault)
          | .ok descriptor => pure (.ok (some ⟨translated, descriptor⟩))

/-- Compile a unit with further flags. -/
def compile (backend : Backend σ) (name content flags : String) :
    Action (Compiler σ) (Except CompileError Output) := do
  modify fun compiler => { compiler with failure := none }
  if name.isEmpty then fail .emptyName
  else
    let command := commandText name flags (← get).includeDirs
    report (.compiling name command)
    match ← ask (produce backend name content command) with
    | .ok (some output) => pure (.ok output)
    | .ok none =>
        let reported ← ask backend.lastError
        fail (.refused reported)
    | .error fault =>
        let reported ← ask backend.lastError
        ask backend.reset
        fail (.faulted fault reported)

/-- The version of the backend's compiler. -/
def version (backend : Backend σ) : Action (Compiler σ) String := ask backend.version

end Compiler
end DspBridge
