import DspBridge.Log.Traced

/-!
# Compiler backends

What the bridge asks of a compiler. A backend translates a unit into files of its own, which can
then be read; when it faults it has to be reset before it is used again. `recorded` keeps a list of
all that a backend is asked.
-/

namespace DspBridge

/-- A fault of a backend. -/
structure Fault where
  message : String
  deriving DecidableEq, Repr

/-- A compiler with states `σ`. -/
structure Backend (σ : Type) where
  /-- Translate a unit. False means that the compiler refused it. -/
  generate (name content command : String) : Action σ (Except Fault Bool)
  /-- The text of a file that was generated. -/
  read (path : String) : Action σ (Except Fault String)
  /-- What the last failure left behind, empty if nothing. -/
  lastError : Action σ String
  /-- Make the backend usable again after a fault. -/
  reset : Action σ Unit
  /-- The version of the compiler. -/
  version : Action σ String

/-- Something that a backend was asked. -/
inductive Call where
  | generate (name content command : String)
  | read (path : String)
  | lastError
  | reset
  | version
  deriving DecidableEq, Repr

namespace Backend

variable {σ : Type}

/-- An action of a backend, with a call put at the end of the record. -/
def record {α : Type} (call : Call) (action : Action σ α) : Action (σ × List Call) α :=
  fun (state, calls) =>
    let result := action state
    ⟨(result.value.1, (result.value.2, calls ++ [call])), result.events⟩

/-- A backend that keeps a record of its calls. -/
def recorded (backend : Backend σ) : Backend (σ × List Call) where
  generate name content command :=
    record (.generate name content command) (backend.generate name content command)
  read path := record (.read path) (backend.read path)
  lastError := record .lastError backend.lastError
  reset := record .reset backend.reset
  version := record .version backend.version

end Backend
end DspBridge
