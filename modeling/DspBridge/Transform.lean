import DspBridge.Compiler.Basic
import DspBridge.Descriptor.Declaration

/-!
# Transforming source files

The files of a host pass through the transformer one by one. A source file of the compiler becomes
the translated module; any other file, and a source file that does not compile, stays as it is. The
descriptor of a module only shows in the events.
-/

namespace DspBridge

/-- A transformer of files. -/
structure Transformer (σ : Type) where
  compiler : Compiler σ
  /-- Further flags of every compilation. -/
  flags : String
  /-- Whether declaration lines are reported. -/
  logDeclarations : Bool

namespace Transformer

variable {σ : Type}

/-- A transformer that reports declarations and has no further flags. -/
def new (compiler : Compiler σ) : Transformer σ := ⟨compiler, "", true⟩

/-- An action of the compiler. -/
def ask {α : Type} (action : Action (Compiler σ) α) : Action (Transformer σ) α :=
  action.on Transformer.compiler fun compiler transformer => { transformer with compiler }

/-- Report the declarations of a descriptor, or why it has none. -/
def reportDeclarations (filename text : String) : Action (Transformer σ) Unit := do
  let logs := (← get).logDeclarations
  match ← forDeclarations text fun line => if logs then report (.declaration line) else pure () with
  | .ok lines => report (.declarationsMade filename lines.length)
  | .error error => report (.declarationsSkipped filename error)

/-- Transform a file. -/
def transform (backend : Backend σ) (filename contents : String) :
    Action (Transformer σ) String := do
  match unitName? filename with
  | none => pure contents
  | some name =>
      match ← ask (Compiler.compile backend name contents (← get).flags) with
      | .ok output =>
          report (.descriptorMade filename output.descriptor)
          reportDeclarations filename output.descriptor
          pure output.translated
      | .error error =>
          report (.transformFailed filename error.message)
          pure contents

end Transformer
end DspBridge
