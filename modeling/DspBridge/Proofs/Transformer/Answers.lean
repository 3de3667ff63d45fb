import DspBridge.Proofs.Compiler.Journal
import DspBridge.Proofs.Host.Invisible
import DspBridge.Transform

/-!
# What a file becomes

The answer of a transformer to one file, whatever the backend does.  A file of another kind stays as
it is and reaches nothing; a source file is compiled, and its fate only depends on that.  What is
reported about the descriptor of a unit has no effect on the transformer.
-/

namespace DspBridge

namespace Transformer

variable {σ : Type}

/-! ## Reports -/

/-- An action that changes nothing can be done for all elements of a list. -/
theorem forIn_value {α σ : Type} {action : α → Action σ Unit} (elements : List α)
    (idle : ∀ element state, (action element state).value = ((), state)) (state : σ) :
    ((forIn elements () fun element _ => do
      action element
      pure (ForInStep.yield ()) : Action σ Unit) state).value = ((), state) := by
  induction elements with
  | nil => rfl
  | cons first rest ih =>
      rw [List.forIn_cons]
      simp only [Action.value_bind, idle, Action.pure_apply]
      exact ih

theorem forDeclarations_value {σ : Type} {action : String → Action σ Unit} (text : String)
    (idle : ∀ line state, (action line state).value = ((), state)) (state : σ) :
    (forDeclarations text action state).value = (declarationsOf text, state) := by
  rw [forDeclarations]
  cases declarationsOf text with
  | error error => rfl
  | ok lines =>
      simp only [Action.value_bind, forIn_value lines idle, Action.pure_apply]

/-- Reporting declarations leaves the transformer alone. -/
theorem reportDeclarations_value (filename text : String) (transformer : Transformer σ) :
    (reportDeclarations filename text transformer).value = ((), transformer) := by
  let action (line : String) : Action (Transformer σ) Unit :=
    if transformer.logDeclarations then report (.declaration line) else pure ()
  have idle : ∀ line state, (action line state).value = ((), state) := by
    intro line state
    simp only [action]
    cases transformer.logDeclarations <;> rfl
  rw [reportDeclarations, Action.value_bind]
  change ((forDeclarations text action >>= _) transformer).value = ((), transformer)
  rw [Action.value_bind, forDeclarations_value text idle]
  cases declarationsOf text <;> rfl

/-! ## Answers -/

variable (backend : Backend σ)

/-- The job that a source file is. -/
def jobOf (transformer : Transformer σ) (name contents : String) : Job :=
  ⟨name, contents, transformer.flags⟩

theorem transform_foreign {filename : String} (foreign : unitName? filename = none)
    (contents : String) (transformer : Transformer σ) :
    (transform backend filename contents transformer).value = (contents, transformer) := by
  rw [transform, foreign]
  rfl

/-- A source file becomes what its job makes of it, and the job is all that is done. -/
theorem transform_source {filename name : String} (source : unitName? filename = some name)
    (contents : String) (transformer : Transformer σ) :
    let compiled :=
      (Compiler.perform backend (transformer.jobOf name contents) transformer.compiler).value
    (transform backend filename contents transformer).value =
      ((compiled.1.map Output.translated).toOption.getD contents,
        { transformer with compiler := compiled.2 }) := by
  intro compiled
  have asked : ((ask (Compiler.compile backend name contents transformer.flags) :
      Action (Transformer σ) _) transformer).value =
        (compiled.1, { transformer with compiler := compiled.2 }) := rfl
  rw [transform, source]
  simp only [Action.value_bind, Action.get_apply, asked]
  cases compiled.1 with
  | ok output =>
      simp only [Action.value_bind, Action.report_apply, reportDeclarations_value]
      rfl
  | error error => rfl

/-- What becomes of a file. -/
inductive Fate (transformer : Transformer σ) (filename contents : String) : String → Prop where
  /-- A file of another kind stays as it is. -/
  | foreign : ¬ sourceSuffix.toList <:+ filename.toList → Fate transformer filename contents contents
  /-- So does a source file that is not compiled. -/
  | failed {name : String} {error : CompileError} : unitName? filename = some name →
      (Compiler.perform backend (transformer.jobOf name contents)
        transformer.compiler).value.1 = .error error →
      Fate transformer filename contents contents
  /-- A source file that is compiled becomes the module that the backend has generated for it. -/
  | compiled {name : String} {output : Output} {generated : σ} : unitName? filename = some name →
      (Compiler.perform backend (transformer.jobOf name contents)
        transformer.compiler).value.1 = .ok output →
      (backend.generate name contents (Compiler.commandFor transformer.compiler.includeDirs
        (transformer.jobOf name contents)) transformer.compiler.backend).value =
          (.ok true, generated) →
      (backend.read (moduleName name) generated).value.1 = .ok output.translated →
      Fate transformer filename contents output.translated

theorem fate_transform (transformer : Transformer σ) (filename contents : String) :
    Fate backend transformer filename contents
      (transform backend filename contents transformer).value.1 := by
  cases source : unitName? filename with
  | none =>
      rw [transform_foreign backend source]
      exact .foreign (unitName?_eq_none_iff.mp source)
  | some name =>
      rw [transform_source backend source]
      cases done : (Compiler.perform backend (transformer.jobOf name contents)
        transformer.compiler).value.1 with
      | error error => exact .failed source done
      | ok output =>
          obtain ⟨-, produced⟩ := (Compiler.perform_eq_ok_iff backend).mp done
          obtain ⟨generated, translated, started, reading, -⟩ :=
            (Compiler.produce_eq_ok_iff backend).mp produced
          exact .compiled source done started (congrArg Prod.fst reading)

end Transformer
end DspBridge
