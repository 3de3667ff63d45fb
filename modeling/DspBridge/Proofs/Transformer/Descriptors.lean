import DspBridge.Proofs.Compiler.Scripts
import DspBridge.Proofs.Transformer.Answers

/-!
# Descriptors do not show

A transformer is run twice, on scripts that store different descriptors and otherwise play the same
steps, once with declaration lines and once without.  Nothing that the host or the backend can see
of the two runs is different.  The relation between the two transformers is kept by every file, so
it holds all along the run.
-/

namespace DspBridge

/-- Steps that are the same, or that store the same module and each a descriptor. -/
inductive Step.Alike : Step → Step → Prop where
  | same (step : Step) : Alike step step
  | descriptor (translated : Option String) (text other : String) :
      Alike (.succeed translated (some text)) (.succeed translated (some other))

namespace Script

/-- The calls by which a unit is translated. -/
def asked (name content command : String) : List Step → List Call
  | .succeed (some _) _ :: _ =>
      [.generate name content command, .read (moduleName name), .read (descriptorName name)]
  | .succeed none _ :: _ => [.generate name content command, .read (moduleName name)]
  | _ => [.generate name content command]

/-- A unit is translated as its step says, and the step also says what is asked. -/
theorem produce_recorded (name content command : String) (script : Script) (calls : List Call)
    (usable : script.poisoned = false) :
    (Compiler.produce backend.recorded name content command (script, calls)).value =
      (outcome name script.steps,
        ((script.generate name).2, calls ++ asked name content command script.steps)) := by
  have distinct := moduleName_ne_descriptorName name
  rw [Compiler.produce_value]
  simp only [Backend.recorded, Backend.record, generate_value, read_value]
  cases played : script.steps with
  | nil => simp [generate, usable, played, outcome, asked]
  | cons step rest =>
      cases step with
      | refuse message => simp [generate, usable, played, outcome, asked]
      | fault raised reported => simp [generate, usable, played, outcome, asked]
      | succeed translated descriptor =>
          cases translated with
          | none =>
              cases descriptor <;>
                simp [generate, usable, played, outcome, asked, read, missing, List.lookup_cons,
                  beq_false_of_ne distinct]
          | some text =>
              cases descriptor <;>
                simp [generate, usable, played, outcome, asked, read, missing, List.lookup_cons,
                  beq_false_of_ne distinct.symm]

end Script

namespace Transformer

/-- Compilers that only differ in descriptors: those that are still to come, and what is left of
those that are stored. -/
structure Twins (left right : Compiler (Script × List Call)) : Prop where
  steps : List.Forall₂ Step.Alike left.backend.1.steps right.backend.1.steps
  usable : left.backend.1.poisoned = false ∧ right.backend.1.poisoned = false
  lastError : left.backend.1.lastError = right.backend.1.lastError
  resets : left.backend.1.resets = right.backend.1.resets
  calls : left.backend.2 = right.backend.2
  includeDirs : left.includeDirs = right.includeDirs
  failure : left.failure = right.failure

/-- A job does the same to twins, for what it does depends on which files a step stores, but not on
what a descriptor holds. -/
theorem Twins.perform {left right : Compiler (Script × List Call)} (twins : Twins left right)
    (job : Job) :
    let one := (Compiler.perform Script.backend.recorded job left).value
    let other := (Compiler.perform Script.backend.recorded job right).value
    one.1.map Output.translated = other.1.map Output.translated ∧ Twins one.2 other.2 := by
  obtain ⟨⟨⟨steps, version, files, lastError, poisoned, resets⟩, calls⟩, directories, failure⟩ := left
  obtain ⟨⟨⟨others, _, stored, _, _, _⟩, _⟩, _, _⟩ := right
  obtain ⟨alike, ⟨rfl, rfl⟩, rfl, rfl, rfl, rfl, rfl⟩ := twins
  by_cases named : job.name = ""
  · rw [Compiler.perform_empty _ named, Compiler.perform_empty _ named]
    exact ⟨rfl, ⟨alike, ⟨rfl, rfl⟩, rfl, rfl, rfl, rfl, rfl⟩⟩
  · rw [Compiler.perform_value _ named, Compiler.perform_value _ named,
      Script.produce_recorded _ _ _ _ _ rfl, Script.produce_recorded _ _ _ _ _ rfl]
    cases alike with
    | nil => exact ⟨rfl, ⟨.nil, ⟨rfl, rfl⟩, rfl, rfl, rfl, rfl, rfl⟩⟩
    | @cons step _ _ _ first rest =>
        cases first with
        | descriptor translated text other =>
            cases translated <;> exact ⟨rfl, ⟨rest, ⟨rfl, rfl⟩, rfl, rfl, rfl, rfl, rfl⟩⟩
        | same =>
            rcases step with ⟨_ | _, _ | _⟩ | _ | _
            all_goals exact ⟨rfl, ⟨rest, ⟨rfl, rfl⟩, rfl, rfl, rfl, rfl, rfl⟩⟩

/-- A file has the same answer from both transformers, and they are still twins after it. -/
theorem Twins.transform {left right : Transformer (Script × List Call)}
    (twins : Twins left.compiler right.compiler) (flags : left.flags = right.flags)
    (filename contents : String) :
    let one := (transform Script.backend.recorded filename contents left).value
    let other := (transform Script.backend.recorded filename contents right).value
    one.1 = other.1 ∧ Twins one.2.compiler other.2.compiler ∧ one.2.flags = other.2.flags := by
  cases source : unitName? filename with
  | none =>
      rw [transform_foreign _ source, transform_foreign _ source]
      exact ⟨rfl, twins, flags⟩
  | some name =>
      have job : right.jobOf name contents = left.jobOf name contents := by
        rw [jobOf, jobOf, flags]
      obtain ⟨same, next⟩ := twins.perform (left.jobOf name contents)
      rw [transform_source _ source, transform_source _ source, job]
      exact ⟨by rw [same], next, flags⟩

/-! ## Runs -/

/-- What can be seen of a transformer after a file: the answer, the text of the last error, all that
the backend has been asked, and how often it has been reset. -/
structure View where
  answer : String
  errorMessage : String
  calls : List Call
  resets : Nat
  deriving DecidableEq, Repr

/-- Transform a file and look at the transformer. -/
def look (file : String × String) : Action (Transformer (Script × List Call)) View := do
  let answer ← transform Script.backend.recorded file.1 file.2
  let compiler := (← get).compiler
  pure ⟨answer, compiler.errorMessage, compiler.backend.2, compiler.backend.1.resets⟩

/-- Transform files one after another and look at the transformer after each. -/
def views (files : List (String × String)) :
    Action (Transformer (Script × List Call)) (List View) :=
  files.mapM look

theorem look_value (file : String × String) (transformer : Transformer (Script × List Call)) :
    let done := (transform Script.backend.recorded file.1 file.2 transformer).value
    (look file transformer).value =
      (⟨done.1, done.2.compiler.errorMessage, done.2.compiler.backend.2,
        done.2.compiler.backend.1.resets⟩, done.2) := rfl

theorem views_cons (file : String × String) (files : List (String × String))
    (transformer : Transformer (Script × List Call)) :
    let first := (look file transformer).value
    (views (file :: files) transformer).value.1 = first.1 :: (views files first.2).value.1 :=
  congrArg Prod.fst (Action.value_mapM_cons look file files transformer)

theorem Twins.views {left right : Transformer (Script × List Call)}
    (twins : Twins left.compiler right.compiler) (flags : left.flags = right.flags)
    (files : List (String × String)) :
    (views files left).value.1 = (views files right).value.1 := by
  induction files generalizing left right with
  | nil => rfl
  | cons file files ih =>
      obtain ⟨answer, next, still⟩ := twins.transform flags file.1 file.2
      rw [views_cons, views_cons, look_value, look_value]
      dsimp only
      rw [answer, next.calls, next.resets, Compiler.errorMessage, next.failure]
      exact congrArg _ (ih next still)

/-- A transformer that has done nothing yet, with a script to play. -/
def playing (steps : List Step) (version : String) (directories : List String) (flags : String)
    (logDeclarations : Bool) : Transformer (Script × List Call) :=
  ⟨(Compiler.new (.new steps version) directories).withLog [], flags, logDeclarations⟩

/-- Descriptors do not show, and neither does whether declarations are reported: on scripts that
only differ in descriptors every file has the same answer, leaves the same error and makes the same
calls.  The answer is the file as it was, or the module that was generated for it if there is one. -/
theorem views_alike {steps others : List Step} (alike : List.Forall₂ Step.Alike steps others)
    (version flags : String) (directories : List String) (logs logsToo : Bool)
    (files : List (String × String)) :
    (views files (playing steps version directories flags logs)).value.1 =
      (views files (playing others version directories flags logsToo)).value.1 ∧
    ∀ {σ : Type} (backend : Backend σ) (transformer : Transformer σ) (filename contents : String),
      Fate backend transformer filename contents
        (transform backend filename contents transformer).value.1 := by
  constructor
  · have twins : Twins (playing steps version directories flags logs).compiler
        (playing others version directories flags logsToo).compiler :=
      ⟨alike, ⟨rfl, rfl⟩, rfl, rfl, rfl, rfl, rfl⟩
    exact twins.views rfl files
  · intro σ backend transformer filename contents
    exact fate_transform backend transformer filename contents

/-- A descriptor that is no JSON at all, in the place of an empty one. -/
theorem views_alike_garbled :
    let stored (descriptor : String) : List Step :=
      [.refuse "", .succeed (some "graph osc") (some descriptor), .succeed none (some descriptor)]
    let files := [("osc.dsp", ";"), ("osc.dsp", "process = _;"), ("osc.dsp", ""), ("a.txt", "")]
    List.Forall₂ Step.Alike (stored "\x7b\x7d") (stored "no descriptor") ∧
      (views files (playing (stored "\x7b\x7d") "2.70.3" [] "" true)).value.1 =
        (views files (playing (stored "no descriptor") "2.70.3" [] "" false)).value.1 := by
  intro stored files
  have alike : List.Forall₂ Step.Alike (stored "\x7b\x7d") (stored "no descriptor") :=
    .cons (.same _) (.cons (.descriptor _ _ _) (.cons (.descriptor _ _ _) .nil))
  exact ⟨alike, (views_alike alike "2.70.3" "" [] true false files).1⟩

end Transformer
end DspBridge
