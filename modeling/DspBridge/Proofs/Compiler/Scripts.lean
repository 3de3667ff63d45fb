import DspBridge.Compiler.Scripted
import DspBridge.Proofs.Compiler.Journal
import Mathlib.Data.List.Induction

/-!
# Playing scripts

What a scripted backend makes of a unit, as long as it is not poisoned: the step that is played
decides the outcome, and reading the artifacts of that step leaves the script alone.  `After` is
what the results of a run of jobs tell about the script that was played.
-/

namespace DspBridge

theorem moduleName_ne_descriptorName (name : String) : moduleName name ≠ descriptorName name := by
  rw [moduleName, descriptorName, ne_eq, String.append_right_inj]
  decide

namespace Script

/-- The fault for a file that no step stored. -/
def missing (path : String) : Fault := ⟨s!"no such file: {path}"⟩

/-- What becomes of a unit whose turn it is to be translated. -/
def outcome (name : String) : List Step → Except Fault (Option Output)
  | [] => .error ⟨"no scripted step"⟩
  | .succeed none _ :: _ => .error (missing (moduleName name))
  | .succeed (some _) none :: _ => .error (missing (descriptorName name))
  | .succeed (some translated) (some descriptor) :: _ => .ok (some ⟨translated, descriptor⟩)
  | .refuse _ :: _ => .ok none
  | .fault raised _ :: _ => .error ⟨raised⟩

@[simp] theorem generate_value (name content command : String) (script : Script) :
    (backend.generate name content command script).value = script.generate name := rfl

@[simp] theorem read_value (path : String) (script : Script) :
    (backend.read path script).value = (script.read path, script) := rfl

@[simp] theorem lastError_value (script : Script) :
    (backend.lastError script).value = (script.lastError, script) := rfl

@[simp] theorem reset_value (script : Script) :
    (backend.reset script).value =
      ((), { script with resets := script.resets + 1, poisoned := false, lastError := "" }) := rfl

/-- Just the artifacts that a step stores can be read after it. -/
theorem produce_succeed (name content command : String) (script : Script)
    (usable : script.poisoned = false) {translated descriptor : Option String} {rest : List Step}
    (next : script.steps = .succeed translated descriptor :: rest) :
    (Compiler.produce backend name content command script).value =
      (outcome name script.steps, (script.generate name).2) := by
  have distinct := moduleName_ne_descriptorName name
  rw [Compiler.produce_value]
  cases translated with
  | none =>
      cases descriptor <;>
        simp [generate, usable, next, read, outcome, missing, List.lookup_cons,
          beq_false_of_ne distinct]
  | some text =>
      cases descriptor <;>
        simp [generate, usable, next, read, outcome, missing, List.lookup_cons,
          beq_false_of_ne distinct.symm]

/-- A unit is translated as its step says. -/
theorem produce_script (name content command : String) (script : Script)
    (usable : script.poisoned = false) :
    (Compiler.produce backend name content command script).value =
      (outcome name script.steps, (script.generate name).2) := by
  cases played : script.steps with
  | nil => simp [Compiler.produce_value, generate, usable, played, outcome]
  | cons step rest =>
      cases step with
      | succeed translated descriptor =>
          rw [← played]
          exact produce_succeed name content command script usable played
      | refuse message => simp [Compiler.produce_value, generate, usable, played, outcome]
      | fault raised reported => simp [Compiler.produce_value, generate, usable, played, outcome]

/-! ## Runs of jobs -/

/-- Whether a job ended in a fault of the backend. -/
def faulted : Except CompileError Output → Bool
  | .error (.faulted _ _) => true
  | _ => false

/-- The diagnostic that is left behind by a job, given the one that was there before it. -/
def leftBehind (before : String) : Except CompileError Output → String
  | .error (.refused reported) => reported
  | .error (.faulted _ _) => ""
  | _ => before

/-- The diagnostic that jobs with some results leave behind, empty if there is none. -/
def held (results : List (Except CompileError Output)) : String := results.foldl leftBehind ""

theorem held_concat (results : List (Except CompileError Output))
    (result : Except CompileError Output) :
    held (results ++ [result]) = leftBehind (held results) result := by
  rw [held, held, List.foldl_append, List.foldl_cons, List.foldl_nil]

/-- It is the diagnostic of a job that was refused, and no job has faulted since. -/
theorem refused_of_held {results : List (Except CompileError Output)} (kept : held results ≠ "") :
    ∃ before later, results = before ++ .error (.refused (held results)) :: later ∧
      ∀ result ∈ later, faulted result = false := by
  induction results using List.reverseRecOn with
  | nil => exact absurd rfl kept
  | append_singleton results result ih =>
      rw [held_concat] at kept ⊢
      have unchanged : leftBehind (held results) result = held results → faulted result = false →
          ∃ before later, results ++ [result] =
              before ++ .error (.refused (leftBehind (held results) result)) :: later ∧
            ∀ result ∈ later, faulted result = false := by
        intro same calm
        rw [same] at kept ⊢
        obtain ⟨before, later, cut, none⟩ := ih kept
        refine ⟨before, later ++ [result], ?_, ?_⟩
        · rw [← List.cons_append, ← List.append_assoc, ← cut]
        · intro other member
          rcases List.mem_append.mp member with member | member
          · exact none other member
          · rw [List.mem_singleton.mp member]
            exact calm
      cases result with
      | ok output => exact unchanged rfl rfl
      | error error =>
          cases error with
          | emptyName => exact unchanged rfl rfl
          | refused reported => exact ⟨results, [], rfl, fun _ member => nomatch member⟩
          | faulted fault reported => exact absurd rfl kept

/-- The state of a script after jobs with some results. -/
structure After (results : List (Except CompileError Output)) (script : Script) : Prop where
  usable : script.poisoned = false
  resets : script.resets = results.countP faulted
  lastError : script.lastError = held results

theorem after_new (steps : List Step) (version : String) : After [] (new steps version) :=
  ⟨rfl, rfl, rfl⟩

/-- What is told by one more result. -/
theorem After.concat {results : List (Except CompileError Output)} {script next : Script}
    (after : After results script) {result : Except CompileError Output}
    (usable : next.poisoned = false)
    (resets : next.resets = script.resets + [result].countP faulted)
    (lastError : next.lastError = leftBehind script.lastError result) :
    After (results ++ [result]) next := by
  refine ⟨usable, ?_, ?_⟩
  · rw [resets, after.resets, List.countP_append]
  · rw [lastError, after.lastError, held_concat]

theorem After.perform {results : List (Except CompileError Output)} {compiler : Compiler Script}
    (after : After results compiler.backend) (job : Job) :
    After (results ++ [(Compiler.perform backend job compiler).value.1])
      (Compiler.perform backend job compiler).value.2.backend := by
  by_cases named : job.name = ""
  · rw [Compiler.perform_empty backend named]
    exact after.concat after.usable rfl rfl
  · rw [Compiler.perform_value backend named, produce_script _ _ _ _ after.usable]
    obtain ⟨⟨steps, version, files, lastError, poisoned, resets⟩, directories, failure⟩ := compiler
    have usable : poisoned = false := after.usable
    cases usable
    cases steps with
    | nil => exact after.concat rfl rfl rfl
    | cons step rest =>
        cases step with
        | succeed translated descriptor =>
            cases translated with
            | none => exact after.concat rfl rfl rfl
            | some translated => cases descriptor <;> exact after.concat rfl rfl rfl
        | refuse message => exact after.concat rfl rfl rfl
        | fault raised reported => exact after.concat rfl rfl rfl

theorem After.performAll {results : List (Except CompileError Output)} {compiler : Compiler Script}
    (after : After results compiler.backend) (jobs : List Job) :
    After (results ++ (Compiler.performAll backend jobs compiler).value.1)
      (Compiler.performAll backend jobs compiler).value.2.backend := by
  induction jobs generalizing results compiler with
  | nil =>
      rw [Compiler.performAll_nil, List.append_nil]
      exact after
  | cons job jobs ih =>
      have rest := ih (after.perform job)
      rw [List.append_assoc] at rest
      rw [Compiler.performAll_cons]
      exact rest

/-- A script is never left poisoned, and its results tell how often it was reset. -/
theorem after_performAll (steps : List Step) (version : String) (directories : List String)
    (jobs : List Job) :
    let played := (Compiler.performAll backend jobs (.new (new steps version) directories)).value
    After played.1 played.2.backend := by
  have fresh : After [] (Compiler.new (new steps version) directories).backend :=
    after_new steps version
  exact fresh.performAll jobs

end Script
end DspBridge
