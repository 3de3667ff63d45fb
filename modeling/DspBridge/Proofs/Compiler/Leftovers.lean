import DspBridge.Proofs.Compiler.Scripts

/-!
# What a failed job leaves for the next one

A compiler that has been used is compared with a fresh one that has the same steps left to play.
A refused job is not followed by a reset, so its diagnostic stays with the backend, and it is
reported for any later fault that comes without a diagnostic of its own.  Nothing else that an
earlier job did can be seen in a result.
-/

namespace DspBridge

/-- A result as it is shown: the output, or the wording of the error. -/
def shown (result : Except CompileError Output) : Except String Output :=
  result.mapError CompileError.message

/-- The faults of a job that no step of the script raises: there is no step left, or the step stores
too few artifacts.  Such a fault comes without a diagnostic. -/
inductive Script.Unscripted (job : Job) : List Step → Fault → Prop where
  | exhausted : job.name ≠ "" → Unscripted job [] ⟨"no scripted step"⟩
  | noModule (descriptor : Option String) (rest : List Step) : job.name ≠ "" →
      Unscripted job (.succeed none descriptor :: rest) (missing (moduleName job.name))
  | noDescriptor (translated : String) (rest : List Step) : job.name ≠ "" →
      Unscripted job (.succeed (some translated) none :: rest) (missing (descriptorName job.name))

theorem Script.Unscripted.named {job : Job} {steps : List Step} {fault : Fault}
    (unscripted : Script.Unscripted job steps fault) : job.name ≠ "" := by
  cases unscripted <;> assumption

namespace Compiler

/-- A compiler that has done nothing yet, with the steps that are left to another. -/
def afresh (used : Compiler Script) : Compiler Script :=
  .new (.new used.backend.steps used.backend.version) used.includeDirs

variable {job : Job} {compiler : Compiler Script}

/-- A fault without a diagnostic is shown with the diagnostic that the backend still holds. -/
theorem shown_unscripted (usable : compiler.backend.poisoned = false) {fault : Fault}
    (unscripted : Script.Unscripted job compiler.backend.steps fault) :
    shown (perform Script.backend job compiler).value.1 =
      .error (if compiler.backend.lastError.isEmpty then fault.message
        else compiler.backend.lastError) := by
  have named := unscripted.named
  rw [perform_value _ named, Script.produce_script _ _ _ _ usable, Script.generate, usable]
  generalize compiler.backend.steps = steps at unscripted ⊢
  cases unscripted with
  | exhausted => rfl
  | noModule => rfl
  | noDescriptor => rfl

theorem shown_held {results : List (Except CompileError Output)}
    (after : Script.After results compiler.backend) {fault : Fault}
    (unscripted : Script.Unscripted job compiler.backend.steps fault) :
    shown (perform Script.backend job compiler).value.1 =
      .error (if (Script.held results).isEmpty then fault.message else Script.held results) := by
  rw [shown_unscripted after.usable unscripted, after.lastError]

/-- A fresh compiler holds no diagnostic. -/
theorem shown_afresh {fault : Fault}
    (unscripted : Script.Unscripted job compiler.backend.steps fault) :
    shown (perform Script.backend job compiler.afresh).value.1 = .error fault.message := by
  have untouched : compiler.afresh.backend.poisoned = false := rfl
  exact shown_unscripted untouched unscripted

/-- Any other result only depends on the steps that are left. -/
theorem result_scripted {other : Compiler Script} (usable : compiler.backend.poisoned = false)
    (usableToo : other.backend.poisoned = false)
    (same : other.backend.steps = compiler.backend.steps)
    (scripted : ∀ fault, ¬ Script.Unscripted job compiler.backend.steps fault) :
    (perform Script.backend job compiler).value.1 =
      (perform Script.backend job other).value.1 := by
  by_cases named : job.name = ""
  · rw [perform_empty _ named, perform_empty _ named]
  · rw [perform_value _ named, perform_value _ named, Script.produce_script _ _ _ _ usable,
      Script.produce_script _ _ _ _ usableToo, Script.generate, Script.generate, usable, usableToo,
      same]
    generalize compiler.backend.steps = steps at scripted ⊢
    cases steps with
    | nil => exact absurd (.exhausted named) (scripted _)
    | cons step rest =>
        cases step with
        | succeed translated descriptor =>
            cases translated with
            | none => exact absurd (.noModule descriptor rest named) (scripted _)
            | some translated =>
                cases descriptor with
                | none => exact absurd (.noDescriptor translated rest named) (scripted _)
                | some descriptor => rfl
        | refuse message => rfl
        | fault raised reported => rfl

/-- A used compiler differs from a fresh one in just one way.  For a fault that no step raises it
shows the diagnostic of the last refusal that no fault has followed, if there is one, where the
fresh compiler shows the fault itself. -/
theorem shown_afresh_iff (steps : List Step) (version : String) (directories : List String)
    (jobs : List Job) (next : Job) :
    let played := (performAll Script.backend jobs (.new (.new steps version) directories)).value
    let held := Script.held played.1
    let used := shown (perform Script.backend next played.2).value.1
    let fresh := shown (perform Script.backend next played.2.afresh).value.1
    (used = fresh ↔ ∀ fault, Script.Unscripted next played.2.backend.steps fault →
      held = "" ∨ held = fault.message) ∧
    (∀ fault, Script.Unscripted next played.2.backend.steps fault →
      used = .error (if held.isEmpty then fault.message else held) ∧
        fresh = .error fault.message) ∧
    (held ≠ "" → ∃ before later, played.1 = before ++ .error (.refused held) :: later ∧
      ∀ result ∈ later, Script.faulted result = false) := by
  intro played held used fresh
  have after := Script.after_performAll steps version directories jobs
  have told : ∀ fault, Script.Unscripted next played.2.backend.steps fault →
      used = .error (if held.isEmpty then fault.message else held) ∧
        fresh = .error fault.message :=
    fun fault unscripted => ⟨shown_held after unscripted, shown_afresh unscripted⟩
  refine ⟨?_, told, Script.refused_of_held⟩
  constructor
  · intro same fault unscripted
    obtain ⟨stale, own⟩ := told fault unscripted
    rw [stale, own] at same
    by_cases nothing : held = ""
    · exact .inl nothing
    · rw [if_neg (by rwa [String.isEmpty_iff])] at same
      exact .inr (Except.error.inj same)
  · intro harmless
    by_cases unscripted : ∃ fault, Script.Unscripted next played.2.backend.steps fault
    · obtain ⟨fault, unscripted⟩ := unscripted
      obtain ⟨stale, own⟩ := told fault unscripted
      rw [stale, own]
      rcases harmless fault unscripted with nothing | known
      · rw [nothing]
        rfl
      · rw [known, ite_self]
    · have scripted := not_exists.mp unscripted
      exact congrArg shown (result_scripted after.usable rfl rfl scripted)

/-- Used compilers are not like fresh ones: after a unit with an undefined symbol has been refused,
a unit without artifacts is shown as if it were the one with the undefined symbol. -/
theorem not_shown_afresh :
    ¬ ∀ (steps : List Step) (version : String) (directories : List String) (jobs : List Job)
      (next : Job),
      let played := (performAll Script.backend jobs (.new (.new steps version) directories)).value
      shown (perform Script.backend next played.2).value.1 =
        shown (perform Script.backend next played.2.afresh).value.1 := by
  intro same
  have alike : Except.error "first.dsp:1: undefined symbol: pi" =
      (Except.error "no such file: second.cmajor" : Except String Output) :=
    same [.refuse "first.dsp:1: undefined symbol: pi", .succeed none none] "2.70.3" []
      [⟨"first", "process = pi;", ""⟩] ⟨"second", "process = _;", ""⟩
  have equal : "first.dsp:1: undefined symbol: pi" = "no such file: second.cmajor" :=
    Except.error.inj alike
  exact absurd equal (by decide)

end Compiler
end DspBridge
