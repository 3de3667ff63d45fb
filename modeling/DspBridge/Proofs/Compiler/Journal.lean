import DspBridge.Compiler.Basic
import DspBridge.Proofs.Log.Actions

/-!
# Compilations and what they ask

Jobs for a compiler, one after another, and the journal of all that its backend is asked and
answers meanwhile.  What one compilation makes of the answers of its backend is stated once, by
`produce_value` and `perform_value`; keeping a journal changes none of it.
-/

namespace DspBridge

/-- Something that a backend was asked, and what it answered. -/
inductive Exchange where
  | generate (name content command : String) (answer : Except Fault Bool)
  | read (path : String) (answer : Except Fault String)
  | lastError (answer : String)
  | reset
  | version (answer : String)
  deriving Repr

/-- What was asked. -/
def Exchange.call : Exchange → Call
  | .generate name content command _ => .generate name content command
  | .read path _ => .read path
  | .lastError _ => .lastError
  | .reset => .reset
  | .version _ => .version

namespace Backend

variable {σ α : Type}

/-- An action of a backend, with an exchange put at the end of the journal. -/
def note (exchange : α → Exchange) (action : Action σ α) : Action (σ × List Exchange) α :=
  fun (state, journal) =>
    let result := action state
    ⟨(result.value.1, (result.value.2, journal ++ [exchange result.value.1])), result.events⟩

/-- A backend that keeps a journal of its exchanges. -/
def journaled (backend : Backend σ) : Backend (σ × List Exchange) where
  generate name content command :=
    note (.generate name content command) (backend.generate name content command)
  read path := note (.read path) (backend.read path)
  lastError := note .lastError backend.lastError
  reset := note (fun _ => .reset) backend.reset
  version := note .version backend.version

end Backend

/-- What a compiler is asked to compile. -/
structure Job where
  name : String
  content : String
  flags : String
  deriving DecidableEq, Repr

namespace Compiler

variable {σ : Type} (backend : Backend σ)

/-- Compile a job. -/
def perform (job : Job) : Action (Compiler σ) (Except CompileError Output) :=
  compile backend job.name job.content job.flags

/-- Compile jobs one after another. -/
def performAll (jobs : List Job) : Action (Compiler σ) (List (Except CompileError Output)) :=
  jobs.mapM (perform backend)

@[simp] theorem performAll_nil (compiler : Compiler σ) :
    (performAll backend [] compiler).value = ([], compiler) := rfl

@[simp] theorem performAll_cons (job : Job) (jobs : List Job) (compiler : Compiler σ) :
    (performAll backend (job :: jobs) compiler).value =
      ((perform backend job compiler).value.1 ::
        (performAll backend jobs (perform backend job compiler).value.2).value.1,
        (performAll backend jobs (perform backend job compiler).value.2).value.2) :=
  Action.value_mapM_cons (perform backend) job jobs compiler

/-- A compiler whose backend keeps a log beside its state. -/
def withLog {κ : Type} (compiler : Compiler σ) (log : κ) : Compiler (σ × κ) :=
  ⟨(compiler.backend, log), compiler.includeDirs, compiler.failure⟩

/-- What is made of the answers to a unit and of those to the two files read after it. -/
theorem produce_value (name content command : String) (start : σ) :
    (produce backend name content command start).value =
      match (backend.generate name content command start).value with
      | (.error fault, next) => (.error fault, next)
      | (.ok false, next) => (.ok none, next)
      | (.ok true, next) =>
          match (backend.read (moduleName name) next).value with
          | (.error fault, next) => (.error fault, next)
          | (.ok translated, next) =>
              match (backend.read (descriptorName name) next).value with
              | (.error fault, next) => (.error fault, next)
              | (.ok descriptor, next) => (.ok (some ⟨translated, descriptor⟩), next) := by
  rw [produce, Action.value_bind]
  rcases (backend.generate name content command start).value with ⟨_ | (_ | _), next⟩
  · rfl
  · rfl
  · rw [Action.value_bind]
    dsimp only
    rcases (backend.read (moduleName name) next).value with ⟨_ | _, next⟩
    · rfl
    · rw [Action.value_bind]
      dsimp only
      rcases (backend.read (descriptorName name) next).value with ⟨_ | _, next⟩ <;> rfl

/-- The command that compiles a job. -/
def commandFor (directories : List String) (job : Job) : String :=
  commandText job.name job.flags directories

theorem perform_empty {job : Job} (empty : job.name = "") (compiler : Compiler σ) :
    (perform backend job compiler).value =
      (.error .emptyName, { compiler with failure := some .emptyName }) := by
  rw [perform, compile, empty]
  rfl

/-- What is made of the outcome of a unit that has a name. -/
theorem perform_value {job : Job} (named : job.name ≠ "") (compiler : Compiler σ) :
    (perform backend job compiler).value =
      match (produce backend job.name job.content (commandFor compiler.includeDirs job)
        compiler.backend).value with
      | (.ok (some output), next) => (.ok output, ⟨next, compiler.includeDirs, none⟩)
      | (.ok none, next) =>
          let (reported, next) := (backend.lastError next).value
          let error := CompileError.refused reported
          (.error error, ⟨next, compiler.includeDirs, some error⟩)
      | (.error fault, next) =>
          let (reported, next) := (backend.lastError next).value
          let error := CompileError.faulted fault reported
          (.error error, ⟨(backend.reset next).value.2, compiler.includeDirs, some error⟩) := by
  have notEmpty : job.name.isEmpty = false := by
    rw [Bool.eq_false_iff, ne_eq, String.isEmpty_iff]
    exact named
  rw [perform, compile]
  simp only [notEmpty, Bool.false_eq_true, if_false, Action.value_bind, Action.modify_apply,
    Action.get_apply, Action.report_apply, ask, Action.value_on, commandFor]
  rcases (produce backend job.name job.content
    (commandText job.name job.flags compiler.includeDirs) compiler.backend).value
    with ⟨fault | (_ | output), next⟩
  · rfl
  · rfl
  · rfl

theorem produce_eq_ok_iff {name content command : String} {start : σ} {output : Output} :
    (produce backend name content command start).value.1 = .ok (some output) ↔
      ∃ generated translated,
        (backend.generate name content command start).value = (.ok true, generated) ∧
        (backend.read (moduleName name) generated).value = (.ok output.translated, translated) ∧
        (backend.read (descriptorName name) translated).value.1 = .ok output.descriptor := by
  rw [produce_value]
  constructor
  · rcases (backend.generate name content command start).value with ⟨fault | (_ | _), generated⟩
    · exact nofun
    · exact nofun
    · dsimp only
      rcases reading : (backend.read (moduleName name) generated).value with
        ⟨fault | text, translated⟩
      · exact nofun
      · dsimp only
        rcases describing : (backend.read (descriptorName name) translated).value with
          ⟨fault | descriptor, next⟩
        · exact nofun
        · intro done
          cases done
          exact ⟨generated, translated, rfl, reading, by rw [describing]⟩
  · rintro ⟨generated, translated, started, reading, describing⟩
    rw [started]
    dsimp only
    rw [reading]
    dsimp only
    revert describing
    rcases (backend.read (descriptorName name) translated).value with ⟨answer, next⟩
    intro describing
    cases describing
    rfl

/-- A job succeeds just when its unit is translated and both of its files can be read. -/
theorem perform_eq_ok_iff {job : Job} {compiler : Compiler σ} {output : Output} :
    (perform backend job compiler).value.1 = .ok output ↔
      job.name ≠ "" ∧ (produce backend job.name job.content
        (commandFor compiler.includeDirs job) compiler.backend).value.1 = .ok (some output) := by
  by_cases named : job.name = ""
  · simp [perform_empty backend named, named]
  · rw [perform_value backend named]
    rcases (produce backend job.name job.content (commandFor compiler.includeDirs job)
      compiler.backend).value with ⟨fault | (_ | result), next⟩
    · simp
    · simp
    · simp [named]

theorem fail_reports {allowed : Event → Prop} {error : CompileError}
    (fails : allowed (.compileFailed error.message)) :
    (fail error : Action (Compiler σ) _).Reports allowed :=
  .bind (.report fails) fun _ => .of_silent fun _ => rfl

end Compiler
end DspBridge
