import DspBridge.Proofs.Compiler.Freshness

/-!
# What becomes of a job

The backend of a compiler program keeps the diagnostic of a refused unit until a unit is translated
or the backend is reset.  Every step of a unit is sorted here by what it does to that diagnostic,
and every job by what it ends in: a fault is reported with the diagnostic that is held when it is
raised.
-/

namespace DspBridge

open Files (Folder)

namespace Scratch

/-! ## Steps that leave the diagnostic alone -/

/-- A step of a unit that leaves the diagnostic alone, whether it faults or not. -/
def Keeps {α : Type} (step : Attempt α) : Prop :=
  ∀ scratch, (step.run scratch).value.2.lastError = scratch.lastError

section Keeps

variable {α β : Type}

theorem keeps_pure (value : α) : Keeps (pure value) := fun _ => rfl

theorem keeps_fault (raised : ScratchFault) : Keeps (fault raised : Attempt α) := fun _ => rfl

theorem keeps_get : Keeps (getThe Scratch) := fun _ => rfl

theorem keeps_folder (folder : Option Folder) :
    Keeps (change fun scratch => { scratch with folder }) := fun _ => rfl

theorem Keeps.bind {first : Attempt α} {second : α → Attempt β} (keeps : Keeps first)
    (keepsToo : ∀ value, Keeps (second value)) : Keeps (first >>= second) := by
  intro scratch
  have kept := keeps scratch
  rcases ran : (first.run scratch).value with ⟨raised | value, next⟩
  · rw [ran] at kept
    rw [value_bind_error second ran]
    exact kept
  · rw [ran] at kept
    rw [value_bind_ok second ran]
    exact (keepsToo value next).trans kept

theorem keeps_resolved (path : String) : Keeps (resolved path) := by
  rw [resolved]
  cases resolve path with
  | ok names => exact keeps_pure names
  | error raised => exact keeps_fault raised

theorem keeps_writeSource (name content : String) : Keeps (writeSource name content) := by
  rw [writeSource]
  apply (keeps_resolved _).bind
  intro names
  apply keeps_get.bind
  intro scratch
  dsimp only
  split
  · exact keeps_fault _
  · exact keeps_fault _
  · next folder _ _ =>
      apply (keeps_folder _).bind
      intro _
      cases (folder.makeFolders [] names.dropLast).1 with
      | error error => exact keeps_fault _
      | ok =>
          dsimp only
          split
          · exact keeps_fault _
          · exact keeps_folder _

theorem keeps_settle (name : String) : Keeps (settle name) := by
  rw [settle]
  apply (keeps_resolved _).bind
  intro _
  apply keeps_get.bind
  intro scratch
  cases scratch.folder with
  | none => exact keeps_pure _
  | some folder =>
      dsimp only
      split
      · apply (keeps_resolved _).bind
        intro _
        split
        · exact keeps_fault _
        · exact keeps_folder _
      · exact keeps_pure _

end Keeps

theorem keeps_clear : Keeps (ExceptT.lift clear) := by
  intro scratch
  rw [run_lift]
  exact clear_lastError scratch

/-! ## Units -/

/-- The text of what a program writes about a unit that it refuses. -/
def diagnosis (run : Run) : String := Text.trim (Text.Utf8.decodeLossy run.diagnostics)

/-- The diagnostic that is held after a unit, given the one held before it. -/
inductive Diagnosed (program : Program) (name command before : String) :
    Except ScratchFault Bool → String → Prop where
  | faulted (raised : ScratchFault) : Diagnosed program name command before (.error raised) before
  | translated : Diagnosed program name command before (.ok true) ""
  | refused {folder : Folder} {run : Run} :
      program.start (commandArguments command name) folder = .ok run → run.succeeded = false →
      Diagnosed program name command before (.ok false) (diagnosis run)

section Units

variable {α : Type} (program : Program) (name command : String)

/-- A step that ends a unit, whatever it finds: this is the diagnostic that it leaves. -/
def Diagnoses (step : Attempt Bool) : Prop :=
  ∀ scratch, Diagnosed program name command scratch.lastError (step.run scratch).value.1
    (step.run scratch).value.2.lastError

variable {program name command}

theorem diagnoses_fault (raised : ScratchFault) : Diagnoses program name command (fault raised) :=
  fun _ => .faulted raised

theorem diagnoses_translated :
    Diagnoses program name command (do
      change fun scratch => { scratch with lastError := "" }
      pure true) :=
  fun _ => .translated

theorem Keeps.diagnoses {first : Attempt α} {second : α → Attempt Bool} (keeps : Keeps first)
    (diagnoses : ∀ value, Diagnoses program name command (second value)) :
    Diagnoses program name command (first >>= second) := by
  intro scratch
  have kept := keeps scratch
  rcases ran : (first.run scratch).value with ⟨raised | value, next⟩
  · rw [ran] at kept
    rw [value_bind_error second ran, ← kept]
    exact .faulted raised
  · rw [ran] at kept
    rw [value_bind_ok second ran, ← kept]
    exact diagnoses value next

/-- A program that refuses a unit leaves its diagnostic. -/
theorem diagnoses_execute {rest : Attempt Bool} (diagnoses : Diagnoses program name command rest) :
    Diagnoses program name command (do
      if ← execute program name command then rest else pure false) := by
  intro scratch
  cases started : program.start (commandArguments command name)
    (scratch.folder.getD Folder.empty) with
  | error error =>
      rw [value_bind_error _ (congrArg Traced.value (execute_error scratch started))]
      exact .faulted _
  | ok run =>
      cases succeeded : run.succeeded with
      | true =>
          rw [value_bind_ok _ (congrArg Traced.value (execute_succeeded scratch started succeeded))]
          exact diagnoses { scratch with folder := run.folder }
      | false =>
          rw [value_bind_ok _ (congrArg Traced.value (execute_refused scratch started succeeded))]
          exact .refused started succeeded

theorem diagnoses_generate (content : String) :
    Diagnoses program name command (generate program name content command) := by
  rw [generate]
  apply keeps_clear.diagnoses
  intro cleared
  cases cleared with
  | error error => exact diagnoses_fault _
  | ok =>
      apply (keeps_writeSource name content).diagnoses
      intro _
      apply diagnoses_execute
      apply (keeps_settle name).diagnoses
      intro _
      exact diagnoses_translated

end Units

/-! ## Jobs -/

/-- Where in a job a fault is raised. -/
inductive Stage where
  /-- While the unit is translated: the directory cannot be cleared, the source has no place in it
  or cannot be written, the program cannot be started, or the descriptor cannot be renamed. -/
  | translating
  /-- While the files of the unit are read: one of them is missing or is not text. -/
  | reading
  deriving DecidableEq, Repr

/-- The diagnostic that is held when a fault is raised, given the one held before the job. -/
def Stage.held (before : String) : Stage → String
  | .translating => before
  | .reading => ""

/-- A job has a name, and the backend answers to its unit and is left in a state. -/
def Generates (program : Program) (job : Job) (compiler : Compiler Scratch)
    (answer : Except ScratchFault Bool) (next : Scratch) : Prop :=
  job.name ≠ "" ∧
    ((generate program job.name job.content (Compiler.commandFor compiler.includeDirs job)).run
      compiler.backend).value = (answer, next)

/-- The fault that a job raises, and where it does. -/
inductive Raises (program : Program) (job : Job) (compiler : Compiler Scratch) :
    Stage → ScratchFault → Prop where
  | translating {raised : ScratchFault} {next : Scratch} :
      Generates program job compiler (.error raised) next →
      Raises program job compiler .translating raised
  | readingModule {raised : ScratchFault} {next : Scratch} :
      Generates program job compiler (.ok true) next →
      next.read (moduleName job.name) = .error raised →
      Raises program job compiler .reading raised
  | readingDescriptor {raised : ScratchFault} {next : Scratch} {translated : String} :
      Generates program job compiler (.ok true) next →
      next.read (moduleName job.name) = .ok translated →
      next.read (descriptorName job.name) = .error raised →
      Raises program job compiler .reading raised

/-- What becomes of a job: its result, and the diagnostic that is held after it. -/
inductive Outcome (program : Program) (job : Job) (compiler : Compiler Scratch) :
    Except CompileError Output → String → Prop where
  | unnamed : job.name = "" →
      Outcome program job compiler (.error .emptyName) compiler.backend.lastError
  | refused {next : Scratch} {arguments : List String} {folder : Folder} {run : Run} :
      Generates program job compiler (.ok false) next →
      program.start arguments folder = .ok run → run.succeeded = false →
      Outcome program job compiler (.error (.refused (diagnosis run))) (diagnosis run)
  | faulted {stage : Stage} {raised : ScratchFault} : Raises program job compiler stage raised →
      Outcome program job compiler
        (.error (.faulted raised.toFault (stage.held compiler.backend.lastError))) ""
  | compiled {next : Scratch} {output : Output} :
      Generates program job compiler (.ok true) next →
      next.read (moduleName job.name) = .ok output.translated →
      next.read (descriptorName job.name) = .ok output.descriptor →
      Outcome program job compiler (.ok output) ""

section Jobs

variable {program : Program} {job : Job} {compiler : Compiler Scratch} {next : Scratch}

theorem Generates.ways {answer : Except ScratchFault Bool}
    (generates : Generates program job compiler answer next) :
    (∃ error, answer = .error (.notCleared error)) ∨
      ∃ ground remains events, Generation program ground job.name job.content
        (Compiler.commandFor compiler.includeDirs job) answer remains events := by
  have answered := generates.2
  rcases generate_ways program job.name job.content
    (Compiler.commandFor compiler.includeDirs job) compiler.backend with
    ⟨error, next, stopped⟩ | ⟨ground, -, generation⟩
  · rw [stopped] at answered
    exact .inl ⟨error, (Prod.mk.inj answered).1.symm⟩
  · rw [answered] at generation
    exact .inr ⟨ground, _, _, generation⟩

theorem outcome_refused {arguments : List String} {folder : Folder} {run : Run}
    (generates : Generates program job compiler (.ok false) next)
    (started : program.start arguments folder = .ok run) (succeeded : run.succeeded = false)
    (held : next.lastError = diagnosis run) :
    Outcome program job compiler (.error (.refused next.lastError)) next.lastError := by
  rw [held]
  exact .refused generates started succeeded

/-- A fault is reported with the diagnostic that is held when it is raised. -/
theorem outcome_faulted {stage : Stage} {raised : ScratchFault}
    (raises : Raises program job compiler stage raised)
    (held : next.lastError = stage.held compiler.backend.lastError) :
    Outcome program job compiler (.error (.faulted raised.toFault next.lastError))
      ((backend program).reset next).value.2.lastError := by
  rw [reset_lastError, held]
  exact .faulted raises

theorem outcome_compiled {translated descriptor : String}
    (generates : Generates program job compiler (.ok true) next)
    (readModule : next.read (moduleName job.name) = .ok translated)
    (readDescriptor : next.read (descriptorName job.name) = .ok descriptor)
    (held : next.lastError = "") :
    Outcome program job compiler (.ok ⟨translated, descriptor⟩) next.lastError := by
  rw [held]
  exact .compiled generates readModule readDescriptor

theorem perform_outcome (program : Program) (job : Job) (compiler : Compiler Scratch) :
    let done := (Compiler.perform (backend program) job compiler).value
    Outcome program job compiler done.1 done.2.backend.lastError := by
  by_cases named : job.name = ""
  · rw [Compiler.perform_empty _ named]
    exact .unnamed named
  have diagnoses : Diagnoses program job.name (Compiler.commandFor compiler.includeDirs job)
      (generate program job.name job.content (Compiler.commandFor compiler.includeDirs job)) :=
    diagnoses_generate job.content
  have diagnosed := diagnoses compiler.backend
  rw [Compiler.perform_value _ named, Compiler.produce_value]
  simp only [backend_generate_value, backend_read_value]
  rcases generated : ((generate program job.name job.content
    (Compiler.commandFor compiler.includeDirs job)).run compiler.backend).value
    with ⟨raised | (_ | _), next⟩
  all_goals
    have generates := And.intro named generated
    rw [generated] at diagnosed
    dsimp only at diagnosed
    generalize held : next.lastError = reported at diagnosed
  · cases diagnosed with
    | faulted => exact outcome_faulted (.translating generates) held
  · cases diagnosed with
    | refused started succeeded => exact outcome_refused generates started succeeded held
  · cases diagnosed with
    | translated =>
        dsimp only [Except.mapError]
        cases readModule : next.read (moduleName job.name) with
        | error raised => exact outcome_faulted (.readingModule generates readModule) held
        | ok translated =>
            dsimp only
            cases readDescriptor : next.read (descriptorName job.name) with
            | error raised =>
                exact outcome_faulted (.readingDescriptor generates readModule readDescriptor) held
            | ok descriptor => exact outcome_compiled generates readModule readDescriptor held

section Faults

variable {stage other : Stage} {raised another : ScratchFault}

theorem Raises.named (raises : Raises program job compiler stage raised) : job.name ≠ "" := by
  cases raises with
  | translating generates => exact generates.1
  | readingModule generates => exact generates.1
  | readingDescriptor generates => exact generates.1

/-- A job raises one fault. -/
theorem Raises.unique (first : Raises program job compiler stage raised)
    (second : Raises program job compiler other another) : stage = other ∧ raised = another := by
  cases first with
  | translating generates => cases second <;> simp_all [Generates]
  | readingModule generates unread => cases second <;> simp_all [Generates]
  | readingDescriptor generates read unread => cases second <;> simp_all [Generates]

/-- A job that raises a fault is neither refused nor compiled. -/
theorem Raises.outcome {result : Except CompileError Output} {after : String}
    (raises : Raises program job compiler stage raised)
    (outcome : Outcome program job compiler result after) :
    result = .error (.faulted raised.toFault (stage.held compiler.backend.lastError)) := by
  cases outcome with
  | unnamed unnamed => exact absurd unnamed raises.named
  | refused generates => cases raises <;> simp_all [Generates]
  | faulted other =>
      obtain ⟨rfl, rfl⟩ := raises.unique other
      rfl
  | compiled generates readModule readDescriptor => cases raises <;> simp_all [Generates]

theorem generates_not_notRead {path : String} {error : Files.FileError}
    (generates : Generates program job compiler (.error raised) next) :
    raised ≠ .notRead path error := by
  rcases generates.ways with ⟨cause, stuck⟩ | ⟨ground, remains, events, generation⟩
  · cases stuck
    exact nofun
  · cases generation <;> exact nofun

/-- The files of a unit that is translated have their places in the directory. -/
theorem generates_below {suffix : String}
    (generates : Generates program job compiler (.ok true) next) (ending : Files.Ending suffix) :
    ∃ names, Files.below? (job.name ++ suffix) = some names := by
  rcases generates.ways with ⟨cause, stuck⟩ | ⟨ground, remains, events, generation⟩
  · cases stuck
  · cases generation with
    | generated below =>
        obtain ⟨parents, last, -, beside⟩ := names_of_below? below
        exact ⟨_, beside suffix ending⟩

/-- Just the faults that say so are raised while files are read. -/
theorem Raises.reading_iff (raises : Raises program job compiler stage raised) :
    stage = .reading ↔ ∃ path error, raised = .notRead path error := by
  cases raises with
  | translating generates =>
      constructor
      · exact nofun
      · rintro ⟨path, error, rfl⟩
        exact absurd rfl (generates_not_notRead generates)
  | readingModule generates unread =>
      obtain ⟨names, below⟩ := generates_below generates moduleSuffix_ending
      obtain ⟨error, rfl⟩ := notRead_of_read below unread
      exact ⟨fun _ => ⟨_, error, rfl⟩, fun _ => rfl⟩
  | readingDescriptor generates _ unread =>
      obtain ⟨names, below⟩ := generates_below generates descriptorSuffix_ending
      obtain ⟨error, rfl⟩ := notRead_of_read below unread
      exact ⟨fun _ => ⟨_, error, rfl⟩, fun _ => rfl⟩

end Faults

end Jobs

end Scratch
end DspBridge
