import DspBridge.Proofs.Compiler.Diagnostics

/-!
# What a reset renews

A reset forgets the diagnostic and clears the scratch directory as far as this can be done, but it
does not make the directory again.  A backend is therefore as good as new after a reset just when
all that its directory held could be removed, and the directory itself stands as if it had just been
made.  A program that deletes the directory, or leaves something in it that cannot be removed, spoils
the backend: from then on no unit gets as far as its source, however often the backend is reset.
-/

namespace DspBridge

open Files (FileError Folder Limits)

namespace Scratch

/-! ## What a job leaves -/

/-- What the unit of a job leaves when the job has its turn.  A job without a name has no unit. -/
def Turn.leaves (directories : List String) (turn : Turn) (scratch : Scratch) : Scratch :=
  if turn.job.name = "" then scratch
  else ((generate turn.program turn.job.name turn.job.content
    (Compiler.commandFor directories turn.job)).run scratch).value.2

/-- The directory could be cleared before a job had its turn, and what the unit of the job leaves
cannot. -/
structure Turn.Spoils (directories : List String) (turn : Turn) (scratch : Scratch) : Prop where
  before : scratch.Clearable
  after : ¬ (turn.leaves directories scratch).Clearable

/-! ## Resets -/

section Resets

variable {scratch : Scratch} {ground : Ground}

theorem clears_forget_iff :
    ({ scratch with lastError := "" } : Scratch).Clears ground ↔ scratch.Clears ground := by
  constructor <;> rintro ⟨stands, own, clearable, limits⟩ <;>
    exact .directory stands own clearable limits

theorem clearable_forget_iff :
    ({ scratch with lastError := "" } : Scratch).Clearable ↔ scratch.Clearable :=
  exists_congr fun _ => clears_forget_iff

theorem reset_clearable_iff (program : Program) :
    ((backend program).reset scratch).value.2.Clearable ↔ scratch.Clearable := by
  rw [reset_value, clearable_clear_iff, clearable_forget_iff]

theorem reset_of_clears (program : Program) (clears : scratch.Clears ground) :
    ((backend program).reset scratch).value.2 = ground.cleared "" := by
  rw [reset_value, clear_of_clears (clears_forget_iff.mpr clears)]

/-- A backend is as good as new after a reset if all that its directory held can be removed and the
directory itself stands as if it had just been made. -/
theorem reset_eq_new_iff (program : Program) (limits : Limits) :
    ((backend program).reset scratch).value.2 = new limits ↔ scratch.Clears (.fresh limits) := by
  constructor
  · intro renewed
    have clearable : scratch.Clearable := by
      rw [← reset_clearable_iff program, renewed]
      exact ⟨_, clears_new limits⟩
    obtain ⟨⟨standing, before⟩, clears⟩ := clearable
    rw [reset_of_clears program clears] at renewed
    cases renewed
    exact clears
  · intro clears
    rw [reset_of_clears program clears, new_eq_cleared]

end Resets

/-! ## One job -/

section Jobs

variable (directories : List String) (turn : Turn)

/-- In a directory that cannot be cleared, no unit leaves one that can. -/
theorem leaves_clearable_iff (scratch : Scratch) :
    (turn.leaves directories scratch).Clearable ↔
      scratch.Clearable ∧ ¬ turn.Spoils directories scratch := by
  constructor
  · intro clearable
    refine ⟨?_, fun spoils => spoils.after clearable⟩
    by_contra stuck
    rw [Turn.leaves] at clearable
    split at clearable
    · exact stuck clearable
    · obtain ⟨error, next, -, still, stopped⟩ := generate_stuck turn.program turn.job.name
        turn.job.content (Compiler.commandFor directories turn.job) stuck
      rw [stopped] at clearable
      exact still clearable
  · rintro ⟨before, unspoilt⟩
    by_contra after
    exact unspoilt ⟨before, after⟩

theorem leaves_limits (scratch : Scratch) :
    (turn.leaves directories scratch).limits = scratch.limits := by
  rw [Turn.leaves]
  split
  · rfl
  · by_cases clearable : scratch.Clearable
    · obtain ⟨ground, clears⟩ := clearable
      obtain ⟨-, -, -, limits⟩ := id clears
      rw [generate_limits _ _ _ _ clears, limits]
    · obtain ⟨error, next, stopped, -, ended⟩ := generate_stuck turn.program turn.job.name
        turn.job.content (Compiler.commandFor directories turn.job) clearable
      have limits := clear_limits scratch
      rw [stopped] at limits
      rw [ended]
      exact limits

end Jobs

section Performing

variable (turn : Turn) (compiler : Compiler Scratch)

/-- Behind its unit a job does nothing to the backend, unless it ends in a fault: then it resets
it. -/
theorem perform_backend :
    let done := (Compiler.perform (backend turn.program) turn.job compiler).value
    let left := turn.leaves compiler.includeDirs compiler.backend
    done.2.backend = match done.1 with
      | .error (.faulted _ _) => ((backend turn.program).reset left).value.2
      | _ => left := by
  dsimp only
  by_cases named : turn.job.name = ""
  · rw [Compiler.perform_empty _ named, Turn.leaves, if_pos named]
  · rw [Compiler.perform_value _ named, Compiler.produce_value, Turn.leaves, if_neg named]
    simp only [backend_generate_value, backend_read_value]
    rcases ((generate turn.program turn.job.name turn.job.content
      (Compiler.commandFor compiler.includeDirs turn.job)).run compiler.backend).value
      with ⟨raised | (_ | _), next⟩
    · rfl
    · rfl
    · dsimp only [Except.mapError]
      cases next.read (moduleName turn.job.name) with
      | error raised => rfl
      | ok translated =>
          dsimp only
          cases next.read (descriptorName turn.job.name) with
          | error raised => rfl
          | ok descriptor => rfl

theorem perform_includeDirs {σ : Type} (backend : Backend σ) (job : Job) (compiler : Compiler σ) :
    (Compiler.perform backend job compiler).value.2.includeDirs = compiler.includeDirs := by
  by_cases named : job.name = ""
  · rw [Compiler.perform_empty _ named]
  · rw [Compiler.perform_value _ named]
    split <;> rfl

/-- Of all that a job does, only its unit can spoil the backend. -/
theorem perform_clearable_iff :
    (Compiler.perform (backend turn.program) turn.job compiler).value.2.backend.Clearable ↔
      (turn.leaves compiler.includeDirs compiler.backend).Clearable := by
  rw [perform_backend]
  split
  · exact reset_clearable_iff turn.program
  · rfl

theorem perform_limits :
    (Compiler.perform (backend turn.program) turn.job compiler).value.2.backend.limits =
      compiler.backend.limits := by
  rw [perform_backend]
  split
  · rw [reset_value, clear_limits, leaves_limits]
  · exact leaves_limits _ _ _

end Performing

/-! ## Rows of jobs -/

theorem performEach_includeDirs (turns : List Turn) (compiler : Compiler Scratch) :
    (performEach turns compiler).value.2.includeDirs = compiler.includeDirs := by
  induction turns generalizing compiler with
  | nil => rfl
  | cons turn turns ih =>
      rw [performEach_cons]
      exact (ih _).trans (perform_includeDirs _ _ _)

theorem performEach_limits (turns : List Turn) (compiler : Compiler Scratch) :
    (performEach turns compiler).value.2.backend.limits = compiler.backend.limits := by
  induction turns generalizing compiler with
  | nil => rfl
  | cons turn turns ih =>
      rw [performEach_cons]
      exact (ih _).trans (perform_limits _ _)

/-- One of the jobs in a row has spoiled the backend when it had its turn. -/
def Spoiled (turns : List Turn) (compiler : Compiler Scratch) : Prop :=
  ∃ before turn behind, turns = before ++ turn :: behind ∧
    turn.Spoils compiler.includeDirs (performEach before compiler).value.2.backend

theorem spoiled_cons_iff (turn : Turn) (turns : List Turn) (compiler : Compiler Scratch) :
    Spoiled (turn :: turns) compiler ↔
      turn.Spoils compiler.includeDirs compiler.backend ∨
        Spoiled turns (Compiler.perform (backend turn.program) turn.job compiler).value.2 := by
  simp only [Spoiled, perform_includeDirs]
  constructor
  · rintro ⟨before, spoiler, behind, split, spoils⟩
    cases before with
    | nil =>
        obtain ⟨rfl, rfl⟩ := List.cons.inj split
        exact .inl spoils
    | cons first before =>
        obtain ⟨rfl, rfl⟩ := List.cons.inj split
        rw [performEach_cons] at spoils
        exact .inr ⟨before, spoiler, behind, rfl, spoils⟩
  · rintro (spoils | ⟨before, spoiler, behind, rfl, spoils⟩)
    · exact ⟨[], turn, turns, rfl, spoils⟩
    · refine ⟨turn :: before, spoiler, behind, rfl, ?_⟩
      rw [performEach_cons]
      exact spoils

/-- A directory that can be cleared stays such a one until a job spoils the backend, and is never
such a one again. -/
theorem performEach_clearable_iff (turns : List Turn) (compiler : Compiler Scratch) :
    (performEach turns compiler).value.2.backend.Clearable ↔
      compiler.backend.Clearable ∧ ¬ Spoiled turns compiler := by
  induction turns generalizing compiler with
  | nil => simp [Spoiled]
  | cons turn turns ih =>
      rw [performEach_cons]
      dsimp only
      rw [ih, perform_clearable_iff, leaves_clearable_iff, spoiled_cons_iff, not_or, and_assoc]

/-- After any row of jobs a reset forgets the diagnostic, and makes the backend as good as new just
when all that its directory holds can be removed and the directory itself stands as if it had just
been made.  A job that ends in a fault ends with such a reset of what its unit has left.  The
directory can be cleared just when no job has spoiled the backend.  A unit that leaves no directory
always spoils it; a unit that leaves a directory in which nothing is refused, and which is not nested
too deep, never does.  Once a job has spoiled the backend, every later unit of every program ends in
the same fault and changes nothing. -/
theorem reset_renews_iff (turns : List Turn) (limits : Limits) (directories : List String)
    (next : Turn) :
    let used := (performEach turns (.new (.new limits) directories)).value.2
    let last := (Compiler.perform (backend next.program) next.job used).value
    let left := next.leaves directories used.backend
    (used.backend.Clearable ↔ ¬ Spoiled turns (.new (.new limits) directories)) ∧
    (∀ program, let renewed := ((backend program).reset used.backend).value.2
      renewed.lastError = "" ∧ (renewed = new limits ↔ used.backend.Clears (.fresh limits))) ∧
    (∀ fault reported, last.1 = .error (.faulted fault reported) →
      last.2.backend.lastError = "" ∧
        (last.2.backend = new limits ↔ left.Clears (.fresh limits))) ∧
    (∀ program name content command,
      (∃ error, ((generate program name content command).run last.2.backend).value.1 =
        .error (.notCleared error)) ↔ ¬ left.Clearable) ∧
    (¬ left.Clearable → ∃ error stuck, ∀ program name content command,
      (generate program name content command).run last.2.backend =
        ⟨(.error (.notCleared error), stuck), []⟩ ∧
      (generate program name content command).run stuck =
        ⟨(.error (.notCleared error), stuck), []⟩) ∧
    (left.folder = none → ¬ left.Clearable) ∧
    (∀ tree, left.folder = some tree → tree.own = .folder → tree.Plain (limits.nesting + 1) →
      left.Clears (.fresh limits)) := by
  intro used last left
  have sameDirectories : used.includeDirs = directories := performEach_includeDirs _ _
  have leaves : next.leaves used.includeDirs used.backend = left := by rw [sameDirectories]
  have lastClearable : last.2.backend.Clearable ↔ left.Clearable := by
    rw [← leaves]
    exact perform_clearable_iff next used
  refine ⟨?_, ?_, ?_, ?_, ?_, not_clearable_of_gone, ?_⟩
  · have kept := performEach_clearable_iff turns (.new (.new limits) directories)
    exact kept.trans (and_iff_right ⟨_, clears_new limits⟩)
  · intro program
    exact ⟨reset_lastError program used.backend, reset_eq_new_iff program limits⟩
  · intro fault reported faulted
    have reset := perform_backend next used
    dsimp only at reset
    rw [faulted, leaves] at reset
    dsimp only at reset
    rw [reset]
    exact ⟨reset_lastError next.program left, reset_eq_new_iff next.program limits⟩
  · intro program name content command
    rw [← lastClearable, generate_notCleared_iff]
  · intro stuck
    rw [← lastClearable] at stuck
    obtain ⟨error, next, stopped, again⟩ := clear_of_not_clearable stuck
    refine ⟨error, next, fun program name content command => ⟨?_, ?_⟩⟩
    · exact generate_of_uncleared program name content command stopped
    · exact generate_of_uncleared program name content command again
  · intro tree stands own plain
    have sameLimits : left.limits = limits :=
      (leaves_limits _ _ _).trans (performEach_limits _ _)
    refine .directory stands own ?_ sameLimits
    exact Folder.clearable_of_plain own .default plain

/-- A program that deletes the directory in which it is started. -/
def eraser : Program := ⟨"faust", fun _ _ => .ok ⟨none, true, [], []⟩⟩

/-- A backend is not always as good as new after a reset, and a unit can fault because the directory
cannot be cleared although the fault of the unit before has been followed by a reset. -/
theorem not_reset_renews :
    (¬ ∀ (turns : List Turn) (directories : List String) (program : Program),
      let used := (performEach turns (.new .new directories)).value.2
      ((backend program).reset used.backend).value.2 = new) ∧
    ¬ ∀ (turns : List Turn) (directories : List String) (next : Turn) (fault : Fault)
      (reported : String),
      let used := (performEach turns (.new .new directories)).value.2
      let last := (Compiler.perform (backend next.program) next.job used).value
      last.1 = .error (.faulted fault reported) →
        ∀ program name content command error,
          ((generate program name content command).run last.2.backend).value.1 ≠
            .error (.notCleared error) := by
  constructor
  · intro renews
    have renewed : (⟨none, "", {}⟩ : Scratch) = new :=
      renews [⟨eraser, ⟨"first", "process = _;", ""⟩⟩] [] eraser
    exact absurd renewed (by decide)
  · intro cleared
    exact cleared [] [] ⟨eraser, ⟨"first", "process = _;", ""⟩⟩
      ⟨"cannot read first.cmajor: No such file or directory (os error 2)"⟩ "" rfl
      eraser "second" "process = _;" "-lang cmajor-hybrid -json -cn second -o second.cmajor"
      .notFound rfl

end Scratch
end DspBridge
