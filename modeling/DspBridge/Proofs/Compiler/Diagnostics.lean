import DspBridge.Proofs.Compiler.Leftovers
import DspBridge.Proofs.Compiler.Outcomes
import Mathlib.Data.List.Forall2

/-!
# Whose diagnostic is reported

Jobs that are compiled one after another, by a program that may behave differently every time.  The
diagnostic that they leave with the backend is that of the last job, if it was refused.  A later
fault that is raised before the unit is translated is reported with this diagnostic, and not with
its own text.
-/

namespace DspBridge
namespace Scratch

/-! ## Rows of jobs -/

/-- A job, and the program as it behaves when the job has its turn. -/
structure Turn where
  program : Program
  job : Job

/-- Compile jobs one after another, with a program that may behave differently every time. -/
def performEach (turns : List Turn) :
    Action (Compiler Scratch) (List (Except CompileError Output)) :=
  turns.mapM fun turn => Compiler.perform (backend turn.program) turn.job

@[simp] theorem performEach_nil (compiler : Compiler Scratch) :
    (performEach [] compiler).value = ([], compiler) := rfl

@[simp] theorem performEach_cons (turn : Turn) (turns : List Turn) (compiler : Compiler Scratch) :
    (performEach (turn :: turns) compiler).value =
      let done := (Compiler.perform (backend turn.program) turn.job compiler).value
      let rest := (performEach turns done.2).value
      (done.1 :: rest.1, rest.2) :=
  Action.value_mapM_cons _ turn turns compiler

/-- Whether a job has come to the backend. -/
def reached : Except CompileError Output → Bool
  | .error .emptyName => false
  | _ => true

/-- The diagnostic that jobs with some results leave behind: that of the last job that has come to
the backend, if it was refused. -/
def held (results : List (Except CompileError Output)) : String :=
  match (results.filter reached).getLast? with
  | some (.error (.refused reported)) => reported
  | _ => ""

theorem held_concat_unnamed (results : List (Except CompileError Output)) :
    held (results ++ [.error .emptyName]) = held results := by
  rw [held, List.filter_append]
  simp only [reached, Bool.false_eq_true, not_false_eq_true, List.filter_cons_of_neg,
    List.filter_nil, List.append_nil]
  rfl

theorem held_concat_reached (results : List (Except CompileError Output))
    {result : Except CompileError Output} (reach : reached result = true) :
    held (results ++ [result]) = held [result] := by
  rw [held, held, List.filter_append, List.filter_cons_of_pos reach, List.filter_nil,
    List.getLast?_concat, List.getLast?_singleton]

theorem getLast?_of_held {results : List (Except CompileError Output)} (kept : held results ≠ "") :
    (results.filter reached).getLast? = some (.error (.refused (held results))) := by
  rw [held] at kept ⊢
  split at kept
  · assumption
  · exact absurd rfl kept

/-- What a job is refused with is what its program has written. -/
def Told (turn : Turn) (result : Except CompileError Output) : Prop :=
  ∀ reported, result = .error (.refused reported) → ∃ arguments folder run,
    turn.program.start arguments folder = .ok run ∧ run.succeeded = false ∧
      diagnosis run = reported

section Rows

variable {program : Program} {job : Job} {compiler : Compiler Scratch}
  {result : Except CompileError Output} {after : String}

theorem Outcome.told (outcome : Outcome program job compiler result after) :
    Told ⟨program, job⟩ result := by
  intro reported same
  cases outcome with
  | unnamed => cases same
  | compiled => cases same
  | refused generates started succeeded =>
      exact ⟨_, _, _, started, succeeded, CompileError.refused.inj (Except.error.inj same)⟩
  | faulted => cases same

theorem Outcome.held {results : List (Except CompileError Output)}
    (outcome : Outcome program job compiler result after)
    (before : compiler.backend.lastError = held results) :
    after = Scratch.held (results ++ [result]) := by
  cases outcome with
  | unnamed => rw [held_concat_unnamed, before]
  | compiled => rw [held_concat_reached _ rfl]; rfl
  | refused => rw [held_concat_reached _ rfl]; rfl
  | faulted => rw [held_concat_reached _ rfl]; rfl

end Rows

/-- What the results of some turns tell about the diagnostic that is held after them. -/
structure After (turns : List Turn) (results : List (Except CompileError Output))
    (scratch : Scratch) : Prop where
  told : List.Forall₂ Told turns results
  lastError : scratch.lastError = held results

theorem After.perform {turns : List Turn} {results : List (Except CompileError Output)}
    {compiler : Compiler Scratch} (after : After turns results compiler.backend) (turn : Turn) :
    let done := (Compiler.perform (backend turn.program) turn.job compiler).value
    After (turns ++ [turn]) (results ++ [done.1]) done.2.backend := by
  have outcome := perform_outcome turn.program turn.job compiler
  exact ⟨List.rel_append after.told (.cons outcome.told .nil), outcome.held after.lastError⟩

theorem After.performEach {turns : List Turn} {results : List (Except CompileError Output)}
    {compiler : Compiler Scratch} (after : After turns results compiler.backend)
    (later : List Turn) :
    let done := (performEach later compiler).value
    After (turns ++ later) (results ++ done.1) done.2.backend := by
  induction later generalizing turns results compiler with
  | nil =>
      dsimp only
      rw [performEach_nil, List.append_nil, List.append_nil]
      exact after
  | cons turn later ih =>
      have rest := ih (after.perform turn)
      dsimp only at rest ⊢
      rw [List.append_assoc, List.append_assoc] at rest
      rw [performEach_cons]
      exact rest

theorem after_performEach (turns : List Turn) (limits : Files.Limits) (directories : List String) :
    let played := (performEach turns (.new (.new limits) directories)).value
    After turns played.1 played.2.backend := by
  have fresh : After [] [] (Compiler.new (Scratch.new limits) directories).backend := ⟨.nil, rfl⟩
  exact fresh.performEach turns

section Shown

variable {program : Program} {job : Job} {compiler : Compiler Scratch} {stage : Stage}
  {raised : ScratchFault}

/-- Every job that ends in a fault has raised it. -/
theorem raises_of_faulted {fault : Fault} {reported : String}
    (faulted : (Compiler.perform (backend program) job compiler).value.1 =
      .error (.faulted fault reported)) :
    ∃ stage raised, Raises program job compiler stage raised ∧ raised.toFault = fault := by
  have outcome := perform_outcome program job compiler
  dsimp only at outcome
  rw [faulted] at outcome
  generalize (Compiler.perform (backend program) job compiler).value.2.backend.lastError = left
    at outcome
  cases outcome with
  | faulted raises => exact ⟨_, _, raises, rfl⟩

/-- The wording of a fault that is reported with a diagnostic. -/
theorem shown_faulted (fault : Fault) (reported : String) :
    shown (.error (.faulted fault reported)) =
      .error (if reported = "" then fault.message else reported) := by
  rw [shown, Except.mapError, CompileError.message]
  simp only [String.isEmpty_iff]

theorem shown_raises (raises : Raises program job compiler stage raised) :
    shown (Compiler.perform (backend program) job compiler).value.1 =
      .error (if stage = .reading ∨ compiler.backend.lastError = "" then raised.message
        else compiler.backend.lastError) := by
  rw [raises.outcome (perform_outcome program job compiler), shown_faulted]
  cases stage with
  | translating =>
      by_cases nothing : compiler.backend.lastError = "" <;>
        simp [Stage.held, ScratchFault.toFault, nothing]
  | reading => simp [Stage.held, ScratchFault.toFault]

end Shown

/-- A fault is shown in its own words, unless it is raised before the unit is translated and a
diagnostic is held that an earlier unit was refused with. -/
theorem shown_raised (turns : List Turn) (limits : Files.Limits) (directories : List String)
    (next : Turn) :
    let played := (performEach turns (.new (.new limits) directories)).value
    let kept := held played.1
    let result := (Compiler.perform (backend next.program) next.job played.2).value.1
    (∀ stage raised, Raises next.program next.job played.2 stage raised →
      (stage = .reading ↔ ∃ path error, raised = .notRead path error) ∧
      shown result =
        .error (if stage = .reading ∨ kept = "" then raised.message else kept) ∧
      (shown result = .error raised.message ↔
        stage = .reading ∨ kept = "" ∨ kept = raised.message)) ∧
    (∀ fault reported, result = .error (.faulted fault reported) →
      ∃ stage raised, Raises next.program next.job played.2 stage raised ∧
        raised.toFault = fault) ∧
    (kept ≠ "" → (played.1.filter reached).getLast? = some (.error (.refused kept))) ∧
    List.Forall₂ Told turns played.1 := by
  intro played kept result
  have after := after_performEach turns limits directories
  refine ⟨?_, fun fault reported => raises_of_faulted, getLast?_of_held, after.told⟩
  intro stage raised raises
  have own : shown result =
      .error (if stage = .reading ∨ kept = "" then raised.message else kept) := by
    rw [show kept = played.2.backend.lastError from after.lastError.symm]
    exact shown_raises raises
  refine ⟨raises.reading_iff, own, ?_⟩
  rw [own, Except.error.injEq, ite_eq_left_iff, not_or, and_imp, or_iff_not_imp_left,
    or_iff_not_imp_left]

/-- A program that refuses every unit, and always says the same about it. -/
def refuser : Program :=
  ⟨"faust", fun _ tree =>
    .ok ⟨some tree, false, [], Text.bytesOf "first.dsp:1: undefined symbol: pi\n"⟩⟩

/-- Faults are not always shown in their own words: after a unit with an undefined symbol has been
refused, a unit whose name leads out of the directory is shown as if it were that one. -/
theorem not_shown_raised :
    ¬ ∀ (turns : List Turn) (directories : List String) (next : Turn) (stage : Stage)
      (raised : ScratchFault),
      let played := (performEach turns (.new .new directories)).value
      Raises next.program next.job played.2 stage raised →
        shown (Compiler.perform (backend next.program) next.job played.2).value.1 =
          .error raised.message := by
  intro own
  have alike : Except.error "first.dsp:1: undefined symbol: pi" =
      (Except.error "unit path must be relative: /second.dsp" : Except String Output) :=
    own [⟨refuser, ⟨"first", "process = pi;", ""⟩⟩] [] ⟨refuser, ⟨"/second", "process = _;", ""⟩⟩
      .translating (.notRelative "/second.dsp") (.translating ⟨by decide, rfl⟩)
  have equal : "first.dsp:1: undefined symbol: pi" = "unit path must be relative: /second.dsp" :=
    Except.error.inj alike
  exact absurd equal (by decide)

end Scratch
end DspBridge
