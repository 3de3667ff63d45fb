import DspBridge.Proofs.Compiler.Generation
import DspBridge.Proofs.Compiler.Journal

/-!
# Starting the program

A job starts its program once, or not at all if its source cannot be put where it belongs.  Nothing
else is asked of the program, so programs that do the same when they are started with the arguments
of the command on the source of the unit are the same to the job, and if it is not started then all
programs are.
-/

namespace DspBridge

/-! ## Launches -/

/-- A program and the command that it is run with, if that is what an event is about. -/
def Event.launch? : Event → Option (String × String)
  | .running program command => some (program, command)
  | _ => none

/-- The programs that have been started, each with its command. -/
def launches (events : List Event) : List (String × String) := events.filterMap Event.launch?

/-- An event that is about no launch. -/
def Event.Still (event : Event) : Prop := event.launch? = none

@[simp] theorem launches_append (first second : List Event) :
    launches (first ++ second) = launches first ++ launches second :=
  List.filterMap_append

theorem launches_still {events : List Event} (still : ∀ event ∈ events, event.Still) :
    launches events = [] :=
  List.filterMap_eq_nil_iff.mpr still

section Still

variable {ε σ α β : Type} {state : σ}

/-- Launches are those of what is done first, if there are none after it. -/
theorem launches_bind_left (first : Action σ α) {next : α → Action σ β}
    (still : ∀ value, (next value).Reports Event.Still) :
    launches ((first >>= next) state).events = launches (first state).events := by
  rw [Action.events_bind, launches_append, launches_still (still _ _), List.append_nil]

/-- Launches are those of what is done next, if there are none before it. -/
theorem launches_bind_right {first : Action σ α} (next : α → Action σ β)
    (still : first.Reports Event.Still) :
    launches ((first >>= next) state).events =
      launches (next (first state).value.1 (first state).value.2).events := by
  rw [Action.events_bind, launches_append, launches_still (still _), List.nil_append]

end Still

namespace Scratch

/-! ## Units -/

section Units

variable {program other : Program} {name content command : String}

/-- Programs are the same to a unit on some ground if they have one name and do the same on the
source of the unit. -/
structure AlikeOn (program other : Program) (ground : Ground) (name content command : String) :
    Prop where
  name_eq : other.name = program.name
  start_eq : ∀ names, Files.below? (sourceName name) = some names →
    other.start (commandArguments command name) (sourceTree ground.standing names content) =
      program.start (commandArguments command name) (sourceTree ground.standing names content)

theorem execute_congr (scratch : Scratch) (named : other.name = program.name)
    (same : other.start (commandArguments command name) (scratch.folder.getD .empty) =
      program.start (commandArguments command name) (scratch.folder.getD .empty)) :
    (execute other name command).run scratch = (execute program name command).run scratch := by
  rw [execute, execute, tell_bind_run, tell_bind_run, getThe_bind_run, getThe_bind_run, named]
  dsimp only
  rw [same]

theorem execute_launches (scratch : Scratch) :
    launches ((execute program name command).run scratch).events = [(program.name, command)] := by
  cases started : program.start (commandArguments command name) (scratch.folder.getD .empty) with
  | error error =>
      rw [execute_error _ started]
      rfl
  | ok run =>
      cases succeeded : run.succeeded with
      | true =>
          rw [execute_succeeded _ started succeeded]
          rfl
      | false =>
          rw [execute_refused _ started succeeded]
          rfl

theorem resolved_still (path : String) : (resolved path).run.Reports Event.Still := by
  rw [resolved]
  split <;> exact .of_silent fun _ => rfl

theorem settle_still (name : String) : (settle name).run.Reports Event.Still := by
  refine .attempt (resolved_still _) fun _ => ?_
  refine .attempt (.of_silent fun _ => rfl) fun scratch => ?_
  dsimp only
  split
  · exact .of_silent fun _ => rfl
  · split
    · refine .attempt (resolved_still _) fun _ => ?_
      split <;> exact .of_silent fun _ => rfl
    · exact .of_silent fun _ => rfl

/-- What a unit does behind its program starts nothing. -/
theorem translate_launches {names : List String} {ground : Ground} (lastError : String)
    (written : (writeSource name content).run (ground.cleared lastError) =
      ⟨(.ok (), ⟨some (sourceTree ground.standing names content), lastError, ground.limits⟩),
        []⟩) :
    launches ((translate program name content command).run (ground.cleared lastError)).events =
      [(program.name, command)] := by
  rw [translate, run_bind_ok _ written, List.nil_append, ExceptT.run_bind, launches_bind_left]
  · exact execute_launches _
  · rintro (fault | (_ | _))
    · exact .of_silent fun _ => rfl
    · exact .of_silent fun _ => rfl
    · exact .attempt (settle_still name) fun _ => .of_silent fun _ => rfl

/-- Why a program is not started for a unit. -/
inductive Unprepared (scratch : Scratch) (name : String) : Prop where
  | stuck : ¬ scratch.Clearable → Unprepared scratch name
  | outside : Files.below? (sourceName name) = none → Unprepared scratch name
  | unfit {ground : Ground} : scratch.Clears ground → ¬ ground.Takes name →
      Unprepared scratch name

/-- A unit ends before it comes to any program, or else starts its program once, and depends on
nothing else about it. -/
theorem generate_launches (name content command : String) (scratch : Scratch) :
    (Unprepared scratch name ∧ ∃ ended, ∀ program,
      (generate program name content command).run scratch = ⟨ended, []⟩) ∨
    ∃ ground, scratch.Clears ground ∧ ∀ program,
      launches ((generate program name content command).run scratch).events =
        [(program.name, command)] ∧
      ∀ other, AlikeOn program other ground name content command →
        (generate other name content command).run scratch =
          (generate program name content command).run scratch := by
  by_cases clearable : scratch.Clearable
  · obtain ⟨ground, clears⟩ := clearable
    simp only [generate_of_clears _ _ _ _ clears]
    cases below : Files.below? (sourceName name) with
    | none =>
        have ended := writeSource_outside below content (ground.cleared scratch.lastError)
        refine .inl ⟨.outside below,
          (.error (.notRelative (sourceName name)), ground.cleared scratch.lastError),
          fun program => ?_⟩
        rw [translate, run_bind_error _ ended]
    | some names =>
        rcases writeSource_run below content ground with ⟨error, made, -, untaken, stopped⟩ |
          written
        · refine .inl ⟨.unfit clears untaken, (.error (.notWritten error),
            ⟨some (.chain ground.standing made), scratch.lastError, ground.limits⟩),
            fun program => ?_⟩
          rw [translate, run_bind_error _ (stopped _)]
        · refine .inr ⟨ground, clears, fun program => ⟨translate_launches _ (written _), ?_⟩⟩
          intro other alike
          have executed := execute_congr
            ⟨some (sourceTree ground.standing names content), scratch.lastError, ground.limits⟩
            alike.name_eq (alike.start_eq names below)
          rw [translate, translate, run_bind_ok _ (written _), run_bind_ok _ (written _),
            run_bind_congr executed]
  · obtain ⟨error, next, stopped, -⟩ := clear_of_not_clearable clearable
    exact .inl ⟨.stuck clearable, _, fun program =>
      generate_of_uncleared program name content command stopped⟩

end Units

/-! ## Jobs -/

section Jobs

variable {program other : Program} {job : Job} {compiler : Compiler Scratch}

/-- A job sees nothing of its program but what its unit comes to. -/
theorem perform_congr
    (same : (generate other job.name job.content
        (Compiler.commandFor compiler.includeDirs job)).run compiler.backend =
      (generate program job.name job.content
        (Compiler.commandFor compiler.includeDirs job)).run compiler.backend) :
    Compiler.perform (backend other) job compiler =
      Compiler.perform (backend program) job compiler := by
  have produced : Compiler.produce (backend other) job.name job.content
      (Compiler.commandFor compiler.includeDirs job) compiler.backend =
        Compiler.produce (backend program) job.name job.content
          (Compiler.commandFor compiler.includeDirs job) compiler.backend :=
    Action.bind_congr_left (Action.bind_congr_left same _) _
  have asked : ∀ failure,
      Compiler.ask (Compiler.produce (backend other) job.name job.content
        (Compiler.commandFor compiler.includeDirs job)) { compiler with failure } =
      Compiler.ask (Compiler.produce (backend program) job.name job.content
        (Compiler.commandFor compiler.includeDirs job)) { compiler with failure } := by
    intro failure
    rw [Compiler.ask, Compiler.ask, Action.on, Action.on, produced]
  rw [Compiler.perform, Compiler.perform, Compiler.compile, Compiler.compile]
  refine Action.bind_congr_right ?_
  split
  · rfl
  · refine Action.bind_congr_right ?_
    refine Action.bind_congr_right ?_
    exact Action.bind_congr_left (asked none) _

theorem reset_still : reset.Reports Event.Still := reset_reports fun _ => rfl

/-- What is read after a unit starts nothing. -/
theorem produce_launches (program : Program) (name content command : String)
    (scratch : Scratch) :
    launches (Compiler.produce (backend program) name content command scratch).events =
      launches ((generate program name content command).run scratch).events := by
  have silent (path : String) : ((backend program).read path).Reports Event.Still :=
    .of_silent fun _ => rfl
  rw [Compiler.produce, launches_bind_left]
  · exact launches_bind_left _ fun _ => .of_silent fun _ => rfl
  · rintro (fault | (_ | _))
    · exact .of_silent fun _ => rfl
    · exact .of_silent fun _ => rfl
    · refine .bind (silent _) fun translated => ?_
      cases translated with
      | error fault => exact .of_silent fun _ => rfl
      | ok translated =>
          refine .bind (silent _) fun descriptor => ?_
          cases descriptor <;> exact .of_silent fun _ => rfl

/-- A job starts what its unit starts. -/
theorem perform_launches (named : job.name ≠ "") :
    launches (Compiler.perform (backend program) job compiler).events =
      launches ((generate program job.name job.content
        (Compiler.commandFor compiler.includeDirs job)).run compiler.backend).events := by
  have nonempty : ¬ job.name.isEmpty = true := by simpa using named
  have silent : ((backend program).lastError).Reports Event.Still := .of_silent fun _ => rfl
  have announced (command : String) :
      (report (.compiling job.name command) : Action (Compiler Scratch) Unit).Reports
        Event.Still := .report rfl
  rw [Compiler.perform, Compiler.compile, launches_bind_right _ (.of_silent fun _ => rfl),
    if_neg nonempty, launches_bind_right _ (.of_silent fun _ => rfl),
    launches_bind_right _ (announced _), launches_bind_left]
  · exact produce_launches program _ _ _ _
  · rintro (fault | (_ | output))
    · refine .bind (silent.on _ _) fun reported => ?_
      exact .bind (reset_still.on _ _) fun _ => Compiler.fail_reports rfl
    · exact .bind (silent.on _ _) fun reported => Compiler.fail_reports rfl
    · exact .of_silent fun _ => rfl

end Jobs

end Scratch
end DspBridge
