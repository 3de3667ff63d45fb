import DspBridge.Proofs.Compiler.Generation
import DspBridge.Proofs.Transformer.Answers

/-!
# What is reported about a file

The compiler and its backend only report that they are at work.  What stands out beside that is
settled by what becomes of the file: one error if it is not compiled, and otherwise the declarations
of its descriptor and their count, or one warning if the descriptor cannot be read.  A descriptor
with a defect anywhere in it yields no declaration at all.
-/

namespace DspBridge

/-! ## The compiler at work -/

/-- An event by which the compiler, or what runs it, says what it is doing. -/
def Event.Background (event : Event) : Prop :=
  event.level = .debug ∧
    (event.record.target = compilerTarget ∨ event.record.target = processTarget)

/-- A backend that only reports that it is at work. -/
structure Backend.Quiet {σ : Type} (backend : Backend σ) : Prop where
  generate : ∀ name content command,
    (backend.generate name content command).Reports Event.Background
  read : ∀ path, (backend.read path).Reports Event.Background
  lastError : backend.lastError.Reports Event.Background
  reset : backend.reset.Reports Event.Background

open Action.Reports in
theorem Script.backend_quiet : Script.backend.Quiet :=
  ⟨fun _ _ _ => of_silent fun _ => rfl, fun _ => of_silent fun _ => rfl, of_silent fun _ => rfl,
    of_silent fun _ => rfl⟩

namespace Scratch

theorem Generation.background {program : Program} {ground : Ground} {name content command : String}
    {result : Except ScratchFault Bool} {remains : Option Files.Folder} {events : List Event}
    (generation : Generation program ground name content command result remains events) :
    ∀ event ∈ events, event.Background := by
  have running : (Event.running program.name command).Background := ⟨rfl, .inr rfl⟩
  cases generation with
  | notRelative | notWritten => exact nofun
  | notStarted | refused | notRenamed | generated =>
      intro event member
      rw [List.mem_singleton.mp member]
      exact running

theorem generate_background (program : Program) (name content command : String) :
    Action.Reports Event.Background (generate program name content command).run := by
  intro scratch event member
  rcases generate_ways program name content command scratch with
    ⟨error, next, stopped⟩ | ⟨ground, -, generation⟩
  · rw [stopped] at member
    cases member
  · exact generation.background event member

/-- The backend of a program reports nothing else, whatever the program does. -/
theorem backend_quiet (program : Program) : (backend program).Quiet where
  generate name content command :=
    (generate_background program name content command).bind
      fun _ => .of_silent fun _ => rfl
  read _ := .of_silent fun _ => rfl
  lastError := .of_silent fun _ => rfl
  reset := reset_reports fun _ => ⟨rfl, .inr rfl⟩

end Scratch

namespace Compiler

variable {σ : Type} {backend : Backend σ}

theorem produce_background (quiet : backend.Quiet) (name content command : String) :
    (produce backend name content command).Reports Event.Background := by
  refine .bind (quiet.generate name content command) fun answer => ?_
  rcases answer with fault | (_ | _)
  · exact .of_silent fun _ => rfl
  · exact .of_silent fun _ => rfl
  · refine .bind (quiet.read _) fun translated => ?_
    cases translated with
    | error fault => exact .of_silent fun _ => rfl
    | ok translated =>
        refine .bind (quiet.read _) fun descriptor => ?_
        cases descriptor <;> exact .of_silent fun _ => rfl

/-- With a backend that is quiet the compiler is quiet. -/
theorem perform_background (quiet : backend.Quiet) (job : Job) :
    (perform backend job).Reports Event.Background := by
  rw [perform, compile]
  refine .bind (.of_silent fun _ => rfl) fun _ => ?_
  split
  · exact fail_reports ⟨rfl, .inl rfl⟩
  · refine .bind (.of_silent fun _ => rfl) fun compiler => ?_
    refine .bind (.report ⟨rfl, .inl rfl⟩) fun _ => ?_
    refine .bind ((produce_background quiet _ _ _).on _ _) fun made => ?_
    rcases made with fault | (_ | output)
    · refine .bind (quiet.lastError.on _ _) fun reported => ?_
      exact .bind (quiet.reset.on _ _) fun _ => fail_reports ⟨rfl, .inl rfl⟩
    · exact .bind (quiet.lastError.on _ _) fun reported => fail_reports ⟨rfl, .inl rfl⟩
    · exact .of_silent fun _ => rfl

/-- The error that a job ends in is the one whose text the compiler keeps. -/
theorem perform_errorMessage {job : Job} {compiler : Compiler σ} {error : CompileError}
    (failed : (perform backend job compiler).value.1 = .error error) :
    (perform backend job compiler).value.2.errorMessage = error.message := by
  by_cases named : job.name = ""
  · rw [perform_empty backend named] at failed ⊢
    cases failed
    rfl
  · rw [perform_value backend named] at failed ⊢
    revert failed
    rcases (produce backend job.name job.content (commandFor compiler.includeDirs job)
      compiler.backend).value with ⟨fault | (_ | output), next⟩
    · intro failed
      cases failed
      rfl
    · intro failed
      cases failed
      rfl
    · exact nofun

end Compiler

/-! ## Declarations -/

section Hooks

variable {σ τ : Type}

theorem forIn_events {action : String → Action σ Unit} (lines : List String)
    (idle : ∀ line state, (action line state).value = ((), state)) (state : σ) :
    ((forIn lines () fun line _ => do
      action line
      pure (ForInStep.yield ()) : Action σ Unit) state).events =
        lines.flatMap fun line => (action line state).events := by
  induction lines with
  | nil => rfl
  | cons line lines ih =>
      rw [List.forIn_cons]
      simp only [Action.events_bind, Action.value_bind, idle, Action.pure_apply, List.append_nil,
        List.flatMap_cons]
      rw [ih]

theorem forIn_hook (hook : τ → String → τ) (lines : List String) (state : τ) :
    ((forIn lines () fun line _ => do
      modify (hook · line)
      pure (ForInStep.yield ()) : StateM τ Unit).run state) = ((), lines.foldl hook state) := by
  induction lines generalizing state with
  | nil => rfl
  | cons line lines ih =>
      rw [List.forIn_cons, List.foldl_cons]
      exact ih (hook state line)

/-- A hook is called with the lines that are returned, in their order, and not at all where there
are none to return. -/
theorem forDeclarations_hook (hook : τ → String → τ) (text : String) (state : τ) :
    (forDeclarations text fun line => modify (hook · line) : StateM τ _).run state =
      (declarationsOf text, ((declarationsOf text).toOption.getD []).foldl hook state) := by
  rw [forDeclarations]
  cases declarationsOf text with
  | error error => rfl
  | ok lines =>
      have called := forIn_hook hook lines state
      simp only [StateT.run_bind, called]
      rfl

end Hooks

namespace Transformer

variable {σ : Type}

/-- The events about a descriptor. -/
def declarationEvents (logs : Bool) (filename text : String) : List Event :=
  match declarationsOf text with
  | .ok lines =>
      (if logs then lines.map .declaration else []) ++ [.declarationsMade filename lines.length]
  | .error error => [.declarationsSkipped filename error]

theorem reportDeclarations_events (filename text : String) (transformer : Transformer σ) :
    (reportDeclarations filename text transformer).events =
      declarationEvents transformer.logDeclarations filename text := by
  let action (line : String) : Action (Transformer σ) Unit :=
    if transformer.logDeclarations then report (.declaration line) else pure ()
  have idle : ∀ line state, (action line state).value = ((), state) := by
    intro line state
    simp only [action]
    cases transformer.logDeclarations <;> rfl
  rw [reportDeclarations, Action.events_bind]
  change [] ++ ((forDeclarations text action >>= _) transformer).events = _
  rw [Action.events_bind, forDeclarations_value text idle, forDeclarations, declarationEvents]
  cases declarationsOf text with
  | error error => rfl
  | ok lines =>
      simp only [Action.events_bind, forIn_events lines idle, action]
      cases transformer.logDeclarations with
      | false => simp
      | true => simp [List.map_eq_flatMap]

/-! ## Files -/

/-- A file of another kind is passed over in silence. -/
theorem transform_foreign_events {backend : Backend σ} {filename : String}
    (foreign : unitName? filename = none) (contents : String) (transformer : Transformer σ) :
    (transform backend filename contents transformer).events = [] := by
  rw [transform, foreign]
  rfl

/-- The events of a source file: first those of its job, then those about what has become of it. -/
theorem transform_source_events {backend : Backend σ} {filename name : String}
    (source : unitName? filename = some name) (contents : String) (transformer : Transformer σ) :
    let compiled := Compiler.perform backend (transformer.jobOf name contents) transformer.compiler
    (transform backend filename contents transformer).events = compiled.events ++
      match compiled.value.1 with
      | .ok output =>
          .descriptorMade filename output.descriptor ::
            declarationEvents transformer.logDeclarations filename output.descriptor
      | .error error => [.transformFailed filename error.message] := by
  intro compiled
  have asked : (ask (Compiler.compile backend name contents transformer.flags) :
      Action (Transformer σ) _) transformer =
        ⟨(compiled.value.1, { transformer with compiler := compiled.value.2 }),
          compiled.events⟩ := rfl
  rw [transform, source]
  simp only [Action.events_bind, Action.get_apply, asked, List.nil_append]
  congr 1
  cases compiled.value.1 with
  | ok output =>
      simp only [Action.events_bind, Action.report_apply, reportDeclarations_events,
        Action.pure_apply, List.append_nil, List.singleton_append]
  | error error => rfl

/-- Whether a record is shown without being asked for, or counts declarations. -/
def standsOut (record : Record) : Bool :=
  record.level != .debug ||
    (record.target == Event.transformTarget && record.message == "generated declarations")

/-- The records of events that stand out, in their order. -/
def outstanding (events : List Event) : List Record := (events.map Event.record).filter standsOut

@[simp] theorem outstanding_append (first second : List Event) :
    outstanding (first ++ second) = outstanding first ++ outstanding second := by
  rw [outstanding, List.map_append, List.filter_append]
  rfl

/-- The compiler at work does not stand out. -/
theorem outstanding_background {events : List Event}
    (background : ∀ event ∈ events, event.Background) : outstanding events = [] := by
  rw [outstanding, List.filter_eq_nil_iff]
  intro record member
  obtain ⟨event, among, rfl⟩ := List.mem_map.mp member
  obtain ⟨level, target⟩ := background event among
  have elsewhere : event.record.target ≠ Event.transformTarget := by
    rcases target with target | target <;> rw [target] <;> decide
  rw [Event.level] at level
  simp [standsOut, level, elsewhere]

/-- The record of a declaration line. -/
def lineRecord (line : String) : Record := ⟨.info, Event.declarationsTarget, "", line, []⟩

/-- The records that stand out for a source file, given what its job ends in and the error that the
compiler keeps after it. -/
inductive Reported (logs : Bool) (filename errorMessage : String) :
    Except CompileError Output → List Record → Prop where
  /-- A file that is not compiled is one error. -/
  | failed (error : CompileError) :
      Reported logs filename errorMessage (.error error)
        [⟨.error, Event.transformTarget, "", errorMessage, [("filename", .text filename)]⟩]
  /-- The declarations of a descriptor are reported line by line, or not at all, and counted. -/
  | declared {output : Output} {lines : List String} : declarationsOf output.descriptor = .ok lines →
      Reported logs filename errorMessage (.ok output)
        ((if logs then lines.map lineRecord else []) ++
          [⟨.debug, Event.transformTarget, "", "generated declarations",
            [("filename", .text filename), ("count", .count lines.length)]⟩])
  /-- A descriptor that cannot be read is one warning, wherever its defect is. -/
  | skipped {output : Output} {error : Descriptor.Error} :
      Descriptor.parse output.descriptor = .error error →
      Reported logs filename errorMessage (.ok output)
        [⟨.warn, Event.transformTarget, "", s!"skipping declarations: {error.message}",
          [("filename", .text filename)]⟩]

theorem outstanding_declarations (filename : String) (lines : List String) :
    outstanding (lines.map .declaration ++ [.declarationsMade filename lines.length]) =
      lines.map lineRecord ++ [(Event.declarationsMade filename lines.length).record] := by
  have shown : outstanding (lines.map .declaration) = lines.map lineRecord := by
    rw [outstanding, List.map_map, List.filter_eq_self.mpr]
    · rfl
    · intro record member
      obtain ⟨line, -, rfl⟩ := List.mem_map.mp member
      rfl
  rw [outstanding_append, shown]
  rfl

theorem reported_declarationEvents (logs : Bool) (filename errorMessage : String)
    (output : Output) :
    Reported logs filename errorMessage (.ok output)
      (outstanding (declarationEvents logs filename output.descriptor)) := by
  rw [declarationEvents]
  cases made : declarationsOf output.descriptor with
  | ok lines =>
      have declared : Reported logs filename errorMessage (.ok output) _ := .declared made
      cases logs with
      | false => exact declared
      | true =>
          simp only [if_true] at declared ⊢
          rw [outstanding_declarations]
          exact declared
  | error error =>
      refine .skipped ?_
      rw [declarationsOf] at made
      cases read : Descriptor.parse output.descriptor with
      | ok descriptor => rw [read] at made; cases made
      | error other => rw [read] at made; cases made; rfl

/-- What is reported about a file, with a backend that only reports that it is at work, as scripted
backends and compiler programs do.  Nothing is reported about a file of another kind.  For a source
file the records that stand out follow from what its job ends in, and a hook is called with the
lines that are returned and never where there are none. -/
theorem transform_reports :
    (Script.backend.Quiet ∧ ∀ program, (Scratch.backend program).Quiet) ∧
    (∀ {σ : Type} (backend : Backend σ), backend.Quiet →
      ∀ (transformer : Transformer σ) (filename contents : String),
        let done := transform backend filename contents transformer
        (unitName? filename = none → done.events = []) ∧
        ∀ name, unitName? filename = some name →
          Reported transformer.logDeclarations filename done.value.2.compiler.errorMessage
            (Compiler.perform backend (transformer.jobOf name contents)
              transformer.compiler).value.1
            (outstanding done.events)) ∧
    (∀ {τ : Type} (hook : τ → String → τ) (text : String) (state : τ),
      (forDeclarations text fun line => modify (hook · line) : StateM τ _).run state =
        (declarationsOf text, ((declarationsOf text).toOption.getD []).foldl hook state)) := by
  refine ⟨⟨Script.backend_quiet, Scratch.backend_quiet⟩, ?_, forDeclarations_hook⟩
  intro σ backend quiet transformer filename contents
  refine ⟨fun foreign => transform_foreign_events foreign contents transformer, ?_⟩
  intro name source
  have background := outstanding_background
    (Compiler.perform_background quiet (transformer.jobOf name contents) transformer.compiler)
  rw [transform_source_events source, transform_source backend source, outstanding_append,
    background, List.nil_append]
  cases compiled : (Compiler.perform backend (transformer.jobOf name contents)
    transformer.compiler).value.1 with
  | error error =>
      have kept := Compiler.perform_errorMessage compiled
      dsimp only
      rw [kept]
      exact .failed error
  | ok output => exact reported_declarationEvents _ _ _ output

/-- A module whose descriptor has a slider without limits behind a button. -/
theorem transform_reports_defect :
    let descriptor := "\x7b\"name\":\"n\",\"ui\":[" ++
      "\x7b\"type\":\"button\",\"label\":\"a\"\x7d," ++
      "\x7b\"type\":\"hslider\",\"label\":\"b\"\x7d]\x7d"
    let start : Transformer Script :=
      .new (.new (.new [.succeed (some "graph osc") (some descriptor)] "2.70.3") [])
    let done := transform Script.backend "osc.dsp" "process = _;" start
    Script.backend.Quiet ∧ unitName? "osc.dsp" = some "osc" ∧
      Reported true "osc.dsp" "" (.ok ⟨"graph osc", descriptor⟩) (outstanding done.events) ∧
      (transform Script.backend "osc.txt" "process = _;" start).events = [] := by
  intro descriptor start done
  have source : unitName? "osc.dsp" = some "osc" := by decide
  obtain ⟨⟨quiet, -⟩, reports, -⟩ := transform_reports
  refine ⟨quiet, source, ?_, ?_⟩
  · have compiled : (Compiler.perform Script.backend (start.jobOf "osc" "process = _;")
        start.compiler).value.1 = .ok ⟨"graph osc", descriptor⟩ := by rfl
    have silent : done.value.2.compiler.errorMessage = "" := by decide +kernel
    have reported := (reports Script.backend quiet start "osc.dsp" "process = _;").2 "osc" source
    rw [compiled, silent] at reported
    exact reported
  · exact (reports Script.backend quiet start "osc.txt" "process = _;").1 (by decide)

end Transformer
end DspBridge
