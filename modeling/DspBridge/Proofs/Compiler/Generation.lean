import DspBridge.Proofs.Compiler.Clearing
import DspBridge.Proofs.Files.Folder

/-!
# What becomes of a unit

The backend of a compiler program, step by step.  Once it has cleared the scratch directory,
whatever an earlier unit has left there does not count: the program is started on the source of the
unit and the directories that this stands in, and on nothing else.  `Generation` lists the ways in
which it can go on from there, and they depend on nothing but the ground that clearing leaves.
-/

namespace DspBridge

open Files (FileError Folder Ending Standing)

/-! ## The files of a unit -/

theorem sourceSuffix_ending : Ending ".dsp" := ⟨by decide, by decide⟩

theorem moduleSuffix_ending : Ending ".cmajor" := ⟨by decide, by decide⟩

theorem descriptorSuffix_ending : Ending ".json" := ⟨by decide, by decide⟩

theorem sidecarSuffix_ending : Ending ".dsp.json" := ⟨by decide, by decide⟩

namespace Scratch

theorem sidecarName_eq (name : String) : sidecarName name = name ++ ".dsp.json" := by
  rw [sidecarName, descriptorName, sourceName, String.append_assoc]
  rfl

/-- What a program makes of a unit is named after it, with endings other than that of the source. -/
theorem ending_of_artifact {name artifact : String}
    (member : artifact ∈ [moduleName name, descriptorName name, sidecarName name]) :
    ∃ suffix, Ending suffix ∧ suffix ≠ sourceSuffix ∧ artifact = name ++ suffix := by
  simp only [List.mem_cons, List.not_mem_nil, or_false] at member
  rcases member with rfl | rfl | rfl
  · exact ⟨".cmajor", moduleSuffix_ending, by decide, rfl⟩
  · exact ⟨".json", descriptorSuffix_ending, by decide, rfl⟩
  · exact ⟨".dsp.json", sidecarSuffix_ending, by decide, sidecarName_eq name⟩

/-- The files of a unit stand beside each other. -/
theorem names_of_below? {name : String} {names : List String}
    (below : Files.below? (sourceName name) = some names) :
    ∃ parents last, names = parents ++ [last ++ ".dsp"] ∧ ∀ suffix, Ending suffix →
      Files.below? (name ++ suffix) = some (parents ++ [last ++ suffix]) := by
  rcases Files.below?_append name with ⟨parents, last, beside⟩ | outside
  · have source := beside ".dsp" sourceSuffix_ending
    rw [sourceName, sourceSuffix, source, Option.some.injEq] at below
    exact ⟨parents, last, below.symm, beside⟩
  · rw [sourceName, sourceSuffix, outside ".dsp" sourceSuffix_ending] at below
    cases below

/-! ## The ways of a unit -/

/-- The directory that a program is started in: it holds the source of the unit and the directories
that this stands in. -/
def sourceTree (standing : Standing) (names : List String) (content : String) : Folder :=
  .single standing names (Text.bytesOf content)

/-- The source of a unit can be written: nothing that this takes is refused, and its path is not too
long. -/
structure Ground.Takes (ground : Ground) (name : String) : Prop where
  free : ground.standing.Free
  fits : Folder.Fits ground.limits.path (sourceName name)

/-- What settling the descriptor makes of the directory that a program leaves, if it leaves one. -/
inductive Settled (limit : Nat) (name : String) : Option Folder → Option Folder → Prop where
  | gone : Settled limit name none none
  | kept {tree : Folder} : tree.has [] (sidecarName name) limit = false →
      Settled limit name (some tree) (some tree)
  | renamed {tree settled : Folder} : tree.has [] (sidecarName name) limit = true →
      tree.rename [] (sidecarName name) (descriptorName name) limit = .ok settled →
      Settled limit name (some tree) (some settled)

/-- What becomes of a unit on some ground: the result, the directory that remains, and the events.
Nothing in it refers to what the directory held before. -/
inductive Generation (program : Program) (ground : Ground) (name content command : String) :
    Except ScratchFault Bool → Option Folder → List Event → Prop where
  | notRelative : Files.below? (sourceName name) = none →
      Generation program ground name content command (.error (.notRelative (sourceName name)))
        (some (.bare (.folder ground.standing))) []
  | notWritten {names made : List String} (error : FileError) :
      Files.below? (sourceName name) = some names → made <+: names.dropLast →
      ¬ ground.Takes name →
      Generation program ground name content command (.error (.notWritten error))
        (some (.chain ground.standing made)) []
  | notStarted {names : List String} {error : StartError} :
      Files.below? (sourceName name) = some names →
      program.start (commandArguments command name) (sourceTree ground.standing names content) =
        .error error →
      Generation program ground name content command (.error (.notStarted program.name error))
        (some (sourceTree ground.standing names content)) [.running program.name command]
  | refused {names : List String} {run : Run} :
      Files.below? (sourceName name) = some names →
      program.start (commandArguments command name) (sourceTree ground.standing names content) =
        .ok run →
      run.succeeded = false →
      Generation program ground name content command (.ok false) run.folder
        [.running program.name command]
  | notRenamed {names : List String} {run : Run} {tree : Folder} {error : FileError} :
      Files.below? (sourceName name) = some names →
      program.start (commandArguments command name) (sourceTree ground.standing names content) =
        .ok run →
      run.succeeded = true → run.folder = some tree →
      tree.has [] (sidecarName name) ground.limits.path = true →
      tree.rename [] (sidecarName name) (descriptorName name) ground.limits.path = .error error →
      Generation program ground name content command (.error (.notRenamed error)) (some tree)
        [.running program.name command]
  | generated {names : List String} {run : Run} {remains : Option Folder} :
      Files.below? (sourceName name) = some names →
      program.start (commandArguments command name) (sourceTree ground.standing names content) =
        .ok run →
      run.succeeded = true → Settled ground.limits.path name run.folder remains →
      Generation program ground name content command (.ok true) remains
        [.running program.name command]

/-! ## One step after another -/

section Steps

variable {α : Type} (scratch : Scratch)

theorem getThe_bind_run (next : Scratch → Attempt α) :
    (getThe Scratch >>= next).run scratch = (next scratch).run scratch := rfl

theorem change_bind_run (edit : Scratch → Scratch) (next : Unit → Attempt α) :
    (change edit >>= next).run scratch = (next ()).run (edit scratch) := rfl

theorem change_run (edit : Scratch → Scratch) :
    (change edit).run scratch = ⟨(.ok (), edit scratch), []⟩ := rfl

theorem tell_bind_run (event : Event) (next : Unit → Attempt α) :
    (tell event >>= next).run scratch =
      ⟨((next ()).run scratch).value, event :: ((next ()).run scratch).events⟩ := rfl

theorem fault_run (raised : ScratchFault) :
    (fault raised : Attempt α).run scratch = ⟨(.error raised, scratch), []⟩ := rfl

theorem pure_run (value : α) :
    (pure value : Attempt α).run scratch = ⟨(.ok value, scratch), []⟩ := rfl

theorem resolved_bind_run {path : String} {names : List String}
    (below : Files.below? path = some names) (next : List String → Attempt α) :
    (resolved path >>= next).run scratch = (next names).run scratch := by
  rw [resolved, resolve, below]
  rfl

theorem resolved_bind_error {path : String} (outside : Files.below? path = none)
    (next : List String → Attempt α) :
    (resolved path >>= next).run scratch = ⟨(.error (.notRelative path), scratch), []⟩ := by
  rw [resolved, resolve, outside]
  rfl

end Steps

theorem writeSource_outside {name : String} (outside : Files.below? (sourceName name) = none)
    (content : String) (scratch : Scratch) :
    (writeSource name content).run scratch =
      ⟨(.error (.notRelative (sourceName name)), scratch), []⟩ := by
  rw [writeSource, resolved_bind_error _ outside]

section Writing

variable {name : String} {names : List String} (below : Files.below? (sourceName name) = some names)
  (content : String)

section Steps

variable {tree made : Folder} (lastError : String) (limits : Files.Limits)
include below

theorem writeSource_unchecked {error : FileError}
    (checked : Folder.checkPath limits.path (Files.around (sourceName name)) = .error error) :
    (writeSource name content).run ⟨some tree, lastError, limits⟩ =
      ⟨(.error (.notWritten error), ⟨some tree, lastError, limits⟩), []⟩ := by
  rw [writeSource, resolved_bind_run _ below, getThe_bind_run]
  simp only [checked, fault_run]

variable (checked : Folder.checkPath limits.path (Files.around (sourceName name)) = .ok ())
include checked

theorem writeSource_unmade {error : FileError}
    (stopped : tree.makeFolders [] names.dropLast = (.error error, made)) :
    (writeSource name content).run ⟨some tree, lastError, limits⟩ =
      ⟨(.error (.notWritten error), ⟨some made, lastError, limits⟩), []⟩ := by
  rw [writeSource, resolved_bind_run _ below, getThe_bind_run]
  simp only [checked, stopped, change_bind_run, fault_run]

theorem writeSource_made (done : tree.makeFolders [] names.dropLast = (.ok (), made)) :
    (writeSource name content).run ⟨some tree, lastError, limits⟩ =
      match made.writeBytes [] (sourceName name) (Text.bytesOf content) limits.path with
      | .error error => ⟨(.error (.notWritten error), ⟨some made, lastError, limits⟩), []⟩
      | .ok written => ⟨(.ok (), ⟨some written, lastError, limits⟩), []⟩ := by
  rw [writeSource, resolved_bind_run _ below, getThe_bind_run]
  simp only [checked, done, change_bind_run]
  cases made.writeBytes [] (sourceName name) (Text.bytesOf content) limits.path <;> rfl

end Steps

include below

/-- Writing the source into a cleared directory makes its tree.  If it cannot be written, then at
most the directories are made that it would stand in. -/
theorem writeSource_run (ground : Ground) :
    (∃ error made, made <+: names.dropLast ∧ ¬ ground.Takes name ∧ ∀ lastError,
      (writeSource name content).run (ground.cleared lastError) =
        ⟨(.error (.notWritten error),
          ⟨some (.chain ground.standing made), lastError, ground.limits⟩), []⟩) ∨
    ∀ lastError, (writeSource name content).run (ground.cleared lastError) =
      ⟨(.ok (), ⟨some (sourceTree ground.standing names content), lastError, ground.limits⟩),
        []⟩ := by
  obtain ⟨standing, limits⟩ := ground
  simp only [Ground.cleared, ← Folder.chain_nil]
  cases checked : Folder.checkPath limits.path (Files.around (sourceName name)) with
  | error error =>
      left
      refine ⟨error, [], List.nil_prefix, ?_, fun lastError =>
        writeSource_unchecked below content lastError limits checked⟩
      rintro ⟨-, fits⟩
      rw [fits.checkPath_around] at checked
      cases checked
  | ok =>
      have leads : ∀ parent ∈ names.dropLast, ∀ start,
          Files.LeadsTo start parent (start ++ [parent]) :=
        fun parent member => Files.leadsTo_of_mem below (List.mem_of_mem_dropLast member)
      rcases Folder.makeFolders_chain standing [] leads with
        made | ⟨error, made, short, unfit, stopped⟩
      · have sourceMade (lastError : String) :=
          writeSource_made below content lastError limits checked made
        obtain ⟨parents, last, rfl, -⟩ := names_of_below? below
        rw [List.nil_append, List.dropLast_concat] at sourceMade
        have place : Files.LeadsTo [] (sourceName name) (parents ++ [last ++ ".dsp"]) :=
          Files.leadsTo_of_below? sourceSuffix_ending below
        have vacant := Folder.vacant_chain standing parents (last ++ ".dsp")
        rcases Folder.writeBytes_vacant vacant place (Text.bytesOf content) limits.path with
          written | ⟨error, stopped, unfit⟩
        · right
          intro lastError
          rw [sourceMade, written, ← Folder.single_eq_put, sourceTree]
        · left
          refine ⟨error, parents, ?_, ?_, ?_⟩
          · rw [List.dropLast_concat]
          · rintro ⟨free, fits⟩
            exact unfit ⟨fits, Folder.admits_chain standing parents free _⟩
          · intro lastError
            rw [sourceMade, stopped]
      · left
        refine ⟨error, made, short, ?_, fun lastError =>
          writeSource_unmade below content lastError limits checked stopped⟩
        rintro ⟨free, fits⟩
        exact unfit ⟨free, fun parent member => fits.of_mem below (List.mem_of_mem_dropLast member)⟩

end Writing

section Execution

variable {program : Program} {name command : String} (scratch : Scratch)

theorem execute_error {error : StartError}
    (started : program.start (commandArguments command name)
      (scratch.folder.getD Folder.empty) = .error error) :
    (execute program name command).run scratch =
      ⟨(.error (.notStarted program.name error), scratch), [.running program.name command]⟩ := by
  rw [execute, tell_bind_run, getThe_bind_run]
  simp only [started, fault_run]

theorem execute_succeeded {run : Run}
    (started : program.start (commandArguments command name)
      (scratch.folder.getD Folder.empty) = .ok run)
    (succeeded : run.succeeded = true) :
    (execute program name command).run scratch =
      ⟨(.ok true, { scratch with folder := run.folder }), [.running program.name command]⟩ := by
  rw [execute, tell_bind_run, getThe_bind_run]
  simp only [started, change_bind_run, succeeded, if_true, pure_run]

theorem execute_refused {run : Run}
    (started : program.start (commandArguments command name)
      (scratch.folder.getD Folder.empty) = .ok run)
    (refused : run.succeeded = false) :
    (execute program name command).run scratch =
      ⟨(.ok false,
          ⟨run.folder, Text.trim (Text.Utf8.decodeLossy run.diagnostics), scratch.limits⟩),
        [.running program.name command]⟩ := by
  rw [execute, tell_bind_run, getThe_bind_run]
  simp only [started, change_bind_run, refused, Bool.false_eq_true, if_false, pure_run]

end Execution

/-- Settling the descriptor only fails when the file cannot be renamed. -/
theorem settle_run {name : String} {names : List String} (limits : Files.Limits)
    (folder : Option Folder) (below : Files.below? (sourceName name) = some names) :
    (∃ tree error, folder = some tree ∧ tree.has [] (sidecarName name) limits.path = true ∧
      tree.rename [] (sidecarName name) (descriptorName name) limits.path = .error error ∧
      ∀ lastError, (settle name).run ⟨folder, lastError, limits⟩ =
        ⟨(.error (.notRenamed error), ⟨folder, lastError, limits⟩), []⟩) ∨
    ∃ remains, Settled limits.path name folder remains ∧ ∀ lastError,
      (settle name).run ⟨folder, lastError, limits⟩ =
        ⟨(.ok (), ⟨remains, lastError, limits⟩), []⟩ := by
  obtain ⟨parents, last, rfl, beside⟩ := names_of_below? below
  have sidecar := beside ".dsp.json" sidecarSuffix_ending
  have descriptor := beside ".json" descriptorSuffix_ending
  rw [← sidecarName_eq] at sidecar
  rw [← descriptorName] at descriptor
  cases folder with
  | none =>
      right
      refine ⟨none, .gone, ?_⟩
      intro lastError
      rw [settle, resolved_bind_run _ sidecar, getThe_bind_run, pure_run]
  | some tree =>
      cases present : tree.has [] (sidecarName name) limits.path with
      | false =>
          right
          refine ⟨some tree, .kept present, ?_⟩
          intro lastError
          rw [settle, resolved_bind_run _ sidecar, getThe_bind_run]
          simp only [present, Bool.false_eq_true, if_false, pure_run]
      | true =>
          cases moved : tree.rename [] (sidecarName name) (descriptorName name) limits.path with
          | error error =>
              left
              refine ⟨tree, error, rfl, present, moved, ?_⟩
              intro lastError
              rw [settle, resolved_bind_run _ sidecar, getThe_bind_run]
              simp only [present, if_true, resolved_bind_run _ descriptor, moved, fault_run]
          | ok settled =>
              right
              refine ⟨some settled, .renamed present moved, ?_⟩
              intro lastError
              rw [settle, resolved_bind_run _ sidecar, getThe_bind_run]
              simp only [present, if_true, resolved_bind_run _ descriptor, moved, change_run]

/-! ## Whole units -/

/-- Translate a unit in a directory that has been cleared. -/
def translate (program : Program) (name content command : String) : Attempt Bool := do
  writeSource name content
  if ← execute program name command then
    settle name
    change fun scratch => { scratch with lastError := "" }
    pure true
  else pure false

section Units

variable (program : Program) (ground : Ground) (name content command : String)

/-- What becomes of a unit once its source has been written. -/
theorem translate_written {names : List String}
    (below : Files.below? (sourceName name) = some names)
    (written : ∀ lastError, (writeSource name content).run (ground.cleared lastError) =
      ⟨(.ok (), ⟨some (sourceTree ground.standing names content), lastError, ground.limits⟩),
        []⟩) :
    ∃ result remains events,
      Generation program ground name content command result remains events ∧
      ∀ lastError, ∃ reported,
        (translate program name content command).run (ground.cleared lastError) =
          ⟨(result, ⟨remains, reported, ground.limits⟩), events⟩ := by
  cases started : program.start (commandArguments command name)
    (sourceTree ground.standing names content) with
  | error error =>
      refine ⟨_, _, _, .notStarted below started, ?_⟩
      intro lastError
      refine ⟨lastError, ?_⟩
      rw [translate, run_bind_ok _ (written lastError),
        run_bind_error _ (execute_error
          ⟨some (sourceTree ground.standing names content), _, ground.limits⟩ started)]
      rfl
  | ok run =>
      cases succeeded : run.succeeded with
      | false =>
          refine ⟨_, _, _, .refused below started succeeded, ?_⟩
          intro lastError
          refine ⟨Text.trim (Text.Utf8.decodeLossy run.diagnostics), ?_⟩
          rw [translate, run_bind_ok _ (written lastError),
            run_bind_ok _ (execute_refused
              ⟨some (sourceTree ground.standing names content), _, ground.limits⟩ started
              succeeded)]
          rfl
      | true =>
          have executed (lastError : String) := execute_succeeded
            ⟨some (sourceTree ground.standing names content), lastError, ground.limits⟩ started
            succeeded
          rcases settle_run ground.limits run.folder below with
            ⟨tree, error, left, present, moved, stopped⟩ | ⟨remains, settled, done⟩
          · refine ⟨_, _, _, .notRenamed below started succeeded left present moved, ?_⟩
            intro lastError
            refine ⟨lastError, ?_⟩
            rw [translate, run_bind_ok _ (written lastError), run_bind_ok _ (executed lastError),
              if_pos rfl, run_bind_error _ (stopped lastError), left]
            rfl
          · refine ⟨_, _, _, .generated below started succeeded settled, ?_⟩
            intro lastError
            refine ⟨"", ?_⟩
            rw [translate, run_bind_ok _ (written lastError), run_bind_ok _ (executed lastError),
              if_pos rfl, run_bind_ok _ (done lastError)]
            rfl

theorem translate_run :
    ∃ result remains events,
      Generation program ground name content command result remains events ∧
      ∀ lastError, ∃ reported,
        (translate program name content command).run (ground.cleared lastError) =
          ⟨(result, ⟨remains, reported, ground.limits⟩), events⟩ := by
  cases below : Files.below? (sourceName name) with
  | none =>
      refine ⟨_, _, _, .notRelative below, ?_⟩
      intro lastError
      refine ⟨lastError, ?_⟩
      rw [translate, run_bind_error _ (writeSource_outside below content _)]
      rfl
  | some names =>
      rcases writeSource_run below content ground with ⟨error, made, short, untaken, stopped⟩ |
        written
      · refine ⟨_, _, _, .notWritten error below short untaken, ?_⟩
        intro lastError
        refine ⟨lastError, ?_⟩
        rw [translate, run_bind_error _ (stopped lastError)]
      · exact translate_written program ground name content command below written

/-- A unit begins with clearing the directory. -/
theorem generate_of_cleared {scratch next : Scratch}
    (cleared : clear scratch = ⟨(.ok (), next), []⟩) :
    (generate program name content command).run scratch =
      (translate program name content command).run next := by
  have lifted : (ExceptT.lift clear : Attempt _).run scratch = ⟨(.ok (.ok ()), next), []⟩ := by
    rw [run_lift, cleared]
  rw [generate, run_bind_ok _ lifted, List.nil_append]
  rfl

theorem generate_of_uncleared {scratch next : Scratch} {error : FileError}
    (stopped : clear scratch = ⟨(.error error, next), []⟩) :
    (generate program name content command).run scratch =
      ⟨(.error (.notCleared error), next), []⟩ := by
  have lifted : (ExceptT.lift clear : Attempt _).run scratch =
      ⟨(.ok (.error error), next), []⟩ := by
    rw [run_lift, stopped]
  rw [generate, run_bind_ok _ lifted]
  rfl

variable {ground} {scratch : Scratch}

/-- What becomes of a unit only depends on the ground that clearing leaves. -/
theorem generate_of_clears (clears : scratch.Clears ground) :
    (generate program name content command).run scratch =
      (translate program name content command).run (ground.cleared scratch.lastError) :=
  generate_of_cleared program name content command (clear_of_clears clears)

theorem generate_alike {other : Scratch} (clears : scratch.Clears ground)
    (clearsToo : other.Clears ground) :
    let one := (generate program name content command).run scratch
    let two := (generate program name content command).run other
    one.value.1 = two.value.1 ∧ one.value.2.folder = two.value.2.folder ∧
      one.events = two.events ∧
      Generation program ground name content command one.value.1 one.value.2.folder one.events := by
  obtain ⟨result, remains, events, generation, run⟩ :=
    translate_run program ground name content command
  obtain ⟨reported, one⟩ := run scratch.lastError
  obtain ⟨reported', two⟩ := run other.lastError
  dsimp only
  rw [generate_of_clears _ _ _ _ clears, generate_of_clears _ _ _ _ clearsToo, one, two]
  exact ⟨rfl, rfl, rfl, generation⟩

theorem generate_limits (clears : scratch.Clears ground) :
    ((generate program name content command).run scratch).value.2.limits = ground.limits := by
  obtain ⟨result, remains, events, -, run⟩ := translate_run program ground name content command
  obtain ⟨reported, done⟩ := run scratch.lastError
  rw [generate_of_clears _ _ _ _ clears, done]

/-- In a directory that cannot be cleared nothing becomes of a unit, and the directory stays such a
one. -/
theorem generate_stuck (stuck : ¬ scratch.Clearable) :
    ∃ error next, clear scratch = ⟨(.error error, next), []⟩ ∧ ¬ next.Clearable ∧
      (generate program name content command).run scratch =
        ⟨(.error (.notCleared error), next), []⟩ := by
  obtain ⟨error, next, stopped, -⟩ := clear_of_not_clearable stuck
  refine ⟨error, next, stopped, ?_, generate_of_uncleared program name content command stopped⟩
  rwa [← clearable_clear_iff, stopped] at stuck

/-- A unit faults because the directory cannot be cleared just when it cannot. -/
theorem generate_notCleared_iff (scratch : Scratch) :
    (∃ error, ((generate program name content command).run scratch).value.1 =
      .error (.notCleared error)) ↔ ¬ scratch.Clearable := by
  constructor
  · rintro ⟨error, faulted⟩ ⟨ground, clears⟩
    obtain ⟨-, -, -, generation⟩ := generate_alike program name content command clears clears
    rw [faulted] at generation
    cases generation
  · intro stuck
    obtain ⟨error, next, -, -, stopped⟩ := generate_stuck program name content command stuck
    exact ⟨error, by rw [stopped]⟩

/-- Where the directory can be cleared a unit goes one of its ways, and elsewhere it ends at once. -/
theorem generate_ways (scratch : Scratch) :
    let ran := (generate program name content command).run scratch
    (∃ error next, ran = ⟨(.error (.notCleared error), next), []⟩) ∨
      ∃ ground, scratch.Clears ground ∧
        Generation program ground name content command ran.value.1 ran.value.2.folder
          ran.events := by
  by_cases clearable : scratch.Clearable
  · obtain ⟨ground, clears⟩ := clearable
    obtain ⟨-, -, -, generation⟩ := generate_alike program name content command clears clears
    exact .inr ⟨ground, clears, generation⟩
  · obtain ⟨error, next, -, -, stopped⟩ := generate_stuck program name content command clearable
    exact .inl ⟨error, next, stopped⟩

end Units

end Scratch
end DspBridge
