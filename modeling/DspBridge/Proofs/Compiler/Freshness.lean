import DspBridge.Proofs.Compiler.Generation
import DspBridge.Proofs.Compiler.Journal

/-!
# Outputs are fresh

A job that succeeds has an output that its own run of the program has written.  None of it can have
been left by an earlier job: before the program is started nothing stands where the output is read
from, and compilers whose directories held different things get the same output.  This is so because
all that the directories held has been removed, so it takes directories whose contents can be
removed, and that stand alike themselves.
-/

namespace DspBridge

open Files (Folder Ending Standing)

namespace Scratch

/-! ## Outputs -/

/-- An output that consists of files left by the program when it was started for the job, or of what
stands where links lead that it has left.  Before it was started, nothing stood in the places that
the files are read from. -/
inductive WrittenBy (program : Program) (ground : Ground) (directories : List String) (job : Job)
    (output : Output) : Prop where
  | run {names : List String} {run : Run} {remains : Folder} :
      Files.below? (sourceName job.name) = some names →
      (∀ artifact ∈ [moduleName job.name, descriptorName job.name, sidecarName job.name],
        (sourceTree ground.standing names job.content).has [] artifact ground.limits.path =
          false) →
      program.start (commandArguments (Compiler.commandFor directories job) job.name)
        (sourceTree ground.standing names job.content) = .ok run →
      run.succeeded = true →
      Settled ground.limits.path job.name run.folder (some remains) →
      remains.readText [] (moduleName job.name) ground.limits.path = .ok output.translated →
      remains.readText [] (descriptorName job.name) ground.limits.path = .ok output.descriptor →
      WrittenBy program ground directories job output

/-- The places of artifacts are vacant when a program is started. -/
theorem has_sourceTree (standing : Standing) {name suffix : String} {names : List String}
    (content : String) (below : Files.below? (sourceName name) = some names)
    (ending : Ending suffix) (other : suffix ≠ ".dsp") (limit : Nat) :
    (sourceTree standing names content).has [] (name ++ suffix) limit = false := by
  obtain ⟨parents, last, rfl, beside⟩ := names_of_below? below
  have apart : last ++ suffix ≠ last ++ ".dsp" := by
    rw [ne_eq, String.append_right_inj]
    exact other
  have vacant := Folder.vacant_single standing parents apart (Text.bytesOf content)
  exact Folder.has_vacant vacant (Files.leadsTo_of_below? ending (beside suffix ending)) limit

theorem artifacts_absent (standing : Standing) {name : String} {names : List String}
    (content : String) (below : Files.below? (sourceName name) = some names) (limit : Nat) :
    ∀ artifact ∈ [moduleName name, descriptorName name, sidecarName name],
      (sourceTree standing names content).has [] artifact limit = false := by
  intro artifact member
  obtain ⟨suffix, ending, other, rfl⟩ := ending_of_artifact member
  exact has_sourceTree standing content below ending other limit

theorem read_eq_ok_iff {path text : String} {scratch : Scratch} {names : List String}
    (below : Files.below? path = some names) :
    scratch.read path = .ok text ↔
      ∃ tree, scratch.folder = some tree ∧
        tree.readText [] path scratch.limits.path = .ok text := by
  rw [read, resolve, below]
  cases scratch.folder with
  | none => simp
  | some tree =>
      cases reading : tree.readText [] path scratch.limits.path <;>
        simp [reading, Except.mapError]

/-- A file below the directory that is not read is missing, or is no text. -/
theorem notRead_of_read {path : String} {names : List String} {scratch : Scratch}
    {raised : ScratchFault} (below : Files.below? path = some names)
    (unread : scratch.read path = .error raised) : ∃ error, raised = .notRead path error := by
  rw [read, resolve, below] at unread
  dsimp only at unread
  cases folder : scratch.folder with
  | none =>
      rw [folder] at unread
      exact ⟨.notFound, (Except.error.inj unread).symm⟩
  | some tree =>
      rw [folder] at unread
      dsimp only at unread
      cases text : tree.readText [] path scratch.limits.path with
      | ok text =>
          rw [text] at unread
          cases unread
      | error error =>
          rw [text] at unread
          exact ⟨error, (Except.error.inj unread).symm⟩

theorem mapError_eq_ok_iff {ε δ α : Type} {change : ε → δ} {result : Except ε α} {value : α} :
    result.mapError change = .ok value ↔ result = .ok value := by
  cases result <;> simp [Except.mapError]

theorem backend_generate_value (program : Program) (name content command : String)
    (scratch : Scratch) :
    ((backend program).generate name content command scratch).value =
      (((generate program name content command).run scratch).value.1.mapError ScratchFault.toFault,
        ((generate program name content command).run scratch).value.2) := rfl

theorem backend_read_value (program : Program) (path : String) (scratch : Scratch) :
    ((backend program).read path scratch).value =
      ((scratch.read path).mapError ScratchFault.toFault, scratch) := rfl

/-- A job succeeds just when its unit is translated and both of its files are left. -/
theorem perform_eq_ok_iff {program : Program} {job : Job} {compiler : Compiler Scratch}
    {output : Output} :
    let ran := (generate program job.name job.content
      (Compiler.commandFor compiler.includeDirs job)).run compiler.backend
    (Compiler.perform (backend program) job compiler).value.1 = .ok output ↔
      job.name ≠ "" ∧ ran.value.1 = .ok true ∧
        ran.value.2.read (moduleName job.name) = .ok output.translated ∧
        ran.value.2.read (descriptorName job.name) = .ok output.descriptor := by
  dsimp only
  rw [Compiler.perform_eq_ok_iff, Compiler.produce_eq_ok_iff]
  simp only [backend_generate_value, backend_read_value, Prod.mk.injEq, mapError_eq_ok_iff]
  constructor
  · rintro ⟨named, _, _, ⟨generated, rfl⟩, ⟨translated, rfl⟩, described⟩
    exact ⟨named, generated, translated, described⟩
  · rintro ⟨named, generated, translated, described⟩
    exact ⟨named, _, _, ⟨generated, rfl⟩, ⟨translated, rfl⟩, described⟩

theorem read_alike {first second : Scratch} (same : first.folder = second.folder)
    (limits : first.limits = second.limits) (path : String) :
    first.read path = second.read path := by
  rw [read, read, same, limits]

theorem writtenBy_of_generation {program : Program} {ground : Ground} {directories : List String}
    {job : Job} {output : Output} {next : Scratch} {events : List Event}
    (generation : Generation program ground job.name job.content
      (Compiler.commandFor directories job) (.ok true) next.folder events)
    (limits : next.limits = ground.limits)
    (translated : next.read (moduleName job.name) = .ok output.translated)
    (described : next.read (descriptorName job.name) = .ok output.descriptor) :
    WrittenBy program ground directories job output := by
  generalize remains : next.folder = folder at generation
  cases generation with
  | generated below started succeeded settled =>
      obtain ⟨parents, last, -, beside⟩ := names_of_below? below
      have moduleBelow := beside ".cmajor" moduleSuffix_ending
      have descriptorBelow := beside ".json" descriptorSuffix_ending
      rw [← moduleName] at moduleBelow
      rw [← descriptorName] at descriptorBelow
      obtain ⟨tree, left, readModule⟩ := (read_eq_ok_iff moduleBelow).mp translated
      obtain ⟨tree', left', readDescriptor⟩ := (read_eq_ok_iff descriptorBelow).mp described
      rw [left, Option.some.injEq] at left'
      rw [← left', limits] at readDescriptor
      rw [limits] at readModule
      rw [← remains, left] at settled
      exact .run below (artifacts_absent ground.standing job.content below ground.limits.path)
        started succeeded settled readModule readDescriptor

/-- A program that leaves a module and a descriptor for the unit `a`, and names the descriptor after
the source file. -/
def translator : Program :=
  ⟨"faust", fun _ tree =>
    .ok ⟨some ((tree.put ["a.cmajor"] (.file [110])).put ["a.dsp.json"] (.file [123, 125])), true,
      [], []⟩⟩

/-- A compiler whose directory still holds a descriptor of an earlier unit `a`, and a directory under
the name of its module. -/
def cluttered : Compiler Scratch :=
  ⟨⟨some ⟨[(["a.json"], .file [91]), (["a.cmajor"], .folder), (["a.cmajor", "old"], .file [111]),
    (["a.cmajor", "loop"], .link "loop")]⟩, "no process", {}⟩, [], none⟩

end Scratch
end DspBridge
