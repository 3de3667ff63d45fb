import DspBridge.Proofs.Compiler.Freshness
import DspBridge.Proofs.Files.Inside

/-!
# Nothing outside the scratch directory

Every path that the backend of a compiler program is given is resolved before it is used, and the
files of a unit are resolved alike.  What the backend does with files is stated here for any disk in
the place of the real one.  A disk may report whatever it is asked for, so it can also tell of a path
whose answer makes no difference; but a disk that is like the real one for the paths that lead inside
the directory makes the same backend, so no other path is ever handed to it.
-/

namespace DspBridge

open Files (FileError Folder Inside Inward Ordinary)

/-! ## Disks -/

/-- What can be done with the files of a directory, by paths from there that may have so many bytes,
and what is reported meanwhile. -/
structure Disk where
  makeFolders : Folder → List String → Traced (Except FileError Unit × Folder)
  writeBytes : (limit : Nat) → Folder → String → List UInt8 → Traced (Except FileError Folder)
  has : (limit : Nat) → Folder → String → Traced Bool
  rename : (limit : Nat) → Folder → (source target : String) → Traced (Except FileError Folder)
  readText : (limit : Nat) → Folder → String → Traced (Except FileError String)

namespace Disk

/-- The disk that a backend works on, which reports nothing. -/
def real : Disk where
  makeFolders folder names := pure (folder.makeFolders [] names)
  writeBytes limit folder path content := pure (folder.writeBytes [] path content limit)
  has limit folder path := pure (folder.has [] path limit)
  rename limit folder source target := pure (folder.rename [] source target limit)
  readText limit folder path := pure (folder.readText [] path limit)

/-- A disk that is like the real one inside the directory, and may do and report anything for the
paths that lead out of it. -/
structure AgreesInside (disk : Disk) : Prop where
  makeFolders (folder : Folder) {names : List String} : (∀ name ∈ names, Ordinary name) →
    disk.makeFolders folder names = real.makeFolders folder names
  writeBytes (limit : Nat) (folder : Folder) {path : String} {names : List String}
    (content : List UInt8) : Inside path names →
      disk.writeBytes limit folder path content = real.writeBytes limit folder path content
  has (limit : Nat) (folder : Folder) {path : String} {names : List String} :
    Inside path names → disk.has limit folder path = real.has limit folder path
  rename (limit : Nat) (folder : Folder) {source target : String} {names others : List String} :
    Inside source names → Inside target others →
      disk.rename limit folder source target = real.rename limit folder source target
  readText (limit : Nat) (folder : Folder) {path : String} {names : List String} :
    Inside path names → disk.readText limit folder path = real.readText limit folder path

end Disk

namespace Scratch

/-! ## Resolved paths -/

/-- A path is resolved just when it is an inward one, to the segments of it that make a
difference. -/
theorem resolve_eq (path : String) :
    resolve path = if Inward path then .ok ((Files.segments path).filter Files.isName)
      else .error (.notRelative path) := by
  rw [resolve, Files.below?_eq]
  by_cases inward : Inward path
  · rw [if_pos inward, if_pos inward]
  · rw [if_neg inward, if_neg inward]

theorem resolve_eq_ok_iff {path : String} {names : List String} :
    resolve path = .ok names ↔ Inside path names := by
  rw [← Files.below?_eq_some_iff_inside, resolve]
  cases Files.below? path with
  | none => simp
  | some names => simp

/-- The files of a unit are resolved, or none of them is. -/
theorem resolve_artifact (name : String) :
    ∀ artifact ∈ [moduleName name, descriptorName name, sidecarName name],
      (resolve artifact).isOk = (resolve (sourceName name)).isOk := by
  intro artifact member
  obtain ⟨suffix, ending, -, rfl⟩ := ending_of_artifact member
  rw [sourceName, resolve, resolve]
  rcases Files.below?_append name with ⟨parents, last, beside⟩ | outside
  · rw [beside suffix ending, beside sourceSuffix sourceSuffix_ending]
    rfl
  · rw [outside suffix ending, outside sourceSuffix sourceSuffix_ending]
    rfl

/-! ## The backend of a disk -/

/-- What a disk answers. -/
def ask {α : Type} (answer : Traced α) : Attempt α :=
  ExceptT.lift fun scratch => ⟨(answer.value, scratch), answer.events⟩

section Disks

variable (disk : Disk)

/-- Write the source of a unit to a disk. -/
def writeSourceOn (name content : String) : Attempt Unit := do
  let names ← resolved (sourceName name)
  let scratch ← getThe Scratch
  let limit := scratch.limits.path
  match scratch.folder, Folder.checkPath limit (Files.around (sourceName name)) with
  | none, _ => fault (.notWritten .notFound)
  | some _, .error error => fault (.notWritten error)
  | some folder, .ok () =>
      let (made, folder) ← ask (disk.makeFolders folder names.dropLast)
      change fun scratch => { scratch with folder := some folder }
      match made with
      | .error error => fault (.notWritten error)
      | .ok () =>
          match ← ask (disk.writeBytes limit folder (sourceName name) (Text.bytesOf content)) with
          | .error error => fault (.notWritten error)
          | .ok folder => change fun scratch => { scratch with folder := some folder }

/-- Give the descriptor on a disk the name of the unit. -/
def settleOn (name : String) : Attempt Unit := do
  let sidecar := sidecarName name
  let _ ← resolved sidecar
  let scratch ← getThe Scratch
  let limit := scratch.limits.path
  match scratch.folder with
  | none => pure ()
  | some folder =>
      if ← ask (disk.has limit folder sidecar) then
        let _ ← resolved (descriptorName name)
        match ← ask (disk.rename limit folder sidecar (descriptorName name)) with
        | .error error => fault (.notRenamed error)
        | .ok folder => change fun scratch => { scratch with folder := some folder }

/-- Translate a unit on a disk. -/
def generateOn (program : Program) (name content command : String) : Attempt Bool := do
  match ← ExceptT.lift clear with
  | .error error => fault (.notCleared error)
  | .ok () =>
      writeSourceOn disk name content
      if ← execute program name command then
        settleOn disk name
        change fun scratch => { scratch with lastError := "" }
        pure true
      else pure false

/-- The text of a file on a disk. -/
def readOn (path : String) (scratch : Scratch) : Traced (Except ScratchFault String) :=
  match resolve path with
  | .error fault => pure (.error fault)
  | .ok _ =>
      match scratch.folder with
      | none => pure (.error (.notRead path .notFound))
      | some folder => do
          let text ← disk.readText scratch.limits.path folder path
          pure (text.mapError (.notRead path))

/-- The backend of a compiler program on a disk. -/
def backendOn (program : Program) : Backend Scratch where
  generate name content command := do
    let result ← (generateOn disk program name content command).run
    pure (result.mapError ScratchFault.toFault)
  read path := fun scratch => do
    let text ← scratch.readOn disk path
    pure (text.mapError ScratchFault.toFault, scratch)
  lastError := fun scratch => pure (scratch.lastError, scratch)
  reset := reset
  version := pure program.version

end Disks

/-- What follows a path that is resolved may rely on its being inside. -/
theorem resolved_bind_congr {α : Type} {path : String} {first second : List String → Attempt α}
    (same : ∀ names, Inside path names → first names = second names) :
    (resolved path >>= first) = (resolved path >>= second) := by
  rw [resolved]
  cases below : resolve path with
  | error raised => rfl
  | ok names => exact same names (resolve_eq_ok_iff.mp below)

section Agreement

variable {disk : Disk} (agrees : disk.AgreesInside)
include agrees

theorem writeSourceOn_eq (name content : String) :
    writeSourceOn disk name content = writeSourceOn .real name content := by
  rw [writeSourceOn, writeSourceOn]
  apply resolved_bind_congr
  intro names inside
  apply congrArg
  funext scratch
  have parents : ∀ name ∈ names.dropLast, Ordinary name :=
    fun name member => inside.ordinary name (List.mem_of_mem_dropLast member)
  simp only [agrees.makeFolders _ parents, agrees.writeBytes _ _ _ inside]

theorem settleOn_eq (name : String) : settleOn disk name = settleOn .real name := by
  rw [settleOn, settleOn]
  apply resolved_bind_congr
  intro names sidecarInside
  apply congrArg
  funext scratch
  cases scratch.folder with
  | none => rfl
  | some folder =>
      dsimp only
      rw [agrees.has _ folder sidecarInside]
      apply congrArg
      funext present
      cases present with
      | false => rfl
      | true =>
          apply resolved_bind_congr
          intro others descriptorInside
          rw [agrees.rename _ folder sidecarInside descriptorInside]

theorem readOn_eq (path : String) : readOn disk path = readOn .real path := by
  funext scratch
  rw [readOn, readOn]
  cases below : resolve path with
  | error raised => rfl
  | ok names =>
      cases scratch.folder with
      | none => rfl
      | some folder =>
          dsimp only
          rw [agrees.readText _ folder (resolve_eq_ok_iff.mp below)]

theorem backendOn_eq (program : Program) : backendOn disk program = backendOn .real program := by
  rw [backendOn, backendOn]
  simp only [generateOn, writeSourceOn_eq agrees, settleOn_eq agrees, readOn_eq agrees]

end Agreement

theorem generateOn_real (program : Program) (name content command : String) :
    generateOn .real program name content command = generate program name content command := rfl

theorem readOn_real (path : String) (scratch : Scratch) :
    readOn .real path scratch = pure (scratch.read path) := by
  rw [readOn, read]
  cases resolve path with
  | error raised => rfl
  | ok names => cases scratch.folder <;> rfl

theorem backendOn_real (program : Program) : backendOn .real program = backend program := by
  rw [backendOn]
  simp only [generateOn_real, readOn_real]
  rfl

/-! ## Rejected and accepted names -/

/-- A unit that has no place in the directory is given up once this has been cleared, whatever the
disk and the program would do. -/
theorem generateOn_rejected {name : String} {raised : ScratchFault}
    (rejected : resolve (sourceName name) = .error raised) (disk : Disk) (program : Program)
    (content command : String) (scratch : Scratch) :
    (generateOn disk program name content command).run scratch =
      ⟨(.error (match (clear scratch).value.1 with
          | .ok () => raised
          | .error error => .notCleared error), (clear scratch).value.2), []⟩ := by
  have silent := clear_events scratch
  have lifted : (ExceptT.lift clear : Attempt _).run scratch = _ := run_lift clear scratch
  rcases cleared : clear scratch with ⟨⟨result, next⟩, events⟩
  rw [cleared] at silent lifted
  obtain rfl : events = [] := silent
  rw [generateOn, run_bind_ok _ lifted, List.nil_append]
  cases result with
  | error error => rfl
  | ok _ =>
      have stopped : (writeSourceOn disk name content).run next =
          ⟨(.error raised, next), []⟩ := by
        rw [writeSourceOn, resolved, rejected]
        rfl
      dsimp only
      rw [run_bind_error _ stopped]

theorem Generation.accepted {program : Program} {ground : Ground} {name content command : String}
    {names : List String} {result : Except ScratchFault Bool} {remains : Option Folder}
    {events : List Event} (below : Files.below? (sourceName name) = some names)
    (generation : Generation program ground name content command result remains events)
    (path : String) : result ≠ .error (.notRelative path) := by
  rintro rfl
  cases generation with
  | notRelative outside =>
      rw [below] at outside
      cases outside

/-- A unit that has its place there is not given up for a path that leads out of it. -/
theorem generate_accepted {name : String} {names : List String}
    (accepted : resolve (sourceName name) = .ok names) (program : Program)
    (content command : String) (scratch : Scratch) (path : String) :
    ((generate program name content command).run scratch).value.1 ≠ .error (.notRelative path) := by
  have below := Files.below?_eq_some_iff_inside.mpr (resolve_eq_ok_iff.mp accepted)
  rcases generate_ways program name content command scratch with
    ⟨error, next, stopped⟩ | ⟨ground, -, generation⟩
  · rw [stopped]
    exact nofun
  · exact generation.accepted below path

/-- Neither are its files. -/
theorem read_accepted {name artifact : String} {names : List String}
    (accepted : resolve (sourceName name) = .ok names)
    (member : artifact ∈ [moduleName name, descriptorName name, sidecarName name])
    (scratch : Scratch) (path : String) :
    scratch.read artifact ≠ .error (.notRelative path) := by
  have alike := resolve_artifact name artifact member
  rw [accepted] at alike
  cases resolution : resolve artifact with
  | error raised =>
      rw [resolution] at alike
      cases alike
  | ok others =>
      have below := Files.below?_eq_some_iff_inside.mpr (resolve_eq_ok_iff.mp resolution)
      intro refused
      obtain ⟨error, other⟩ := notRead_of_read below refused
      cases other

/-- A path is resolved just when its text keeps it inside the directory, and then it leads there by
ordinary names.  The files of a unit are all resolved or all rejected.  With a rejected name the
disk is not used and the program is not started; with an accepted one no path is rejected later on.
Nothing that a disk does or reports for other paths makes a difference to the backend. -/
theorem stays_inside :
    (∀ path, resolve path = if Inward path then .ok ((Files.segments path).filter Files.isName)
      else .error (.notRelative path)) ∧
    (∀ path names, resolve path = .ok names ↔ Inside path names) ∧
    (∀ name, ∀ artifact ∈ [moduleName name, descriptorName name, sidecarName name],
      (resolve artifact).isOk = (resolve (sourceName name)).isOk) ∧
    (∀ name raised, resolve (sourceName name) = .error raised →
      ∀ program content command,
        (∀ scratch, (generate program name content command).run scratch =
          ⟨(.error (match (clear scratch).value.1 with
              | .ok () => raised
              | .error error => .notCleared error), (clear scratch).value.2), []⟩) ∧
        ∀ disk, generateOn disk program name content command =
          generate program name content command) ∧
    (∀ name names, resolve (sourceName name) = .ok names → ∀ path,
      (∀ program content command scratch,
        ((generate program name content command).run scratch).value.1 ≠
          .error (.notRelative path)) ∧
      ∀ artifact ∈ [moduleName name, descriptorName name, sidecarName name], ∀ scratch : Scratch,
        scratch.read artifact ≠ .error (.notRelative path)) ∧
    ∀ disk : Disk, disk.AgreesInside → ∀ program, backendOn disk program = backend program := by
  refine ⟨resolve_eq, fun path names => resolve_eq_ok_iff, resolve_artifact, ?_, ?_, ?_⟩
  · intro name raised rejected program content command
    constructor
    · intro scratch
      exact generateOn_rejected rejected .real program content command scratch
    · intro disk
      funext scratch
      exact (generateOn_rejected rejected disk program content command scratch).trans
        (generateOn_rejected rejected .real program content command scratch).symm
  · intro name names accepted path
    constructor
    · intro program content command scratch
      exact generate_accepted accepted program content command scratch path
    · intro artifact member scratch
      exact read_accepted accepted member scratch path
  · intro disk agrees program
    rw [backendOn_eq agrees, backendOn_real]

/-- Two dots at the end of a name are no way out, for they get the ending of a file. -/
example : resolve (sourceName "a//./..") = .ok ["a", "...dsp"] := by rfl

end Scratch
end DspBridge
