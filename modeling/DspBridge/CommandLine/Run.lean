import DspBridge.CommandLine.Arguments
import DspBridge.Compiler.Scratch
import DspBridge.Host.Session
import DspBridge.Settings.Reader

/-!
# Running a command line

What an invocation does, as a function of its surroundings: the files it can read, the paths it can
write, what arrives on its input, and the programs that can be started. All that it leaves behind is
an outcome: its output, the files it has written, the events it has reported, and the problem that
ended it, if there was one.

Words, paths and the names in them are texts, so those that are not UTF-8 are left out. The output
takes all that is written to it; how a session ends on one that does not is the business of channels.
-/

namespace DspBridge.CommandLine

open Files (FileError)

/-- What ends an invocation early. -/
inductive Problem where
  | file (error : FileError)
  | scratch (refusal : ScratchRefusal)
  | channel (failure : String)
  | settings (error : Settings.Error)
  | notSource (path : String)
  | descriptor (error : Descriptor.Error)
  | compile (error : CompileError)
  deriving Repr

/-- The wording of a problem. -/
def Problem.message : Problem → String
  | .file error => s!"i/o error: {error.message}"
  | .scratch refusal => s!"i/o error: {refusal.message}"
  | .channel failure => s!"i/o error: {failure}"
  | .settings error => s!"config error: {error.message}"
  | .notSource path => s!"config error: {path} is not a .dsp file"
  | .descriptor error => error.message
  | .compile error => s!"compile failed: {error.message}"

/-- What surrounds an invocation. -/
structure Surroundings where
  /-- The settings file in the home directory. -/
  homeSettings : Except FileError String
  /-- The text of the file that a path leads to. -/
  readText : (path : String) → Except FileError String
  /-- Whether a file can be written where a path leads. -/
  checkWrite : (path : String) → Except FileError Unit
  /-- The bytes that arrive from the host. -/
  input : List UInt8
  /-- The scratch directory, if one can be made. -/
  scratch : Except ScratchRefusal Scratch
  /-- The program of a name. -/
  program : (name : String) → Program
  /-- What the parser of settings says about a text that it does not take; nothing, unless its
  wording is given. -/
  complain : (text : String) → String := fun _ => ""

/-- What an invocation leaves behind while it runs. -/
structure Trail where
  output : List UInt8
  /-- The files that have been written, with what they hold. -/
  written : List (String × List UInt8)
  deriving DecidableEq, Repr

/-- The name of this program and its own version. -/
def ownVersion : String := "faust-cmaj 0.1.0"

/-- Actions that a problem ends. -/
abbrev Deed (α : Type) := ExceptT Problem (Action Trail) α

namespace Deed

/-- The value of something that can go wrong. -/
def ofExcept {ε α : Type} (problem : ε → Problem) (result : Except ε α) : Deed α :=
  match result with
  | .ok value => pure value
  | .error error => throw (problem error)

/-- Write to the output. -/
def put (bytes : List UInt8) : Deed Unit :=
  ExceptT.lift (modify fun trail => { trail with output := trail.output ++ bytes })

/-- Write a line to the output. -/
def putLine (text : String) : Deed Unit := put (Text.bytesOf (text ++ "\n"))

/-- Write a file. -/
def writeFile (path : String) (content : List UInt8) : Deed Unit :=
  ExceptT.lift (modify fun trail => { trail with written := trail.written ++ [(path, content)] })

/-- Report an event. -/
def tell (event : Event) : Deed Unit := ExceptT.lift (report event)

/-- An action on a state that begins with some value, and the state it ends in. -/
def within {σ α : Type} (state : σ) (action : Action σ α) : Deed (α × σ) :=
  ExceptT.lift fun trail =>
    let result := action state
    ⟨(result.value, trail), result.events⟩

end Deed

/-- The settings in force: those of a file that was named, which then have to be good, or those of
the home directory, or else the standard ones. -/
def baseSettings (surroundings : Surroundings) (file? : Option String) :
    Except Settings.Error Settings :=
  match file? with
  | some path => Settings.ofFile path (surroundings.readText path) surroundings.complain
  | none =>
      match Settings.ofFile Settings.homePath surroundings.homeSettings surroundings.complain with
      | .ok settings => .ok settings
      | .error _ => .ok .standard

/-- The settings of an invocation: what is given on the command line comes on top. -/
def effectiveSettings (surroundings : Surroundings) (invocation : Invocation) :
    Except Settings.Error Settings := do
  let base ← baseSettings surroundings invocation.settingsFile?
  .ok { base with
    program := invocation.program?.getD base.program
    includeDirs := base.includeDirs ++ invocation.includeDirs }

/-- A compiler with some settings. -/
def makeCompiler (surroundings : Surroundings) (settings : Settings) : Deed (Compiler Scratch) := do
  let scratch ← Deed.ofExcept .scratch surroundings.scratch
  pure (.new scratch settings.includeDirs)

/-- The backend with some settings. -/
def backendOf (surroundings : Surroundings) (settings : Settings) : Backend Scratch :=
  Scratch.backend (surroundings.program settings.program)

/-- A session that is about to begin. -/
def openSession (surroundings : Surroundings) (settings : Settings) :
    Deed (Host.Session Scratch) := do
  let compiler ← makeCompiler surroundings settings
  Deed.tell (.serving (surroundings.program settings.program).version)
  let transformer : Transformer Scratch :=
    { Transformer.new compiler with
      flags := settings.flags
      logDeclarations := settings.logDeclarations }
  pure ⟨transformer, Host.Sink.new none none⟩

/-- Serve the host. -/
def serve (surroundings : Surroundings) (settings : Settings) : Deed Unit := do
  let session ← openSession surroundings settings
  let (result, session) ← Deed.within session
    (Host.Session.run (backendOf surroundings settings) ⟨surroundings.input, none⟩).run
  Deed.put session.sink.sent
  let _ ← Deed.ofExcept .channel result

/-- Report the declarations of a descriptor, or why it has none. -/
def tellDeclarations (descriptor : String) : Deed Unit :=
  match declarationsOf descriptor with
  | .ok lines => lines.forM fun line => Deed.tell (.declarationPrinted line)
  | .error error => Deed.tell (.declarationsNotPrinted error)

/-- Write a translated module to a file, or else to the output. -/
def deliver (surroundings : Surroundings) (output? : Option String) (translated : String) :
    Deed Unit := do
  let content := Text.bytesOf translated
  match output? with
  | none => Deed.put content
  | some path => do
      Deed.ofExcept .file (surroundings.checkWrite path)
      Deed.writeFile path content

/-- Compile one file. -/
def compileFile (surroundings : Surroundings) (settings : Settings) (file : String)
    (flags? output? : Option String) : Deed Unit := do
  match unitName? ((Files.fileName? file).getD "") with
  | none => throw (.notSource file)
  | some name => do
      let content ← Deed.ofExcept .file (surroundings.readText file)
      let compiler ← makeCompiler surroundings settings
      let (result, _) ← Deed.within compiler
        (Compiler.compile (backendOf surroundings settings) name content
          (flags?.getD settings.flags))
      let output ← Deed.ofExcept .compile result
      if settings.logDeclarations then tellDeclarations output.descriptor
      deliver surroundings output? output.translated

/-- Print the declarations of a descriptor file. -/
def printDeclarations (surroundings : Surroundings) (file : String) : Deed Unit := do
  let text ← Deed.ofExcept .file (surroundings.readText file)
  let lines ← Deed.ofExcept .descriptor (declarationsOf text)
  lines.forM Deed.putLine

/-- Print the versions of this program and of the compiler. -/
def printVersion (surroundings : Surroundings) (settings : Settings) : Deed Unit := do
  let compiler ← makeCompiler surroundings settings
  Deed.putLine ownVersion
  let (version, _) ← Deed.within compiler (Compiler.version (backendOf surroundings settings))
  Deed.putLine s!"faust {version}"

/-- Do what an invocation asks for. -/
def perform (surroundings : Surroundings) (invocation : Invocation) : Deed Unit := do
  let settings ← Deed.ofExcept .settings (effectiveSettings surroundings invocation)
  match invocation.task with
  | .serve => serve surroundings settings
  | .compile file flags? output? => compileFile surroundings settings file flags? output?
  | .declarations file => printDeclarations surroundings file
  | .version => printVersion surroundings settings

/-- What an invocation leaves behind. -/
structure Outcome where
  trail : Trail
  events : List Event
  problem? : Option Problem
  deriving Repr

/-- Run an invocation to its end. -/
def run (surroundings : Surroundings) (invocation : Invocation) : Outcome :=
  let result := (perform surroundings invocation).run ⟨[], []⟩
  let problem? := match result.value.1 with
    | .ok () => none
    | .error problem => some problem
  ⟨result.value.2, result.events, problem?⟩

/-- The exit status of an outcome. -/
def Outcome.status (outcome : Outcome) : Nat := if outcome.problem?.isSome then 1 else 0

/-- The exit status of a command line that makes no sense. -/
def usageStatus : Nat := 2

/-- The last line of the diagnostics, if a problem has ended the invocation. -/
def Outcome.complaint? (outcome : Outcome) : Option String :=
  outcome.problem?.map fun problem => s!"faust-cmaj: {problem.message}"

end DspBridge.CommandLine
