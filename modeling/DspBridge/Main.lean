import DspBridge.CommandLine.Run
import DspBridge.Log.Console
import DspBridge.Shell.Environment

/-!
# The program

The outermost layer: it reads files, the environment and the input, and writes what the library
answers. A session is served line by line, so that the host gets each answer before it goes on.
Compiler programs are shell scripts, which run in memory. What is wrong with a document of settings
is told in the words of its parser, and here without words: of such a document the command says only
that it is wrong.
-/

namespace DspBridge.Main

open Files (FileError)
open CommandLine (Invocation Outcome Problem Surroundings)

/-- The reason why a file cannot be read or written. -/
def fileError : IO.Error → FileError
  | .permissionDenied _ _ _ => .denied
  | .inappropriateType _ code _ => if code == 20 then .notFolder else .isFolder
  | .alreadyExists _ _ _ => .exists
  | _ => .notFound

/-- Read the text of a file. -/
def readText (path : String) : IO (Except FileError String) := do
  try
    let bytes ← IO.FS.readBinFile path
    match Text.Utf8.decode bytes.toList with
    | .ok text => pure (.ok text)
    | .error _ => pure (.error .notText)
  catch error => pure (.error (fileError error))

/-- Write bytes to a stream. -/
def writeBytes (stream : IO.FS.Stream) (bytes : List UInt8) : IO Unit := do
  stream.write ⟨bytes.toArray⟩
  stream.flush

/-- Write a text to the diagnostics. -/
def complain (text : String) : IO Unit := do
  writeBytes (← IO.getStderr) (Text.bytesOf text)

/-- The filter that the environment asks for. -/
def readFilter : IO Log.Filter := do
  let standard := Log.Filter.upTo .info
  match ← IO.getEnv "RUST_LOG" with
  | none => pure standard
  | some text => pure ((Log.Filter.parse? text).getD standard)

/-- The scripts that can be meant by the name of a program. -/
def findScripts (searchPath : List String) (name : String) : IO (List (String × List UInt8)) := do
  let paths :=
    if name.toList.contains '/' then [name]
    else searchPath.map fun directory => Files.join directory name
  paths.filterMapM fun (path : String) => do
    try
      let bytes ← IO.FS.readBinFile path
      pure (some (path, bytes.toList))
    catch _ => pure none

/-- The paths of files that an invocation may read. -/
def readPaths (invocation : Invocation) : List String :=
  invocation.settingsFile?.toList ++
    match invocation.task with
    | .compile file _ _ | .declarations file => [file]
    | .serve | .version => []

/-- What surrounds an invocation, without its input. -/
def survey (invocation : Invocation) : IO Surroundings := do
  let home := (← IO.getEnv "HOME").getD "/"
  let homeSettings ← readText (Files.join home Settings.homePath)
  let files ← (readPaths invocation).mapM fun path => do pure (path, ← readText path)
  let around := (← IO.getEnv "TMPDIR").getD "/tmp"
  let searchPath := ((← IO.getEnv "PATH").getD "").splitOn ":"
  let surroundings (scripts : List (String × List UInt8)) : Surroundings :=
    { homeSettings
      readText := fun path => (files.lookup path).getD (.error .notFound)
      checkWrite := fun _ => .ok ()
      input := []
      scratch := .ok .new
      program := Shell.Environment.program ⟨scripts, searchPath, Files.join around "faust-cmaj"⟩ }
  match CommandLine.effectiveSettings (surroundings []) invocation with
  | .error _ => pure (surroundings [])
  | .ok settings => pure (surroundings (← findScripts searchPath settings.program))

/-- Read a line with its end, as bytes; nothing at the end of the input. -/
partial def readLine (stream : IO.FS.Stream) (line : List UInt8) : IO (List UInt8) := do
  match (← stream.read 1).toList with
  | [] => pure line.reverse
  | byte :: _ =>
      if byte == Host.lineEnd then pure (byte :: line).reverse else readLine stream (byte :: line)

/-- Take a step of a session, send what it sends and show what it reports. -/
def advance {α : Type} (filter : Log.Filter) (session : Host.Session Scratch)
    (step : Host.Session.Step Scratch α) : IO (Except String α × Host.Session Scratch) := do
  let result := step.run session
  complain (Log.transcript filter result.events)
  let (value, session) := result.value
  writeBytes (← IO.getStdout) session.sink.sent
  pure (value, { session with sink := .new none none })

/-- Serve the lines that arrive. -/
partial def serveInput (filter : Log.Filter) (backend : Backend Scratch) (handled : Nat)
    (session : Host.Session Scratch) : IO Unit := do
  match ← readLine (← IO.getStdin) [] with
  | [] =>
      let _ ← advance filter session (Host.Session.close none handled)
  | line =>
      let (value, session) ← advance filter session (Host.Session.serveLine backend handled line)
      match value with
      | .ok handled => serveInput filter backend handled session
      | .error _ => pure ()

/-- Serve the host line by line. -/
def serve (filter : Log.Filter) (surroundings : Surroundings) (settings : Settings) :
    IO Outcome := do
  let result := (CommandLine.openSession surroundings settings).run ⟨[], []⟩
  complain (Log.transcript filter result.events)
  let (session, trail) := result.value
  match session with
  | .error problem => pure ⟨trail, [], some problem⟩
  | .ok session =>
      let (value, session) ← advance filter session Host.Session.greet
      match value with
      | .error failure => pure ⟨trail, [], some (.channel failure)⟩
      | .ok () =>
          serveInput filter (CommandLine.backendOf surroundings settings) 0 session
          pure ⟨trail, [], none⟩

/-- Write the files of an outcome; the first that cannot be written is its problem. -/
def writeFiles (outcome : Outcome) : IO Outcome := do
  try
    for (path, content) in outcome.trail.written do
      IO.FS.writeBinFile path ⟨content.toArray⟩
    pure outcome
  catch error => pure { outcome with problem? := some (.file (fileError error)) }

/-- Run an invocation. -/
def perform (invocation : Invocation) : IO UInt32 := do
  let filter ← readFilter
  let surroundings ← survey invocation
  let outcome ←
    match invocation.task, CommandLine.effectiveSettings surroundings invocation with
    | .serve, .ok settings => serve filter surroundings settings
    | _, _ => pure (CommandLine.run surroundings invocation)
  let outcome ← writeFiles outcome
  writeBytes (← IO.getStdout) outcome.trail.output
  complain (Log.transcript filter outcome.events)
  match outcome.complaint? with
  | some complaint => complain (complaint ++ "\n")
  | none => pure ()
  pure outcome.status.toUInt32

/-- How the program is called. -/
def usage : String :=
  "Usage: faust-cmaj [OPTIONS] [serve | compile FILE | declarations FILE | version]\n"

end DspBridge.Main

/-- Run the program with the words of its command line. -/
def main (words : List String) : IO UInt32 := do
  match DspBridge.CommandLine.parse words with
  | none =>
      DspBridge.Main.complain DspBridge.Main.usage
      pure DspBridge.CommandLine.usageStatus.toUInt32
  | some .showHelp =>
      IO.print DspBridge.Main.usage
      pure 0
  | some .showVersion =>
      IO.println DspBridge.CommandLine.ownVersion
      pure 0
  | some (.run invocation) => DspBridge.Main.perform invocation
