import DspBridge.Shell.Interpreter

/-!
# Finding programs

Which program a name stands for. A name without a slash is looked for in the directories of the
search path; any other name is a path, absolute or from the directory in which the program is to
run. The programs are scripts, which are installed under absolute paths, and the utilities.
-/

namespace DspBridge.Shell

open Files (Folder FileError Component)

/-- The programs that can be started. -/
structure Environment where
  /-- The scripts that are installed, under their absolute paths. -/
  scripts : List (String × List UInt8)
  /-- The directories in which names without a slash are looked for, first ones first. -/
  searchPath : List String
  /-- The absolute path of the directory in which programs run. -/
  directory : String
  deriving Repr

/-- A program that has been found. -/
inductive Executable where
  | script (path text : String)
  | utility (act : List String → Machine → Machine)

/-- The directories that hold the utilities. -/
def utilityFolders : List String := ["/usr/bin", "/bin"]

/-- The shells that scripts can name on their first line. -/
def shells : List String := ["/bin/sh", "/usr/bin/sh"]

/-- The program that a file holds: the first line names the shell that runs it. -/
def executable (path : String) (content : List UInt8) : Except StartError Executable :=
  let text := Text.Utf8.decodeLossy content
  match text.toList with
  | '#' :: '!' :: rest =>
      let shell := Text.trim (String.ofList (rest.takeWhile (· != '\n')))
      if shells.contains shell then .ok (.script path text) else .error .notFound
  | _ => .error .notProgram

namespace Environment

/-- The paths of all programs, as components. -/
def programPaths (environment : Environment) : List (List Component) :=
  environment.scripts.map (fun script => Files.components script.1) ++
    utilityFolders.flatMap fun folder =>
      programs.map fun utility => Files.components folder ++ [.name utility.1]

/-- The utility that an absolute path leads to. -/
def utilityAt? (path : List Component) : Option (List String → Machine → Machine) :=
  match path.getLast? with
  | some (.name name) =>
      if utilityFolders.any fun folder => Files.components folder == path.dropLast then
        programs.lookup name
      else none
  | _ => none

/-- The program under an absolute path; the shell is told the name that was used for it. -/
def findAbsolute (environment : Environment) (name : String) (path : List Component) :
    Except StartError Executable :=
  match environment.scripts.find? (fun script => Files.components script.1 == path),
      utilityAt? path with
  | some (_, content), _ => executable name content
  | none, some act => .ok (.utility act)
  | none, none =>
      if environment.programPaths.any path.isPrefixOf then .error .denied
      else if environment.programPaths.any fun program => program.isPrefixOf path then
        .error .notFolder
      else .error .notFound

/-- How the error of a path prevents a start. -/
def startError : FileError → StartError
  | .denied => .denied
  | .notFolder => .notFolder
  | .nameTooLong => .nameTooLong
  | .nulInName => .nulByte
  | _ => .notFound

/-- The program under a path from the directory. What the directory itself holds is no program. -/
def findRelative (environment : Environment) (folder : Folder) (name : String) :
    Except StartError Executable :=
  let segments := (Files.segments name).filter fun segment => !segment.isEmpty && segment != "."
  let above := (segments.takeWhile (· == "..")).length
  if above = 0 then
    match folder.locate true [] name with
    | .error error => .error (startError error)
    | .ok ⟨_, some _, _⟩ => .error .denied
    | .ok ⟨_, none, _⟩ => .error .notFound
  else
    let around := Files.components environment.directory
    let kept := (around.drop 1).take (around.length - 1 - above)
    environment.findAbsolute name
      (.root :: kept ++ (segments.drop above).map Component.name)

/-- The program that a name stands for. -/
def find (environment : Environment) (folder : Folder) (name : String) :
    Except StartError Executable :=
  if name.toList.contains (Char.ofNat 0) then .error .nulByte
  else if name.isEmpty then .error .notFound
  else if name.toList.contains '/' then
    let found :=
      if Files.isAbsolute name then environment.findAbsolute name (Files.components name)
      else environment.findRelative folder name
    match found with
    | .ok program => if name.toList.getLast? == some '/' then .error .notFolder else .ok program
    | .error error => .error error
  else if Files.nameLimit < name.utf8ByteSize then .error .nameTooLong
  else if name == "." || name == ".." then .error .denied
  else
    let candidates := environment.searchPath.map fun around => around ++ "/" ++ name
    (candidates.findSome? fun path =>
      match environment.findAbsolute path (Files.components path) with
      | .error .notFound | .error .notFolder => none
      | other => some other).getD (.error .notFound)

/-- Run a program in a directory. -/
def start (environment : Environment) (name : String) (arguments : List String) (folder : Folder) :
    Except StartError Run :=
  if arguments.any fun argument => argument.toList.contains (Char.ofNat 0) then .error .nulByte
  else
    match environment.find folder name with
    | .error error => .error error
    | .ok (.script path text) =>
        .ok (runScript text (Machine.start path environment.directory arguments folder)).toRun
    | .ok (.utility act) =>
        .ok (act arguments (Machine.start name environment.directory arguments folder)).toRun

/-- The program of a name, whether or not there is one. -/
def program (environment : Environment) (name : String) : Program := ⟨name, environment.start name⟩

end Environment
end DspBridge.Shell
