import DspBridge.Files.Folder

/-!
# Workspaces

A directory of a tree, as a program sees it that runs there: paths start from the directory, and
absolute ones lead nowhere, except to the root and to the device that is always empty.
-/

namespace DspBridge.Files

/-- The device that is empty for every reader and takes whatever is written. -/
def emptyDevice : String := "/dev/null"

/-- A tree and a directory in it. -/
structure Workspace where
  tree : Folder
  directory : List String
  deriving DecidableEq, Repr

namespace Workspace

/-- The error of an absolute path. -/
def absoluteError (path : String) : FileError :=
  if components path == [.root] then .isFolder else .notFound

/-- The bytes of a file. -/
def readBytes (workspace : Workspace) (path : String) : Except FileError (List UInt8) :=
  if path == emptyDevice then .ok []
  else if isAbsolute path then .error (absoluteError path)
  else workspace.tree.readBytes workspace.directory path

/-- The text of a file. -/
def readText (workspace : Workspace) (path : String) : Except FileError String := do
  match Text.Utf8.decode (← workspace.readBytes path) with
  | .ok text => .ok text
  | .error _ => .error .notText

/-- Whether a file can be written. -/
def checkWrite (workspace : Workspace) (path : String) : Except FileError Unit :=
  if path == emptyDevice then .ok ()
  else if isAbsolute path then .error (absoluteError path)
  else (workspace.tree.fileForWriting workspace.directory path).map fun _ => ()

/-- The workspace once a file has been written, if it can be. -/
def write (workspace : Workspace) (path : String) (content : List UInt8) : Workspace :=
  if isAbsolute path then workspace
  else
    match workspace.tree.writeBytes workspace.directory path content with
    | .ok tree => { workspace with tree }
    | .error _ => workspace

end Workspace
end DspBridge.Files
