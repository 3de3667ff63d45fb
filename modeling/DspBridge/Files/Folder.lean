import DspBridge.Files.Path
import DspBridge.Text.Utf8

/-!
# Directory trees

What a directory holds, at any depth: files with their bytes, directories, and symbolic links, and
what the system refuses to do with each of them. A directory lists what it holds in the order of the
entries. A path is followed segment by segment from a directory of the tree, and links are replaced
by what they say.

A tree knows nothing of the file system around it. A link that leads out of the tree is given by
what stands where it leads, marked as being elsewhere; if nothing stands there it is a link like any
other, and following it fails as it does in the file system. Paths that lead back into the tree from
elsewhere are left out, and so are full disks, failing disks and other processes. Names are texts, so
those that are not UTF-8 are left out too.
-/

namespace DspBridge.Files

/-- Why an operation on files fails. -/
inductive FileError where
  | notFound
  | denied
  | exists
  | notFolder
  | isFolder
  | nameTooLong
  | notEmpty
  | tooManyLinks
  | tooManyOpen
  | notPermitted
  | busy
  | readOnly
  | nulInName
  | notText
  deriving DecidableEq, Repr

/-- What an error says by itself, without its number. -/
def FileError.reason : FileError → String
  | .notFound => "No such file or directory"
  | .denied => "Permission denied"
  | .exists => "File exists"
  | .notFolder => "Not a directory"
  | .isFolder => "Is a directory"
  | .nameTooLong => "File name too long"
  | .notEmpty => "Directory not empty"
  | .tooManyLinks => "Too many levels of symbolic links"
  | .tooManyOpen => "Too many open files"
  | .notPermitted => "Operation not permitted"
  | .busy => "Device or resource busy"
  | .readOnly => "Read-only file system"
  | .nulInName => "file name contained an unexpected NUL byte"
  | .notText => "stream did not contain valid UTF-8"

/-- The number of an error, if the operating system has one for it. -/
def FileError.number? : FileError → Option Nat
  | .notPermitted => some 1
  | .notFound => some 2
  | .denied => some 13
  | .busy => some 16
  | .exists => some 17
  | .notFolder => some 20
  | .isFolder => some 21
  | .tooManyOpen => some 24
  | .readOnly => some 30
  | .nameTooLong => some 36
  | .notEmpty => some 39
  | .tooManyLinks => some 40
  | .nulInName | .notText => none

/-- The wording of an error. -/
def FileError.message (error : FileError) : String :=
  match error.number? with
  | some number => s!"{error.reason} (os error {number})"
  | none => error.reason

/-- Why the system refuses what a tree would allow. -/
inductive Refusal where
  | denied
  | notPermitted
  | busy
  | readOnly
  deriving DecidableEq, Repr

/-- The error that a refusal comes with. -/
def Refusal.error : Refusal → FileError
  | .denied => .denied
  | .notPermitted => .notPermitted
  | .busy => .busy
  | .readOnly => .readOnly

/-- What may be done, unless it is refused. -/
def permit : Option Refusal → Except FileError Unit
  | none => .ok ()
  | some refusal => .error refusal.error

/-- How something stands in a tree: what the process may not do with it, by its mode or for any
other reason, and whether it is in the tree at all. -/
structure Standing where
  /-- Read a file, or list a directory. -/
  reading : Option Refusal := none
  /-- Write a file, or put things into a directory and take them out. -/
  writing : Option Refusal := none
  /-- Follow a path that leads on from a directory. -/
  passing : Option Refusal := none
  /-- Take it out of the directory that it is in. -/
  removing : Option Refusal := none
  /-- Whether it stands outside of the tree, and only a link to it is in its place. -/
  elsewhere : Bool := false
  deriving DecidableEq, Repr

/-- Something in a directory. -/
inductive Entry where
  | file (content : List UInt8) (standing : Standing := {})
  | folder (standing : Standing := {})
  | link (target : String) (standing : Standing := {})
  deriving DecidableEq, Repr

namespace Entry

/-- How an entry stands in its tree. -/
def standing : Entry → Standing
  | .file _ standing | .folder standing | .link _ standing => standing

/-- How a directory stands that is itself in the tree. -/
def directory? : Entry → Option Standing
  | .folder standing => if standing.elsewhere then none else some standing
  | .file _ _ | .link _ _ => none

/-- Why an entry may not be taken out of a directory that stands `around` it. -/
def keptBy (around : Standing) (entry : Entry) : Option Refusal :=
  (around.passing.or around.writing).or entry.standing.removing

end Entry

/-- What a directory holds: every entry at or below it under the names that lead there. The entry
under no names is the directory itself; it may be missing if nothing about it is refused. -/
structure Folder where
  entries : List (List String × Entry)
  deriving DecidableEq, Repr

/-- The greatest number of bytes in a name. -/
def nameLimit : Nat := 255

/-- The greatest number of bytes in a path. -/
def pathLimit : Nat := 4095

/-- The greatest number of links that are followed on the way along one path. -/
def linkLimit : Nat := 40

/-- What limits a process that works on a tree. -/
structure Limits where
  /-- The greatest number of bytes in a path from the top of the tree. -/
  path : Nat := pathLimit
  /-- How many directories it can hold open, each in the one before; the rest of the 1024
  descriptors that are usual are the standard streams and the top of the tree. -/
  nesting : Nat := 1020
  deriving DecidableEq, Repr

/-- The limits of a process that gives every path of the tree with the path of its top in front. -/
def Limits.below (top : String) : Limits := { path := pathLimit - (top.utf8ByteSize + 1) }

namespace Folder

/-- A directory that holds nothing. -/
def bare (own : Entry) : Folder := ⟨[([], own)]⟩

/-- A directory that has just been made. -/
def empty : Folder := bare .folder

/-- The entry of the directory itself. -/
def own (folder : Folder) : Entry := (folder.entries.lookup []).getD .folder

/-- The entry under some names; no names lead to the directory itself. -/
def find? (folder : Folder) (names : List String) : Option Entry :=
  if names.isEmpty then some folder.own else folder.entries.lookup names

/-- The tree without what stands at or below some names. -/
def remove (folder : Folder) (names : List String) : Folder :=
  ⟨folder.entries.filter fun entry => !names.isPrefixOf entry.1⟩

/-- The tree with an entry under some names. -/
def put (folder : Folder) (names : List String) (entry : Entry) : Folder :=
  ⟨folder.entries.filter (·.1 != names) ++ [(names, entry)]⟩

/-- What stands at or below some names, under the names that lead on from there. -/
def subtree (folder : Folder) (names : List String) : Folder :=
  ⟨folder.entries.filterMap fun entry =>
    if names.isPrefixOf entry.1 then some (entry.1.drop names.length, entry.2) else none⟩

/-- The names in a directory of the tree. -/
def namesIn (folder : Folder) (names : List String) : List String :=
  folder.entries.filterMap fun entry =>
    if entry.1.length == names.length + 1 && names.isPrefixOf entry.1 then entry.1.getLast? else none

/-! ## Following paths -/

/-- Where a path leads. -/
structure Place where
  /-- The names that lead there from the top of the tree, without links. -/
  names : List String
  /-- What stands there; if nothing does, there is a directory that could hold it. -/
  entry : Option Entry
  /-- Whether the path asks for a directory. -/
  asFolder : Bool
  deriving DecidableEq, Repr

/-- Whether a path may lead on from some names. -/
def checkPassing (folder : Folder) (names : List String) : Except FileError Unit :=
  match folder.find? names with
  | some (.folder standing) => permit standing.passing
  | some (.file _ _) => .error .notFolder
  | some (.link _ _) | none => .error .notFound

/-- Whether the directory around some names is not known: the names lead to the top of the tree, or
to a directory that is elsewhere. -/
def isOutermost (folder : Folder) (names : List String) : Bool :=
  names.isEmpty || (folder.find? names).any fun entry => entry.standing.elsewhere

/-- Follow segments from a directory of the tree up to a link, and leave the rest to `follow`. -/
def walk (folder : Folder) (followLast : Bool)
    (follow : List String → List String → Except FileError Place) :
    (start : List String) → List String → Except FileError Place
  | start, [] => .ok ⟨start, folder.find? start, false⟩
  | start, segment :: rest =>
      if segment.isEmpty then folder.walk followLast follow start rest
      else
        match folder.checkPassing start with
        | .error error => .error error
        | .ok () =>
            if segment == "." then folder.walk followLast follow start rest
            else if segment == ".." then
              if folder.isOutermost start then .error .notFound
              else folder.walk followLast follow start.dropLast rest
            else if nameLimit < segment.utf8ByteSize then .error .nameTooLong
            else
              let names := start ++ [segment]
              match folder.find? names with
              | none =>
                  if rest.all String.isEmpty then .ok ⟨names, none, !rest.isEmpty⟩
                  else .error .notFound
              | some (.folder _) => folder.walk followLast follow names rest
              | some (.file content standing) =>
                  if rest.isEmpty then .ok ⟨names, some (.file content standing), false⟩
                  else .error .notFolder
              | some (.link target standing) =>
                  if rest.isEmpty && !followLast then
                    .ok ⟨names, some (.link target standing), false⟩
                  else if isAbsolute target then .error .notFound
                  else follow start (segments target ++ rest)

/-- Follow segments from a directory of the tree, through as many links. -/
def trace (folder : Folder) (followLast : Bool) :
    (links : Nat) → (start : List String) → List String → Except FileError Place
  | 0 => folder.walk followLast fun _ _ => .error .tooManyLinks
  | links + 1 => folder.walk followLast (folder.trace followLast links)

/-- Whether a path can be given to the system. -/
def checkPath (limit : Nat) (path : String) : Except FileError Unit :=
  if path.toList.contains (Char.ofNat 0) then .error .nulInName
  else if limit < path.utf8ByteSize then .error .nameTooLong
  else .ok ()

/-- Follow a path from a directory of the tree, through a link at its end only if asked to. -/
def locate (folder : Folder) (followLast : Bool) (start : List String) (path : String)
    (limit : Nat := pathLimit) : Except FileError Place :=
  match checkPath limit path with
  | .error error => .error error
  | .ok () =>
      if path.isEmpty || isAbsolute path then .error .notFound
      else folder.trace followLast linkLimit start (segments path)

/-- Whether a path leads to something. -/
def has (folder : Folder) (start : List String) (path : String) (limit : Nat := pathLimit) :
    Bool :=
  match folder.locate true start path limit with
  | .ok place => place.entry.isSome
  | .error _ => false

/-! ## Reading -/

/-- The bytes of a file. -/
def readBytes (folder : Folder) (start : List String) (path : String)
    (limit : Nat := pathLimit) : Except FileError (List UInt8) := do
  let place ← folder.locate true start path limit
  match place.entry with
  | none => .error .notFound
  | some (.file content standing) => do
      permit standing.reading
      .ok content
  | some entry => do
      permit entry.standing.reading
      .error .isFolder

/-- The text of a file. -/
def readText (folder : Folder) (start : List String) (path : String) (limit : Nat := pathLimit) :
    Except FileError String := do
  let bytes ← folder.readBytes start path limit
  match Text.Utf8.decode bytes with
  | .ok text => .ok text
  | .error _ => .error .notText

/-! ## Putting things in -/

/-- Whether the directory that some names lead to lets itself be changed. -/
def checkWriting (folder : Folder) (names : List String) : Except FileError Unit :=
  match folder.find? names with
  | some (.folder standing) => permit standing.writing
  | _ => .error .notFound

/-- The place of a file that is about to be written, what the file holds so far, and how it
stands. -/
def fileForWriting (folder : Folder) (start : List String) (path : String)
    (limit : Nat := pathLimit) : Except FileError (List String × List UInt8 × Standing) := do
  let place ← folder.locate true start path limit
  match place.entry with
  | none =>
      if place.asFolder then .error .isFolder
      else do
        folder.checkWriting place.names.dropLast
        .ok (place.names, [], {})
  | some (.file content standing) => do
      permit standing.writing
      .ok (place.names, content, standing)
  | some _ => .error .isFolder

/-- The tree with a file written anew. -/
def writeBytes (folder : Folder) (start : List String) (path : String) (content : List UInt8)
    (limit : Nat := pathLimit) : Except FileError Folder := do
  let (names, _, standing) ← folder.fileForWriting start path limit
  .ok (folder.put names (.file content standing))

/-- The tree with one more directory. -/
def makeFolder (folder : Folder) (start : List String) (path : String) :
    Except FileError Folder := do
  let place ← folder.locate false start path
  match place.entry with
  | none => do
      folder.checkWriting place.names.dropLast
      .ok (folder.put place.names .folder)
  | some _ => .error .exists

/-- Make the directories that names lead through, from a directory of the tree on. The tree keeps
those that were made before the first that cannot be. -/
def makeFolders (folder : Folder) (start : List String) :
    List String → Except FileError Unit × Folder
  | [] => (.ok (), folder)
  | name :: rest =>
      match folder.locate true start name with
      | .error error => (.error error, folder)
      | .ok place =>
          match place.entry with
          | none =>
              match folder.checkWriting place.names.dropLast with
              | .error error => (.error error, folder)
              | .ok () => (folder.put place.names .folder).makeFolders place.names rest
          | some (.folder _) => folder.makeFolders place.names rest
          | some _ => (.error (if rest.isEmpty then .exists else .notFolder), folder)

/-- The tree with one more link. -/
def makeLink (folder : Folder) (start : List String) (target path : String) :
    Except FileError Folder := do
  let place ← folder.locate false start path
  match place.entry with
  | none =>
      if place.asFolder then .error .notFound
      else do
        folder.checkWriting place.names.dropLast
        .ok (folder.put place.names (.link target))
  | some _ => .error .exists

/-! ## Moving and taking out -/

/-- Whether what stands at some names may be taken out of its directory. -/
def checkTaking (folder : Folder) (names : List String) (entry : Entry) : Except FileError Unit :=
  match folder.find? names.dropLast with
  | some (.folder around) => permit (entry.keptBy around)
  | _ => .error .notFound

/-- Whether one entry can take the place of another, at some names: both are directories, of which
the other holds nothing, or neither is. -/
def checkReplacing (folder : Folder) (moved replaced : Entry) (names : List String) :
    Except FileError Unit :=
  match moved.directory?, replaced.directory? with
  | some _, some _ => if (folder.namesIn names).isEmpty then .ok () else .error .notEmpty
  | some _, none => .error .notFolder
  | none, some _ => .error .isFolder
  | none, none => .ok ()

/-- The tree with one thing put in the place of another, which it replaces if both are directories
or neither is. -/
def rename (folder : Folder) (start : List String) (source target : String)
    (limit : Nat := pathLimit) : Except FileError Folder := do
  let source ← folder.locate false start source limit
  let target ← folder.locate false start target limit
  match source.entry with
  | none => .error .notFound
  | some moved =>
      if source.names == target.names then .ok folder
      else do
        folder.checkTaking source.names moved
        match target.entry with
        | none => folder.checkWriting target.names.dropLast
        | some replaced => do
            folder.checkTaking target.names replaced
            folder.checkReplacing moved replaced target.names
        let rest := (folder.remove source.names).remove target.names
        .ok ⟨rest.entries ++ (folder.subtree source.names).entries.map fun entry =>
          (target.names ++ entry.1, entry.2)⟩

/-- The things in a directory under their names, each with all that is below it. -/
def parts (folder : Folder) : List (String × Folder) :=
  (folder.namesIn []).eraseDups.map fun name => (name, folder.subtree [name])

/-- The directory with some entry of its own that holds things under their names. -/
def assembled (own : Entry) (parts : List (String × Folder)) : Folder :=
  ⟨([], own) :: parts.flatMap fun part =>
    part.2.entries.map fun entry => (part.1 :: entry.1, entry.2)⟩

/-- Take out one thing after another. The first that cannot be taken out ends this; what is left of
it stays, with all that is behind it. -/
def takeParts (take : Folder → Except FileError Unit × Folder) :
    List (String × Folder) → Except FileError Unit × List (String × Folder)
  | [] => (.ok (), [])
  | (name, thing) :: rest =>
      match take thing with
      | (.ok (), _) => takeParts take rest
      | (.error error, left) => (.error error, (name, left) :: rest)

/-- Take something that holds nothing, or is only a link, out of the directory around it. -/
def unlink (around : Standing) (thing : Folder) : Except FileError Unit × Folder :=
  match thing.own.keptBy around with
  | some refusal => (.error refusal.error, thing)
  | none => (.ok (), ⟨[]⟩)

/-- Take something out of the directory around it; what is left of it if that fails. A directory is
opened and everything in it taken out first, and it stays open meanwhile. Links are not followed. -/
def takeOut (nesting : Nat) (around : Standing) (thing : Folder) : Except FileError Unit × Folder :=
  match thing.own.directory? with
  | none => unlink around thing
  | some standing =>
      match nesting with
      | 0 => (.error .tooManyOpen, thing)
      | nesting + 1 =>
          match around.passing.or standing.reading with
          | some refusal => (.error refusal.error, thing)
          | none =>
              match takeParts (takeOut nesting standing) thing.parts with
              | (.error error, left) => (.error error, assembled thing.own left)
              | (.ok (), left) => unlink around (assembled thing.own left)

/-- Take everything out of the directory, and what is left in it. -/
def clear (folder : Folder) (nesting : Nat) : Except FileError Unit × Folder :=
  match folder.own with
  | .file _ _ => (.error .notFolder, folder)
  | .link _ _ => (.error .notFound, folder)
  | .folder standing =>
      match standing.reading with
      | some refusal => (.error refusal.error, folder)
      | none =>
          let (cleared, left) := takeParts (takeOut nesting standing) folder.parts
          (cleared, assembled folder.own left)

/-- The path of every entry below the directory, those of directories with a slash at the end. -/
def paths (folder : Folder) : List String :=
  folder.entries.filterMap fun (names, entry) =>
    if names.isEmpty then none
    else some ("/".intercalate names ++ (if entry.directory?.isSome then "/" else ""))

end Folder
end DspBridge.Files
