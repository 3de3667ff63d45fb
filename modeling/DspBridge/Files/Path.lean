/-!
# Paths

A path is a text cut at slashes. Its components leave out what makes no difference: repeated
slashes, a slash at the end, and every dot that stands for the directory itself, except one at the
very front. A path is relative to a directory and stays below it when all its components are names.
-/

namespace DspBridge.Files

/-- A component of a path. -/
inductive Component where
  | root
  | current
  | parent
  | name (text : String)
  deriving DecidableEq, Repr

/-- The characters before the first slash, and the runs between the slashes that follow. -/
def cutSlashes : List Char → List Char × List (List Char)
  | [] => ([], [])
  | c :: rest =>
      let (segment, others) := cutSlashes rest
      if c == '/' then ([], segment :: others) else (c :: segment, others)

/-- The texts between slashes, at least one. -/
def segments (path : String) : List String :=
  let (segment, others) := cutSlashes path.toList
  (segment :: others).map String.ofList

/-- Whether a path starts from the root. -/
def isAbsolute (path : String) : Bool := path.toList.head? == some '/'

/-- The component that a segment behind another is, if it is one. -/
def innerComponent (segment : String) : Option Component :=
  if segment.isEmpty || segment == "." then none
  else if segment == ".." then some .parent
  else some (.name segment)

/-- The component that the first segment is, if it is one. -/
def firstComponent (path segment : String) : Option Component :=
  if isAbsolute path then some .root
  else if segment == "." then some .current
  else innerComponent segment

/-- The components of a path. -/
def components (path : String) : List Component :=
  match segments path with
  | [] => []
  | first :: others => (firstComponent path first).toList ++ others.filterMap innerComponent

/-- A path followed from a directory; one that starts from the root stays as it is. -/
def join (directory path : String) : String :=
  if isAbsolute path then path
  else if directory.isEmpty || directory.toList.getLast? == some '/' then directory ++ path
  else directory ++ "/" ++ path

/-- The text of a component that is a name. -/
def Component.name? : Component → Option String
  | .name text => some text
  | _ => none

/-- The names that lead from a directory to a path below it; none if the path is empty or has a
component that is not a name. -/
def below? (path : String) : Option (List String) :=
  if path.isEmpty then none else (components path).mapM Component.name?

/-- The path of the directory around what a path with a name at its end leads to. -/
def around (path : String) : String :=
  let front := (segments path).dropLast.reverse.dropWhile fun segment =>
    (innerComponent segment).isNone
  "/".intercalate front.reverse

/-- The name of what a path leads to, if its last component is a name. -/
def fileName? (path : String) : Option String :=
  (components path).getLast?.bind Component.name?

end DspBridge.Files
