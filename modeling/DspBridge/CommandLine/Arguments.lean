/-!
# Arguments

What the words of a command line ask for. An option takes a value, behind an equals sign or as the
next word. Some options belong to every task, and what is given for one of them behind the name of
the task replaces what is given before it.
-/

namespace DspBridge.CommandLine

/-- What the program is to do. -/
inductive Task where
  | serve
  | compile (file : String) (flags? output? : Option String)
  | declarations (file : String)
  | version
  deriving DecidableEq, Repr

/-- A command line that has been understood. -/
structure Invocation where
  program? : Option String
  settingsFile? : Option String
  includeDirs : List String
  task : Task
  deriving DecidableEq, Repr

/-- What a command line asks for. -/
inductive Request where
  | run (invocation : Invocation)
  | showVersion
  | showHelp
  deriving DecidableEq, Repr

/-- Something that takes a value. -/
inductive Slot where
  | program
  | settingsFile
  | includeDir
  | flags
  | output
  | file
  deriving DecidableEq, Repr

namespace Slot

/-- Whether a value can be given more than once. -/
def repeats (slot : Slot) : Bool := slot = .includeDir

/-- Whether the value is any word at all. The other values are paths, which are not empty, and a
word that looks like an option is none. -/
def takesAnything (slot : Slot) : Bool := slot = .flags

end Slot

/-- What can be given at some place of a command line. -/
structure Scope where
  /-- Options by their names. -/
  names : List (String × Slot)
  /-- Options by their letters. -/
  letters : List (Char × Slot)
  /-- Whether a file is given as a word of its own. -/
  takesFile : Bool
  /-- The tasks that can be named. -/
  tasks : List String
  deriving Repr

/-- Options that belong to every task. -/
def commonNames : List (String × Slot) :=
  [("faust", .program), ("config", .settingsFile), ("include", .includeDir)]

/-- Letters of options that belong to every task. -/
def commonLetters : List (Char × Slot) := [('I', .includeDir)]

/-- What stands before the name of a task. -/
def topScope : Scope :=
  ⟨commonNames, commonLetters, false, ["serve", "compile", "declarations", "version"]⟩

/-- What stands behind the name of a task. -/
def taskScope (task : String) : Scope :=
  if task == "compile" then
    ⟨commonNames ++ [("args", .flags), ("output", .output)], commonLetters ++ [('o', .output)],
      true, []⟩
  else ⟨commonNames, commonLetters, task == "declarations", []⟩

/-- What has been given, in order. -/
abbrev Given := List (Slot × String)

/-- One more value, unless it may not be given. -/
def give (slot : Slot) (value : String) (given : Given) : Option Given :=
  if value.isEmpty && !slot.takesAnything then none
  else if !slot.repeats && given.any (·.1 = slot) then none
  else some (given ++ [(slot, value)])

/-- Whether a word looks like an option. -/
def looksLikeOption (word : String) : Bool := word.length > 1 && word.toList.head? == some '-'

/-- How the words of a scope end. -/
inductive Ending where
  | finished (given : Given)
  | task (given : Given) (name : String) (rest : List String)
  | version
  | help
  deriving Repr

/-- What a word is. -/
inductive Word where
  /-- Two hyphens, behind which no word is an option. -/
  | separator
  | option (slot : Slot) (value? : Option String)
  | version
  | help
  | other
  | unknown
  deriving DecidableEq, Repr

/-- What a word with two hyphens at its front is, given what stands behind them. -/
def longWord (scope : Scope) (text : List Char) : Word :=
  let name := String.ofList (text.takeWhile (· != '='))
  let value? := match text.dropWhile (· != '=') with
    | [] => none
    | _ :: value => some (String.ofList value)
  match scope.names.lookup name with
  | some slot => .option slot value?
  | none =>
      if value?.isSome then .unknown
      else if name == "help" then .help
      else if name == "version" && !scope.tasks.isEmpty then .version
      else .unknown

/-- What a word with one hyphen at its front is, given the letter behind it and the rest. -/
def shortWord (scope : Scope) (letter : Char) (rest : List Char) : Word :=
  match scope.letters.lookup letter with
  | some slot =>
      .option slot (match rest with
        | [] => none
        | '=' :: value => some (String.ofList value)
        | value => some (String.ofList value))
  | none =>
      if letter == 'h' then .help
      else if letter == 'V' && !scope.tasks.isEmpty then .version
      else .unknown

/-- What a word is. -/
def classify (scope : Scope) (word : String) : Word :=
  match word.toList with
  | ['-', '-'] => .separator
  | '-' :: '-' :: text => longWord scope text
  | '-' :: letter :: rest => shortWord scope letter rest
  | _ => .other

/-- Go through words none of which is an option. -/
def readFiles (scope : Scope) (given : Given) : List String → Option Given
  | [] => some given
  | word :: rest =>
      if scope.takesFile then (give .file word given).bind fun given => readFiles scope given rest
      else none

/-- Go through the words of a scope; none if they make no sense. -/
def readWords (scope : Scope) (given : Given) : List String → Option Ending
  | [] => some (.finished given)
  | word :: rest =>
      match classify scope word with
      | .separator => (readFiles scope given rest).map .finished
      | .version => some .version
      | .help => some .help
      | .unknown => none
      | .option slot (some value) =>
          (give slot value given).bind fun given => readWords scope given rest
      | .option slot none =>
          match rest with
          | [] => none
          | value :: rest =>
              if looksLikeOption value && !slot.takesAnything then none
              else (give slot value given).bind fun given => readWords scope given rest
      | .other =>
          if scope.tasks.contains word then some (.task given word rest)
          else if word == "help" && !scope.tasks.isEmpty then some .help
          else if scope.takesFile then
            (give .file word given).bind fun given => readWords scope given rest
          else none

/-- The values that a slot has been given. -/
def values (slot : Slot) (given : Given) : List String :=
  (given.filter (·.1 = slot)).map Prod.snd

/-- The values of an option that belongs to every task: those behind the name of the task, or else
those before it. -/
def commonValues (slot : Slot) (before behind : Given) : List String :=
  let replaced := values slot behind
  if replaced.isEmpty then values slot before else replaced

/-- The task of a name and what is given for it; a file that it takes has to be given. -/
def task? (name : String) (given : Given) : Option Task :=
  let file? := (values .file given).head?
  if name == "compile" then
    file?.map fun file =>
      .compile file (values .flags given).head? (values .output given).head?
  else if name == "declarations" then file?.map .declarations
  else if name == "version" then some .version
  else some .serve

/-- The invocation of a task and of what is given before and behind its name. -/
def invocation? (name : String) (before behind : Given) : Option Invocation :=
  (task? name behind).map fun task =>
    { program? := (commonValues .program before behind).head?
      settingsFile? := (commonValues .settingsFile before behind).head?
      includeDirs := commonValues .includeDir before behind
      task }

/-- What a command line asks for; none if it makes no sense. Without the name of a task the program
serves. -/
def parse (words : List String) : Option Request := do
  match ← readWords topScope [] words with
  | .version => some .showVersion
  | .help => some .showHelp
  | .finished given => (invocation? "serve" given []).map .run
  | .task before name rest =>
      match ← readWords (taskScope name) [] rest with
      | .version => some .showVersion
      | .help => some .showHelp
      | .task _ _ _ => none
      | .finished behind => (invocation? name before behind).map .run

end DspBridge.CommandLine
