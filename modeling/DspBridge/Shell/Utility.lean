import DspBridge.Shell.Machine
import DspBridge.Number.Numeral

/-!
# Utilities

The commands that scripts call. Each takes its arguments and changes the machine: it writes to the
descriptors, works on the directory, and leaves a status.
-/

namespace DspBridge.Shell

open Files (Folder FileError Entry)

/-- The byte of one or more octal digits, at most three, and what follows them. -/
def takeOctal (limit : Nat) (text : List Char) : UInt8 × List Char :=
  let digits := (text.take limit).takeWhile fun c => '0' ≤ c && c ≤ '7'
  (UInt8.ofNat (digits.foldl (fun value digit => value * 8 + Number.digitValue digit) 0),
    text.drop digits.length)

/-- The byte that a one-letter escape stands for. -/
def letterEscape? (c : Char) : Option UInt8 :=
  if c == 'n' then some 10
  else if c == 't' then some 9
  else if c == 'r' then some 13
  else if c == 'a' then some 7
  else if c == 'b' then some 8
  else if c == 'f' then some 12
  else if c == 'v' then some 11
  else if c == '\\' then some 92
  else none

/-- The bytes of an echoed text, up to an escape that ends all output. -/
def echoBytes : (fuel : Nat) → List Char → List UInt8 × Bool
  | 0, _ | _, [] => ([], false)
  | fuel + 1, c :: rest =>
      let keep (bytes : List UInt8) (rest : List Char) : List UInt8 × Bool :=
        let (others, ended) := echoBytes fuel rest
        (bytes ++ others, ended)
      if c == '\\' then
        match rest with
        | [] => keep [92] []
        | letter :: rest' =>
            if letter == 'c' then ([], true)
            else if letter == '0' then
              let (byte, after) := takeOctal 3 rest'
              keep [byte] after
            else if '1' ≤ letter && letter ≤ '7' then
              let (byte, after) := takeOctal 3 rest
              keep [byte] after
            else
              match letterEscape? letter with
              | some byte => keep [byte] rest'
              | none => keep [92] rest
      else keep (String.utf8EncodeChar c) rest

/-- Write the arguments with blanks between them. -/
def echo (arguments : List String) (machine : Machine) : Machine :=
  let (lineFeed, arguments) : List UInt8 × List String :=
    match arguments with
    | "-n" :: rest => ([], rest)
    | _ => ([10], arguments)
  let text := " ".intercalate arguments
  let (bytes, ended) := echoBytes (text.length + 1) text.toList
  (machine.write 1 (bytes ++ if ended then [] else lineFeed)).done 0

/-- The bytes of a format up to its end, with the arguments it has not used. -/
def formatBytes : (fuel : Nat) → List Char → List String → List UInt8 × List String
  | 0, _, arguments | _, [], arguments => ([], arguments)
  | fuel + 1, c :: rest, arguments =>
      let keep (bytes : List UInt8) (rest : List Char) (arguments : List String) :
          List UInt8 × List String :=
        let (others, arguments) := formatBytes fuel rest arguments
        (bytes ++ others, arguments)
      if c == '\\' then
        match rest with
        | [] => keep [92] [] arguments
        | letter :: rest' =>
            if '0' ≤ letter && letter ≤ '7' then
              let (byte, after) := takeOctal 3 rest
              keep [byte] after arguments
            else
              match letterEscape? letter with
              | some byte => keep [byte] rest' arguments
              | none => keep [92] rest arguments
      else if c == '%' then
        match rest with
        | [] => keep [37] [] arguments
        | directive :: rest' =>
            let argument := arguments.headD ""
            if directive == '%' then keep [37] rest' arguments
            else if directive == 's' then keep (Text.bytesOf argument) rest' arguments.tail
            else if directive == 'b' then
              keep (echoBytes (argument.length + 1) argument.toList).1 rest' arguments.tail
            else if directive == 'c' then
              keep (Text.bytesOf (argument.take 1).toString) rest' arguments.tail
            else if directive == 'd' || directive == 'i' || directive == 'u' then
              keep (Text.bytesOf (toString ((argument.toInt?).getD 0))) rest' arguments.tail
            else keep [37] rest arguments
      else keep (String.utf8EncodeChar c) rest arguments

/-- The bytes of a format that is used again as long as it takes arguments. -/
def formatAll (format : List Char) : (fuel : Nat) → List String → List UInt8
  | 0, _ => []
  | fuel + 1, arguments =>
      let (bytes, others) := formatBytes (format.length + 1) format arguments
      if others.isEmpty || others.length == arguments.length then bytes
      else bytes ++ formatAll format fuel others

/-- Write arguments in a format. -/
def printf (arguments : List String) (machine : Machine) : Machine :=
  let arguments := if arguments.head? == some "--" then arguments.tail else arguments
  match arguments with
  | [] => machine.shellComplain 2 "printf: usage: printf format [arg ...]"
  | format :: others =>
      (machine.write 1 (formatAll format.toList (others.length + 1) others)).done 0

/-- The first letter of an option that a utility does not have. -/
def badOption? (known : List Char) (argument : String) : Option Char :=
  match argument.toList with
  | '-' :: letters => letters.find? fun letter => !known.contains letter
  | _ => none

/-- Whether an argument is an option. -/
def isOption (argument : String) : Bool := argument.length > 1 && argument.toList.head? == some '-'

/-- Complain about an option. -/
def refuseOption (utility : String) (letter : Char) (machine : Machine) : Machine :=
  let quote := String.singleton (Char.ofNat 39)
  machine.complain 1
    (utility ++ ": invalid option -- " ++ quote ++ String.singleton letter ++ quote ++
      "\nTry " ++ quote ++ utility ++ " --help" ++ quote ++ " for more information.")

/-- A text between apostrophes. -/
def apostrophes (text : String) : String :=
  let quote := String.singleton (Char.ofNat 39)
  quote ++ text ++ quote

/-- Write files one after another; without files, the input. -/
def cat (arguments : List String) (machine : Machine) : Machine :=
  match arguments.findSome? (badOption? ['u']) with
  | some letter => refuseOption "cat" letter machine
  | none =>
      let files := arguments.filter fun argument => !isOption argument
      if files.isEmpty then ({ machine with input := [] }.write 1 machine.input).done 0
      else
        files.foldl (fun machine file =>
          if file == "-" then { machine with input := [] }.write 1 machine.input
          else
            match machine.folder.readBytes [] file with
            | .ok bytes => machine.write 1 bytes
            | .error error => machine.complain 1 s!"cat: {file}: {error.reason}") (machine.done 0)

/-- The first lines of bytes, ends included. -/
def takeLines : (count : Nat) → List UInt8 → List UInt8
  | _, [] | 0, _ => []
  | count + 1, byte :: rest =>
      byte :: (if byte == 10 then takeLines count rest else takeLines (count + 1) rest)

/-- Write the first lines of a file, or of the input. -/
def head (arguments : List String) (machine : Machine) : Machine :=
  let (count, files) : Nat × List String :=
    match arguments with
    | "-n" :: count :: rest => (count.toNat?.getD 10, rest)
    | _ => (10, arguments)
  match files.findSome? (badOption? []) with
  | some letter => refuseOption "head" letter machine
  | none =>
      match files with
      | [] => (machine.write 1 (takeLines count machine.input)).done 0
      | file :: _ =>
          match machine.folder.readBytes [] file with
          | .ok bytes => (machine.write 1 (takeLines count bytes)).done 0
          | .error .isFolder =>
              machine.complain 1 s!"head: error reading {apostrophes file}: Is a directory"
          | .error error =>
              machine.complain 1
                s!"head: cannot open {apostrophes file} for reading: {error.reason}"

/-- Make directories, with those around them if asked to. -/
def mkdir (arguments : List String) (machine : Machine) : Machine :=
  match arguments.findSome? (badOption? ['p']) with
  | some letter => refuseOption "mkdir" letter machine
  | none =>
      let parents := arguments.any isOption
      (arguments.filter fun argument => !isOption argument).foldl (fun machine path =>
        let refuse (machine : Machine) (error : FileError) : Machine :=
          machine.complain 1 s!"mkdir: cannot create directory {apostrophes path}: {error.reason}"
        if parents then
          let names := (Files.segments path).filter fun name => !name.isEmpty
          let (made, folder) :=
            if machine.deleted then (.error .notFound, machine.folder)
            else machine.folder.makeFolders [] names
          let machine := { machine with folder }
          match made with
          | .ok () => machine
          | .error error => refuse machine error
        else
          match machine.making (machine.folder.makeFolder [] path) with
          | .ok folder => { machine with folder }
          | .error error => refuse machine error) (machine.done 0)

/-- Make a symbolic link. -/
def ln (arguments : List String) (machine : Machine) : Machine :=
  match arguments with
  | ["-s", target, path] =>
      let path :=
        match machine.folder.locate true [] path with
        | .ok ⟨_, some (.folder _), _⟩ => path ++ "/" ++ (Files.fileName? target).getD target
        | _ => path
      match machine.making (machine.folder.makeLink [] target path) with
      | .ok folder => { machine with folder }.done 0
      | .error error =>
          machine.complain 1
            s!"ln: failed to create symbolic link {apostrophes path}: {error.reason}"
  | _ => machine.complain 1 "ln: missing file operand"

/-- Delete files, and directories if asked to. A path can also lead to the directory of the script
itself. -/
def rm (arguments : List String) (machine : Machine) : Machine :=
  match arguments.findSome? (badOption? ['r', 'R', 'f']) with
  | some letter => refuseOption "rm" letter machine
  | none =>
      let letters := (arguments.filter isOption).flatMap String.toList
      let deep := letters.contains 'r' || letters.contains 'R'
      let force := letters.contains 'f'
      (arguments.filter fun argument => !isOption argument).foldl (fun machine path =>
        let refuse (error : FileError) : Machine :=
          machine.complain 1 s!"rm: cannot remove {apostrophes path}: {error.reason}"
        if Files.components path == Files.components machine.directory && !machine.deleted then
          if deep then machine.deleteDirectory else refuse .isFolder
        else
          match machine.folder.locate false [] path with
          | .error error => if force && error == .notFound then machine else refuse error
          | .ok place =>
              match place.entry with
              | none => if force then machine else refuse .notFound
              | some (.folder _) =>
                  if deep && !place.names.isEmpty then
                    { machine with folder := machine.folder.remove place.names }
                  else refuse .isFolder
              | some _ => { machine with folder := machine.folder.remove place.names })
        (machine.done 0)

/-- Names in order. -/
def sortNames (names : List String) : List String :=
  names.mergeSort fun left right => left ≤ right

/-- List the directory; names that begin with a dot only if asked for. -/
def ls (arguments : List String) (machine : Machine) : Machine :=
  match arguments.findSome? (badOption? ['A', 'a', '1']) with
  | some letter => refuseOption "ls" letter machine
  | none =>
      let letters := (arguments.filter isOption).flatMap String.toList
      let hidden := letters.contains 'A' || letters.contains 'a'
      let names := (machine.folder.namesIn []).filter fun name =>
        hidden || name.toList.head? != some '.'
      (machine.say 1 (String.join ((sortNames names).map (· ++ "\n")))).done 0

/-- Send a signal to the script itself. -/
def kill (arguments : List String) (machine : Machine) : Machine :=
  let (signal, processes) : Nat × List String :=
    match arguments with
    | option :: rest =>
        if isOption option then
          let text := String.ofList option.toList.tail
          let number :=
            if text == "KILL" then 9 else if text == "TERM" then 15 else text.toNat?.getD 15
          (number, rest)
        else (15, arguments)
    | [] => (15, [])
  if processes.contains Machine.processId then machine.finish (.signal signal)
  else machine.shellComplain 1 "kill: No such process"

/-- Whether a condition holds; none if it is not well formed. -/
def condition? (folder : Folder) : List String → Option Bool
  | [] => some false
  | [text] => some (!text.isEmpty)
  | ["!", text] => some text.isEmpty
  | [operator, text] =>
      let entry : Option Entry := match folder.locate true [] text with
        | .ok place => place.entry
        | .error _ => none
      if operator == "-n" then some (!text.isEmpty)
      else if operator == "-z" then some text.isEmpty
      else if operator == "-e" then some entry.isSome
      else if operator == "-d" then
        some (match entry with
          | some (.folder _) => true
          | _ => false)
      else if operator == "-f" then
        some (match entry with
          | some (.file _ _) => true
          | _ => false)
      else if operator == "-s" then
        some (match entry with
          | some (.file content _) => !content.isEmpty
          | other => other.isSome)
      else none
  | [left, operator, right] =>
      let compare (holds : Int → Int → Bool) : Option Bool := do
        let left ← left.toInt?
        let right ← right.toInt?
        some (holds left right)
      if operator == "=" then some (left == right)
      else if operator == "!=" then some (left != right)
      else if operator == "-eq" then compare (· == ·)
      else if operator == "-ne" then compare (· != ·)
      else if operator == "-lt" then compare (· < ·)
      else if operator == "-le" then compare (· ≤ ·)
      else if operator == "-gt" then compare (· > ·)
      else if operator == "-ge" then compare (· ≥ ·)
      else if left == "!" then (condition? folder [operator, right]).map not
      else none
  | "!" :: rest => (condition? folder rest).map not
  | _ => none

/-- Test a condition. -/
def test (arguments : List String) (machine : Machine) : Machine :=
  match condition? machine.folder arguments with
  | some true => machine.done 0
  | some false => machine.done 1
  | none => machine.shellComplain 2 "[: unexpected operator"

/-- The utilities that are programs, under their names. -/
def programs : List (String × (List String → Machine → Machine)) :=
  [("cat", cat), ("echo", echo), ("head", head), ("kill", kill), ("ln", ln), ("ls", ls),
    ("mkdir", mkdir), ("printf", printf), ("rm", rm), ("test", test),
    ("pwd", fun _ machine => (machine.say 1 (machine.directory ++ "\n")).done 0),
    ("true", fun _ machine => machine.done 0), ("false", fun _ machine => machine.done 1)]

end DspBridge.Shell
