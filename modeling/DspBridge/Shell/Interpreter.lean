import DspBridge.Shell.Command
import DspBridge.Shell.Pattern
import DspBridge.Shell.Utility

/-!
# Running scripts

The meaning of commands on the state of a script. Words are replaced by fields first: parameters by
their values, substitutions by the output of their scripts, and unquoted values are cut at blanks.
A script that takes too many steps is ended.
-/

namespace DspBridge.Shell

open Files (Folder FileError)

/-- A field of a command, each character with whether it was quoted. -/
abbrev Field := List (Char × Bool)

/-- The text of a field. -/
def Field.text (field : Field) : String := String.ofList (field.map Prod.fst)

/-- A text as a field of quoted or unquoted characters. -/
def fieldOf (quoted : Bool) (text : List Char) : Field := text.map fun c => (c, quoted)

/-- Fields that are being put together: the finished ones, and the one that may still grow. -/
structure Fields where
  finished : List Field
  open? : Option Field

namespace Fields

/-- No fields. -/
def empty : Fields := ⟨[], none⟩

/-- Let the last field grow. -/
def extend (fields : Fields) (more : Field) : Fields :=
  { fields with open? := some (fields.open?.getD [] ++ more) }

/-- Finish the last field. -/
def close (fields : Fields) : Fields := ⟨fields.finished ++ fields.open?.toList, none⟩

/-- Add separate fields, the first of which goes on with the last one. -/
def spread : Fields → List Field → Fields
  | fields, [] => fields
  | fields, [field] => fields.extend field
  | fields, field :: rest => (fields.extend field).close.spread rest

/-- Blanks between fields. -/
def isSeparator (c : Char) : Bool := c == ' ' || c == '\t' || c == '\n'

/-- Add an unquoted value, cut at its blanks. -/
def cut : Fields → List Char → Fields
  | fields, [] => fields
  | fields, c :: rest =>
      if isSeparator c then fields.close.cut rest else (fields.extend [(c, false)]).cut rest

/-- All fields. -/
def toList (fields : Fields) : List Field := fields.close.finished

end Fields

/-- A text without the line ends that it ends with. -/
def dropLineEnds (text : List Char) : List Char :=
  (text.reverse.dropWhile (· == '\n')).reverse

/-- Open a file for a redirection, and let the descriptor lead there. -/
def redirectTo (descriptor : Nat) (kind : RedirectKind) (target : String) (machine : Machine) :
    Except String Machine :=
  let lead (stream : Stream) (machine : Machine) : Machine :=
    { machine with
      streams := (descriptor, stream) :: machine.streams.filter (·.1 != descriptor) }
  match kind with
  | .duplicate =>
      if target == "-" then
        .ok { machine with streams := machine.streams.filter (·.1 != descriptor) }
      else
        match target.toNat?.bind fun other => machine.streams.lookup other with
        | some stream => .ok (lead stream machine)
        | none => .error s!"{target}: Bad file descriptor"
  | .read =>
      if target == "/dev/null" then .ok { machine with input := [] }
      else
        match machine.folder.readBytes [] target with
        | .ok bytes => .ok { machine with input := bytes }
        | .error error => .error s!"cannot open {target}: {openReason false error}"
  | .write | .append =>
      if target == "/dev/null" then .ok (lead .discard machine)
      else
        match machine.making (machine.folder.fileForWriting [] target) with
        | .error error => .error s!"cannot create {target}: {openReason true error}"
        | .ok (names, content, standing) =>
            let kept := if kind = .append then content else []
            let folder := machine.folder.put names (.file kept standing)
            .ok (lead (.file names) { machine with folder })

/-- The machine with the descriptors and input that another one had. -/
def restoreStreams (before machine : Machine) : Machine :=
  { machine with streams := before.streams, input := before.input }

/-- Commands after whose failing redirection a script ends. -/
def specialCommands : List String := [":", "exec", "exit", "export", "readonly", "shift"]

/-- Run a command that is built into the shell or a utility. -/
def call (name : String) (arguments : List String) (machine : Machine) : Machine :=
  match name with
  | ":" => machine.done 0
  | "exit" =>
      machine.finish (.code ((arguments.head?.bind String.toNat?).getD machine.status % 256))
  | "shift" =>
      { machine with
        arguments := machine.arguments.drop ((arguments.head?.bind String.toNat?).getD 1) }.done 0
  | "export" | "readonly" =>
      (arguments.foldl (fun machine text =>
        match assignment? [.literal text false] with
        | some (name, [.literal value _]) => machine.assign name value
        | some (name, _) => machine.assign name ""
        | none => machine) machine).done 0
  | "[" =>
      if arguments.getLast? == some "]" then test arguments.dropLast machine
      else machine.shellComplain 2 "[: missing ]"
  | _ =>
      match programs.lookup name with
      | some utility => utility arguments machine
      | none => machine.shellComplain 127 s!"{name}: not found"

mutual

/-- Run commands in order. -/
def runAll : (fuel : Nat) → List Command → Machine → Machine
  | 0, _, machine => machine.finish (.signal 9)
  | _ + 1, [], machine => machine
  | fuel + 1, command :: rest, machine =>
      if machine.finished.isSome then machine else runAll fuel rest (run fuel command machine)

/-- Run a command. -/
def run : (fuel : Nat) → Command → Machine → Machine
  | 0, _, machine => machine.finish (.signal 9)
  | fuel + 1, command, machine =>
      if machine.finished.isSome then machine
      else
        match command with
        | .simple line assignments words =>
            let (fields, machine) := expandAll fuel words { machine with line }
            let machine := assignAll fuel assignments machine
            match fields.map Field.text with
            | [] => if assignments.isEmpty then machine.done 0 else machine
            | ["exec"] => machine.done 0
            | "exec" :: name :: arguments =>
                if (programs.lookup name).isNone then
                  (machine.shellComplain 127 s!"exec: {name}: not found").finish (.code 127)
                else
                  let machine := call name arguments machine
                  machine.finish (.code machine.status)
            | name :: arguments => call name arguments machine
        | .redirected line body redirects =>
            let before := machine
            match redirectAll fuel redirects { machine with line } with
            | (some complaint, machine) =>
                let machine := (restoreStreams before machine).shellComplain 2 complaint
                if isSpecial body then machine.finish (.code 2) else machine
            | (none, machine) =>
                let machine := run fuel body machine
                if isExec body then machine else restoreStreams before machine
        | .both first second =>
            let machine := run fuel first machine
            if machine.status == 0 then run fuel second machine else machine
        | .either first second =>
            let machine := run fuel first machine
            if machine.status == 0 then machine else run fuel second machine
        | .piped first second =>
            let (text, machine) := capture machine (run fuel first (redirectOutput machine))
            let after := run fuel second { machine with input := text }
            { leaveSubshell machine after with input := machine.input }
        | .negated body =>
            let machine := run fuel body machine
            machine.done (if machine.status == 0 then 1 else 0)
        | .block body => runAll fuel body machine
        | .subshell body => leaveSubshell machine (runAll fuel body machine)
        | .branch condition yes no =>
            let machine := runAll fuel condition machine
            if machine.status == 0 then runAll fuel yes (machine.done 0)
            else runAll fuel no (machine.done 0)
        | .loop untilTrue condition body =>
            let machine := runAll fuel condition machine
            if (machine.status == 0) != untilTrue then
              run fuel (.loop untilTrue condition body) (runAll fuel body machine)
            else machine.done 0
        | .each name values body =>
            let (fields, machine) := expandAll fuel values machine
            runEach fuel name (fields.map Field.text) body (machine.done 0)
        | .choice subject arms =>
            let (field, machine) := expandWhole fuel subject machine
            choose fuel field.text arms (machine.done 0)

/-- Whether a failing redirection of a command ends the script. -/
def isSpecial : Command → Bool
  | .simple _ _ (word :: _) => (plainWord? word).any specialCommands.contains
  | _ => false

/-- Whether a command makes its redirections permanent. -/
def isExec : Command → Bool
  | .simple _ _ [word] => plainWord? word == some "exec"
  | _ => false

/-- The machine behind a subshell: what it wrote and changed in the directory stays. -/
def leaveSubshell (before after : Machine) : Machine :=
  let status := match after.exit with
    | .code status => status
    | .signal number => 128 + number
  { before with
    folder := after.folder, deleted := after.deleted, input := after.input, output := after.output
    diagnostics := after.diagnostics, status }

/-- The machine whose output is going to be caught. -/
def redirectOutput (machine : Machine) : Machine :=
  { machine with
    output := []
    streams := (1, .output) :: machine.streams.filter (·.1 != 1) }

/-- What a machine has written in a subshell since its output is being caught, and the machine behind
the subshell. -/
def capture (before after : Machine) : List UInt8 × Machine :=
  (after.output, { leaveSubshell before after with output := before.output })

/-- Run commands for each value of a variable. -/
def runEach : (fuel : Nat) → String → List String → List Command → Machine → Machine
  | 0, _, _, _, machine => machine.finish (.signal 9)
  | _ + 1, _, [], _, machine => machine
  | fuel + 1, name, value :: rest, body, machine =>
      if machine.finished.isSome then machine
      else runEach fuel name rest body (runAll fuel body (machine.assign name value))

/-- Run the first arm that has a pattern for a text. -/
def choose : (fuel : Nat) → String → List (List Word × List Command) → Machine → Machine
  | 0, _, _, machine => machine.finish (.signal 9)
  | _ + 1, _, [], machine => machine
  | fuel + 1, text, (patterns, body) :: rest, machine =>
      match matching fuel text patterns machine with
      | (true, machine) => runAll fuel body machine
      | (false, machine) => choose fuel text rest machine

/-- Whether one of some patterns stands for a text. -/
def matching : (fuel : Nat) → String → List Word → Machine → Bool × Machine
  | 0, _, _, machine => (false, machine.finish (.signal 9))
  | _ + 1, _, [], machine => (false, machine)
  | fuel + 1, text, pattern :: rest, machine =>
      let (field, machine) := expandWhole fuel pattern machine
      if Pattern.accepts field text then (true, machine) else matching fuel text rest machine

/-- Open the files of redirections in order, up to the first that fails. -/
def redirectAll : (fuel : Nat) → List Redirect → Machine → Option String × Machine
  | 0, _, machine => (none, machine.finish (.signal 9))
  | _ + 1, [], machine => (none, machine)
  | fuel + 1, redirect :: rest, machine =>
      let (target, machine) := expandWhole fuel redirect.target machine
      match redirectTo redirect.descriptor redirect.kind target.text machine with
      | .ok machine => redirectAll fuel rest machine
      | .error complaint => (some complaint, machine)

/-- Set variables in order. -/
def assignAll : (fuel : Nat) → List (String × Word) → Machine → Machine
  | 0, _, machine => machine.finish (.signal 9)
  | _ + 1, [], machine => machine
  | fuel + 1, (name, word) :: rest, machine =>
      let (field, machine) := expandWhole fuel word (machine.done 0)
      assignAll fuel rest (machine.assign name field.text)

/-- The fields of words. -/
def expandAll : (fuel : Nat) → List Word → Machine → List Field × Machine
  | 0, _, machine => ([], machine.finish (.signal 9))
  | _ + 1, [], machine => ([], machine)
  | fuel + 1, word :: rest, machine =>
      let (fields, machine) := expand fuel true word Fields.empty machine
      let (others, machine) := expandAll fuel rest machine
      (fields.toList ++ others, machine)

/-- A word as one field, which is not cut at blanks. -/
def expandWhole : (fuel : Nat) → Word → Machine → Field × Machine
  | 0, _, machine => ([], machine.finish (.signal 9))
  | fuel + 1, word, machine =>
      let (fields, machine) := expand fuel false word Fields.empty machine
      (fields.toList.flatten, machine)

/-- Fields with the parts of a word put behind them; `cutting` says whether unquoted values are cut
at blanks. -/
def expand : (fuel : Nat) → (cutting : Bool) → Word → Fields → Machine → Fields × Machine
  | 0, _, _, fields, machine => (fields, machine.finish (.signal 9))
  | _ + 1, _, [], fields, machine => (fields, machine)
  | fuel + 1, cutting, part :: rest, fields, machine =>
      let put (text : List Char) (quoted : Bool) : Fields :=
        if cutting && !quoted then fields.cut text else fields.extend (fieldOf quoted text)
      match part with
      | .literal text quoted =>
          expand fuel cutting rest (fields.extend (fieldOf quoted text.toList)) machine
      | .parameter name quoted =>
          if cutting && quoted && name == "@" then
            let arguments := machine.arguments.map fun text => fieldOf true text.toList
            expand fuel cutting rest (fields.spread arguments) machine
          else expand fuel cutting rest (put (machine.parameter name).toList quoted) machine
      | .substitution script quoted =>
          let (text, machine) := substitute fuel script machine
          expand fuel cutting rest (put text quoted) machine

/-- The output of a script in a subshell, less the line ends at its end. -/
def substitute : (fuel : Nat) → String → Machine → List Char × Machine
  | 0, _, machine => ([], machine.finish (.signal 9))
  | fuel + 1, script, machine =>
      match commands? script with
      | none => ([], machine.shellComplain 2 "Syntax error")
      | some commands =>
          let (bytes, machine) := capture machine (runAll fuel commands (redirectOutput machine))
          (dropLineEnds (Text.Utf8.decodeLossy bytes).toList, machine)

end

/-- The number of steps after which a script is ended. -/
def stepLimit : Nat := 5000

/-- Run a script to its end. -/
def runScript (script : String) (machine : Machine) : Machine :=
  match commands? script with
  | some commands => runAll stepLimit commands machine
  | none => (machine.shellComplain 2 "Syntax error").finish (.code 2)

end DspBridge.Shell
