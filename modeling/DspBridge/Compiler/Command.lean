import DspBridge.Text.Blank

/-!
# Compiler commands

The names that belong to a compilation unit, and the command line that translates it. The command
is a text; the compiler sees its words.
-/

namespace DspBridge

/-- The ending of source files. -/
def sourceSuffix : String := ".dsp"

/-- A text less an ending that it has. -/
def stripSuffix? (suffix text : String) : Option String :=
  if suffix.toList.isSuffixOf text.toList then
    some (String.ofList (text.toList.take (text.toList.length - suffix.toList.length)))
  else none

/-- The unit of a source file: its name without the ending, which is matched exactly. -/
def unitName? (filename : String) : Option String := stripSuffix? sourceSuffix filename

/-- The source file of a unit. -/
def sourceName (name : String) : String := name ++ sourceSuffix

/-- The translated source of a unit. -/
def moduleName (name : String) : String := name ++ ".cmajor"

/-- The user interface descriptor of a unit. -/
def descriptorName (name : String) : String := name ++ ".json"

/-- The flags that every command begins with. -/
def baseFlags : String := "-lang cmajor-hybrid -json"

/-- The flags that make directories known to the compiler. -/
def includeFlags (directories : List String) : String :=
  String.join (directories.map fun directory => " -I " ++ directory)

/-- The command that translates a unit. One blank follows further flags, and none stands for them
if there are none. -/
def commandText (name flags : String) (directories : List String) : String :=
  let further := if flags.isEmpty then "" else flags ++ " "
  baseFlags ++ includeFlags directories ++ " " ++ further ++ "-cn " ++ name ++ " -o " ++ moduleName name

/-- The arguments that a command is run with: its words, and then the source file. -/
def commandArguments (command name : String) : List String :=
  Text.words command ++ [sourceName name]

end DspBridge
