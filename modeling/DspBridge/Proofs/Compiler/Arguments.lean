import DspBridge.Compiler.Scratch
import DspBridge.Proofs.Text.Words
import Mathlib.Data.List.Basic

/-!
# The arguments of a program

A command is put together as one text, and the program is started with the words of that text.  So
the name of a unit and every include directory reach the program as they are just when they are
words themselves, and further flags reach it as their words, however they are spaced.
-/

namespace DspBridge

open Text (IsWord words isWord_of_mem_words words_append_space words_of_isWord)

/-- The arguments that stand for a unit, further flags, and include directories. -/
def intendedArguments (name flags : String) (directories : List String) : List String :=
  ["-lang", "cmajor-hybrid", "-json"] ++ directories.flatMap (fun directory => ["-I", directory]) ++
    words flags ++ ["-cn", name, "-o", moduleName name, sourceName name]

/-! ## The words of a command -/

theorem includeFlags_cons (directory : String) (rest : List String) :
    includeFlags (directory :: rest) = " " ++ "-I" ++ " " ++ directory ++ includeFlags rest := by
  rw [includeFlags, List.map_cons, String.join_cons, includeFlags]
  rfl

/-- Include directories are cut into their words, each behind a flag of its own. -/
theorem words_includeFlags (before : String) (directories : List String) :
    words (before ++ includeFlags directories) =
      words before ++ directories.flatMap fun directory => "-I" :: words directory := by
  induction directories generalizing before with
  | nil => simp [includeFlags, String.join_nil]
  | cons directory rest ih =>
      have reordered : before ++ includeFlags (directory :: rest) =
          before ++ " " ++ "-I" ++ " " ++ directory ++ includeFlags rest := by
        rw [includeFlags_cons]
        simp only [String.append_assoc]
      rw [reordered, ih, words_append_space, words_append_space, List.flatMap_cons]
      simp only [List.append_assoc]
      rfl

/-- What stands behind the flags of a command. -/
def closingText (name : String) : String :=
  "-cn" ++ " " ++ (name ++ " " ++ ("-o" ++ " " ++ moduleName name))

/-- With and without further flags a command has the same parts, for a blank text has no words. -/
theorem words_commandText_parts (name flags : String) (directories : List String) :
    words (commandText name flags directories) =
      words (baseFlags ++ includeFlags directories) ++ words flags ++ words (closingText name) := by
  by_cases absent : flags = ""
  · subst absent
    have parted : commandText name "" directories =
        baseFlags ++ includeFlags directories ++ " " ++ closingText name := by
      simp only [commandText, closingText, String.append_assoc]
      rfl
    have nothing : words "" = [] := rfl
    rw [parted, words_append_space, nothing, List.append_nil]
  · have present : flags.isEmpty = false := by
      rw [Bool.eq_false_iff, ne_eq, String.isEmpty_iff]
      exact absent
    have parted : commandText name flags directories =
        baseFlags ++ includeFlags directories ++ " " ++ (flags ++ " " ++ closingText name) := by
      simp only [commandText, closingText, present, Bool.false_eq_true, if_false,
        String.append_assoc]
      rfl
    rw [parted, words_append_space, words_append_space, List.append_assoc]

/-- The words of a command: every part is cut into its own. -/
theorem words_commandText (name flags : String) (directories : List String) :
    words (commandText name flags directories) =
      ["-lang", "cmajor-hybrid", "-json"] ++
        directories.flatMap (fun directory => "-I" :: words directory) ++ words flags ++
        ("-cn" :: words name ++ "-o" :: words (moduleName name)) := by
  have base : words baseFlags = ["-lang", "cmajor-hybrid", "-json"] := by rfl
  have unit : words "-cn" = ["-cn"] := by rfl
  have output : words "-o" = ["-o"] := by rfl
  rw [words_commandText_parts, words_includeFlags, base, closingText, words_append_space,
    words_append_space, words_append_space, unit, output]
  rfl

theorem isWord_moduleName {name : String} (word : IsWord name) : IsWord (moduleName name) := by
  obtain ⟨present, unbroken⟩ := word
  have suffix : ∀ c ∈ ".cmajor".toList, Text.isBlank c = false := by
    simp [Text.isBlank]
  constructor
  · intro empty
    exact present (String.append_eq_empty_iff.mp empty).1
  · rw [moduleName, String.toList_append]
    exact List.forall_mem_append.mpr ⟨unbroken, suffix⟩

/-! ## The arguments -/

/-- A program that can only be started with some arguments. -/
def Program.only (arguments : List String) (program : Program) : Program :=
  { program with
    start := fun given folder =>
      if given = arguments then program.start given folder else .error .notFound }

theorem execute_only (program : Program) (name command : String) :
    Scratch.execute (program.only (commandArguments command name)) name command =
      Scratch.execute program name command := by
  simp only [Scratch.execute, Program.only, if_true]

/-- Arguments that are given as they are intended are words, the name and the directories among
them. -/
theorem isWord_of_intended {name flags : String} {directories : List String}
    (same : commandArguments (commandText name flags directories) name =
      intendedArguments name flags directories) :
    IsWord name ∧ ∀ directory ∈ directories, IsWord directory := by
  have split : intendedArguments name flags directories =
      (["-lang", "cmajor-hybrid", "-json"] ++
        directories.flatMap (fun directory => ["-I", directory]) ++ words flags ++
        ["-cn", name, "-o", moduleName name]) ++ [sourceName name] := by
    simp [intendedArguments]
  rw [commandArguments, split] at same
  have found := List.append_cancel_right same
  constructor
  · apply isWord_of_mem_words
    rw [found]
    simp
  · intro directory member
    have among : directory ∈ directories.flatMap fun directory => ["-I", directory] :=
      List.mem_flatMap.mpr ⟨directory, member, by simp⟩
    apply isWord_of_mem_words
    rw [found, List.mem_append, List.mem_append, List.mem_append]
    exact .inl (.inl (.inr among))

theorem intended_of_isWord {name : String} {directories : List String} (flags : String)
    (unit : IsWord name) (known : ∀ directory ∈ directories, IsWord directory) :
    commandArguments (commandText name flags directories) name =
      intendedArguments name flags directories := by
  have kept : directories.flatMap (fun directory => "-I" :: words directory) =
      directories.flatMap fun directory => ["-I", directory] := by
    apply List.flatMap_congr
    intro directory member
    rw [words_of_isWord (known directory member)]
  rw [commandArguments, words_commandText, kept, words_of_isWord unit,
    words_of_isWord (isWord_moduleName unit), intendedArguments]
  simp only [List.append_assoc]
  rfl

/-- A name with a blank is given in pieces, though the source file is named in one. -/
example : commandArguments (commandText "my synth" " -double " []) "my synth" =
    ["-lang", "cmajor-hybrid", "-json", "-double", "-cn", "my", "synth", "-o", "my",
      "synth.cmajor", "my synth.dsp"] := by rfl

end DspBridge
