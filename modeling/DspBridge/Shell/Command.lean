import DspBridge.Shell.Token

/-!
# Shell commands

The second reading of a script: its tokens as commands. A word is a keyword only where a command
can begin and only if no part of it was quoted.
-/

namespace DspBridge.Shell

/-- A redirection of one descriptor. -/
structure Redirect where
  descriptor : Nat
  kind : RedirectKind
  target : Word
  deriving DecidableEq, Repr

/-- A command. -/
inductive Command where
  /-- Assignments and words on a line of the script. -/
  | simple (line : Nat) (assignments : List (String × Word)) (words : List Word)
  | redirected (line : Nat) (body : Command) (redirects : List Redirect)
  | both (first second : Command)
  | either (first second : Command)
  | piped (first second : Command)
  | negated (body : Command)
  | block (body : List Command)
  | subshell (body : List Command)
  | branch (condition yes no : List Command)
  | loop (untilTrue : Bool) (condition body : List Command)
  | each (name : String) (values : List Word) (body : List Command)
  | choice (subject : Word) (arms : List (List Word × List Command))
  deriving Repr

/-- Tokens that are left to be read. -/
abbrev Tokens := List (Token × Nat)

/-- The word if it is plain, without quotes and replacements. -/
def plainWord? : Word → Option String
  | [.literal text false] => some text
  | _ => none

/-- The plain word at the front of tokens. -/
def keyword? : Tokens → Option String
  | (.word word, _) :: _ => plainWord? word
  | _ => none

/-- The tokens behind a keyword. -/
def afterKeyword? (keyword : String) (tokens : Tokens) : Option Tokens :=
  if keyword? tokens == some keyword then some tokens.tail else none

/-- The tokens behind a sign. -/
def afterSign? (sign : String) : Tokens → Option Tokens
  | (.sign text, _) :: rest => if text == sign then some rest else none
  | _ => none

/-- The tokens behind any line ends. -/
def skipLines : Tokens → Tokens
  | (.sign "\n", _) :: rest => skipLines rest
  | tokens => tokens

/-- The tokens behind any line ends and semicolons. -/
def skipSeparators : Tokens → Tokens
  | (.sign "\n", _) :: rest | (.sign ";", _) :: rest => skipSeparators rest
  | tokens => tokens

/-- The assignment that a word is. -/
def assignment? : Word → Option (String × Word)
  | .literal text false :: rest =>
      let name := text.toList.takeWhile isNameChar
      match text.toList.dropWhile isNameChar with
      | '=' :: value =>
          if name.head?.any beginsName then
            some (String.ofList name,
              (if value.isEmpty then [] else [.literal (String.ofList value) false]) ++ rest)
          else none
      | _ => none
  | _ => none

/-- Words that end a list of commands. -/
def closingWords : List String := ["then", "else", "elif", "fi", "do", "done", "esac", "\x7d"]

/-- Whether a list of commands ends in front of tokens. -/
def endsList : Tokens → Bool
  | [] => true
  | (.sign ")", _) :: _ | (.sign ";;", _) :: _ => true
  | tokens => (keyword? tokens).any closingWords.contains

/-- The redirections at the front of tokens. -/
def takeRedirects : Tokens → List Redirect × Tokens
  | (.redirect descriptor kind, _) :: (.word target, _) :: rest =>
      let (others, after) := takeRedirects rest
      (⟨descriptor, kind, target⟩ :: others, after)
  | tokens => ([], tokens)

/-- The words and redirections at the front of tokens. -/
def takeSimple : Tokens → List Word × List Redirect × Tokens
  | (.redirect descriptor kind, _) :: (.word target, _) :: rest =>
      let (words, redirects, after) := takeSimple rest
      (words, ⟨descriptor, kind, target⟩ :: redirects, after)
  | (.word word, _) :: rest =>
      let (words, redirects, after) := takeSimple rest
      (word :: words, redirects, after)
  | tokens => ([], [], tokens)

/-- The assignments at the front of words, and the other words. -/
def takeAssignments : List Word → List (String × Word) × List Word
  | [] => ([], [])
  | word :: rest =>
      match assignment? word with
      | some assignment =>
          let (others, words) := takeAssignments rest
          (assignment :: others, words)
      | none => ([], word :: rest)

/-- A command with redirections, if there are any. -/
def withRedirects (line : Nat) (command : Command) (redirects : List Redirect) : Command :=
  if redirects.isEmpty then command else .redirected line command redirects

/-- The patterns of an arm, up to its parenthesis. -/
def takePatterns : Tokens → Option (List Word × Tokens)
  | (.word word, _) :: (.sign ")", _) :: rest => some ([word], rest)
  | (.word word, _) :: (.sign "|", _) :: rest =>
      (takePatterns rest).map fun (words, after) => (word :: words, after)
  | _ => none

/-- The words at the front of tokens. -/
def takeWords : Tokens → List Word × Tokens
  | (.word word, _) :: rest =>
      let (words, after) := takeWords rest
      (word :: words, after)
  | tokens => ([], tokens)

/-- All arguments, each as a word. -/
def allArguments : Word := [.parameter "@" true]

mutual

/-- Read commands up to what ends a list. -/
def readList : (fuel : Nat) → Tokens → Option (List Command × Tokens)
  | 0, _ => none
  | fuel + 1, tokens => do
      let tokens := skipSeparators tokens
      if endsList tokens then some ([], tokens)
      else
        let (command, after) ← readChain fuel tokens
        match after with
        | (.sign sign, _) :: rest =>
            if sign == ";" || sign == "\n" || sign == "&" then
              let (others, after) ← readList fuel rest
              some (command :: others, after)
            else some ([command], after)
        | _ => some ([command], after)

/-- Read commands joined by `&&` and `||`. -/
def readChain : (fuel : Nat) → Tokens → Option (Command × Tokens)
  | 0, _ => none
  | fuel + 1, tokens => do
      let (first, after) ← readPipe fuel tokens
      readChainAfter fuel first after

/-- Read what is joined to a command. -/
def readChainAfter : (fuel : Nat) → Command → Tokens → Option (Command × Tokens)
  | 0, _, _ => none
  | fuel + 1, first, tokens =>
      match afterSign? "&&" tokens, afterSign? "||" tokens with
      | some rest, _ => do
          let (second, after) ← readPipe fuel (skipLines rest)
          readChainAfter fuel (.both first second) after
      | none, some rest => do
          let (second, after) ← readPipe fuel (skipLines rest)
          readChainAfter fuel (.either first second) after
      | none, none => some (first, tokens)

/-- Read commands the output of each of which is the input of the next. -/
def readPipe : (fuel : Nat) → Tokens → Option (Command × Tokens)
  | 0, _ => none
  | fuel + 1, tokens => do
      let (first, after) ← readNegation fuel tokens
      match afterSign? "|" after with
      | none => some (first, after)
      | some rest => do
          let (second, after) ← readPipe fuel (skipLines rest)
          some (.piped first second, after)

/-- Read a command that may be negated. -/
def readNegation : (fuel : Nat) → Tokens → Option (Command × Tokens)
  | 0, _ => none
  | fuel + 1, tokens =>
      match afterKeyword? "!" tokens with
      | some rest => do
          let (command, after) ← readNegation fuel rest
          some (.negated command, after)
      | none => do
          let line := (tokens.head?.map Prod.snd).getD 0
          match ← readCompound fuel tokens with
          | some (command, after) =>
              let (redirects, after) := takeRedirects after
              some (withRedirects line command redirects, after)
          | none =>
              let (words, redirects, after) := takeSimple tokens
              let (assignments, words) := takeAssignments words
              if words.isEmpty && assignments.isEmpty && redirects.isEmpty then none
              else some (withRedirects line (.simple line assignments words) redirects, after)

/-- Read a command that begins with a keyword or a parenthesis, if one does. -/
def readCompound : (fuel : Nat) → Tokens → Option (Option (Command × Tokens))
  | 0, _ => none
  | fuel + 1, tokens =>
      match afterSign? "(" tokens with
      | some rest => do
          let (body, after) ← readList fuel rest
          let after ← afterSign? ")" after
          some (some (.subshell body, after))
      | none =>
          match keyword? tokens with
          | some "\x7b" => do
              let (body, after) ← readList fuel tokens.tail
              let after ← afterKeyword? "\x7d" after
              some (some (.block body, after))
          | some "if" => do
              let (command, after) ← readBranch fuel tokens.tail
              some (some (command, after))
          | some "while" => do
              let (command, after) ← readLoop fuel false tokens.tail
              some (some (command, after))
          | some "until" => do
              let (command, after) ← readLoop fuel true tokens.tail
              some (some (command, after))
          | some "for" => do
              let name ← keyword? tokens.tail
              let after := skipLines tokens.tail.tail
              let (values, after) :=
                match afterKeyword? "in" after with
                | some rest => takeWords rest
                | none => ([allArguments], after)
              let after ← afterKeyword? "do" (skipSeparators after)
              let (body, after) ← readList fuel after
              let after ← afterKeyword? "done" after
              some (some (.each name values body, after))
          | some "case" =>
              match tokens.tail with
              | (.word subject, _) :: rest => do
                  let after ← afterKeyword? "in" (skipLines rest)
                  let (arms, after) ← readArms fuel after
                  some (some (.choice subject arms, after))
              | _ => none
          | _ => some none

/-- Read a branch behind its keyword. -/
def readBranch : (fuel : Nat) → Tokens → Option (Command × Tokens)
  | 0, _ => none
  | fuel + 1, tokens => do
      let (condition, after) ← readList fuel tokens
      let after ← afterKeyword? "then" after
      let (yes, after) ← readList fuel after
      match afterKeyword? "elif" after, afterKeyword? "else" after with
      | some rest, _ => do
          let (no, after) ← readBranch fuel rest
          some (.branch condition yes [no], after)
      | none, some rest => do
          let (no, after) ← readList fuel rest
          let after ← afterKeyword? "fi" after
          some (.branch condition yes no, after)
      | none, none => do
          let after ← afterKeyword? "fi" after
          some (.branch condition yes [], after)

/-- Read a loop behind its keyword. -/
def readLoop : (fuel : Nat) → (untilTrue : Bool) → Tokens → Option (Command × Tokens)
  | 0, _, _ => none
  | fuel + 1, untilTrue, tokens => do
      let (condition, after) ← readList fuel tokens
      let after ← afterKeyword? "do" after
      let (body, after) ← readList fuel after
      let after ← afterKeyword? "done" after
      some (.loop untilTrue condition body, after)

/-- Read the arms of a choice up to its end. -/
def readArms : (fuel : Nat) → Tokens → Option (List (List Word × List Command) × Tokens)
  | 0, _ => none
  | fuel + 1, tokens => do
      let tokens := skipLines tokens
      match afterKeyword? "esac" tokens with
      | some rest => some ([], rest)
      | none =>
          let (patterns, after) ← takePatterns ((afterSign? "(" tokens).getD tokens)
          let (body, after) ← readList fuel after
          match afterSign? ";;" (skipSeparators after) with
          | some rest => do
              let (others, after) ← readArms fuel rest
              some ((patterns, body) :: others, after)
          | none => do
              let after ← afterKeyword? "esac" (skipSeparators after)
              some ([(patterns, body)], after)

end

/-- The commands of a script; none if it is not well formed. -/
def commands? (script : String) : Option (List Command) :=
  let tokens := tokens script
  match readList (9 * tokens.length + 9) tokens with
  | some (commands, []) => some commands
  | _ => none

end DspBridge.Shell
