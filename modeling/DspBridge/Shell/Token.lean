/-!
# Words and signs of shell scripts

The first reading of a script: comments and blanks are dropped, quotes are taken off, and what is
left are words, control signs and redirections, each with its line. A word keeps apart what is to be
replaced when the script runs, and remembers which parts of it were quoted.
-/

namespace DspBridge.Shell

/-- A part of a word. -/
inductive Part where
  | literal (text : String) (quoted : Bool)
  | parameter (name : String) (quoted : Bool)
  | substitution (script : String) (quoted : Bool)
  deriving DecidableEq, Repr

/-- A word: its parts in order. -/
abbrev Word := List Part

/-- How a redirection opens its file. -/
inductive RedirectKind where
  | read
  | write
  | append
  | duplicate
  deriving DecidableEq, Repr

/-- What a script is made of. -/
inductive Token where
  | word (parts : Word)
  | sign (text : String)
  | redirect (descriptor : Nat) (kind : RedirectKind)
  deriving DecidableEq, Repr

/-- Characters that end a word. -/
def endsWord (c : Char) : Bool :=
  c == ' ' || c == '\t' || c == '\n' || c == ';' || c == '&' || c == '|' || c == '<' || c == '>' ||
    c == '(' || c == ')'

/-- Characters that a name begins with. -/
def beginsName (c : Char) : Bool := c.isAlpha || c == '_'

/-- Characters of names. -/
def isNameChar (c : Char) : Bool := c.isAlphanum || c == '_'

/-- One-character parameters that are not digits. -/
def isSpecialParameter (c : Char) : Bool :=
  c == '#' || c == '@' || c == '*' || c == '?' || c == '$' || c == '!' || c == '-'

/-- The inside of parentheses that have been opened, and what follows them. Parentheses inside
quotes do not count; `quote` is the quote that is open, and `depth` counts inner parentheses. -/
def takeNested : (depth : Nat) → (quote : Option Char) → List Char → List Char × List Char
  | _, _, [] => ([], [])
  | depth, quote, c :: rest =>
      let keep (depth : Nat) (quote : Option Char) : List Char × List Char :=
        let (inside, after) := takeNested depth quote rest
        (c :: inside, after)
      match quote with
      | some mark =>
          if c == '\\' && mark == '"' then
            match rest with
            | [] => ([c], [])
            | next :: rest =>
                let (inside, after) := takeNested depth quote rest
                (c :: next :: inside, after)
          else keep depth (if c == mark then none else quote)
      | none =>
          if c == '\\' then
            match rest with
            | [] => ([c], [])
            | next :: rest =>
                let (inside, after) := takeNested depth none rest
                (c :: next :: inside, after)
          else if c == '"' || c.toNat == 39 then keep depth (some c)
          else if c == '(' then keep (depth + 1) none
          else if c == ')' then
            match depth with
            | 0 => ([], rest)
            | depth + 1 => keep depth none
          else keep depth none

/-- What follows a dollar sign, if it is to be replaced. -/
def takeDollar (quoted : Bool) : List Char → Option (Part × List Char)
  | [] => none
  | c :: rest =>
      if c == '(' then
        let (inside, after) := takeNested 0 none rest
        some (.substitution (String.ofList inside) quoted, after)
      else if c == '\x7b' then
        let name := rest.takeWhile (· != '\x7d')
        some (.parameter (String.ofList name) quoted, (rest.dropWhile (· != '\x7d')).tail)
      else if c.isDigit || isSpecialParameter c then
        some (.parameter (String.singleton c) quoted, rest)
      else if beginsName c then
        let name := (c :: rest).takeWhile isNameChar
        some (.parameter (String.ofList name) quoted, (c :: rest).dropWhile isNameChar)
      else none

/-- The script between two grave accents, the first of which has been read, and what follows them. -/
def takeAccents : List Char → List Char × List Char
  | [] => ([], [])
  | c :: rest =>
      if c.toNat == 96 then ([], rest)
      else
        let (inside, after) := takeAccents rest
        (c :: inside, after)

/-- What is to be replaced at a dollar sign or a grave accent, and what follows it. -/
def takeReplaced (quoted : Bool) (c : Char) (rest : List Char) : Option (Part × List Char) :=
  if c == '$' then takeDollar quoted rest
  else if c.toNat == 96 then
    let (inside, after) := takeAccents rest
    some (.substitution (String.ofList inside) quoted, after)
  else none

/-- A text put in front of a word that goes on with a literal of the same kind, or as a part of its
own. -/
def consChar (c : Char) (quoted : Bool) : Word → Word
  | .literal text same :: rest =>
      if same == quoted then .literal (String.singleton c ++ text) quoted :: rest
      else .literal (String.singleton c) quoted :: .literal text same :: rest
  | word => .literal (String.singleton c) quoted :: word

/-- Read the inside of double quotes; each step takes a character. -/
def takeQuoted : (fuel : Nat) → List Char → Word × List Char
  | 0, text => ([], text)
  | _ + 1, [] => ([], [])
  | fuel + 1, c :: rest =>
      let keep (c : Char) (rest : List Char) : Word × List Char :=
        let (word, after) := takeQuoted fuel rest
        (consChar c true word, after)
      if c == '"' then ([], rest)
      else if c == '\\' then
        match rest with
        | next :: rest' =>
            if next == '$' || next == '"' || next == '\\' || next.toNat == 96 then keep next rest'
            else if next == '\n' then takeQuoted fuel rest'
            else keep c rest
        | [] => keep c rest
      else
        match takeReplaced true c rest with
        | some (part, rest) =>
            let (word, after) := takeQuoted fuel rest
            (part :: word, after)
        | none => keep c rest

/-- Read a word; each step takes a character. -/
def takeWord : (fuel : Nat) → List Char → Word × List Char
  | 0, text => ([], text)
  | _ + 1, [] => ([], [])
  | fuel + 1, c :: rest =>
      let keep (quoted : Bool) (c : Char) (rest : List Char) : Word × List Char :=
        let (word, after) := takeWord fuel rest
        (consChar c quoted word, after)
      if endsWord c then ([], c :: rest)
      else if c.toNat == 39 then
        let inside := rest.takeWhile (·.toNat != 39)
        let (word, after) := takeWord fuel (rest.dropWhile (·.toNat != 39)).tail
        (.literal (String.ofList inside) true :: word, after)
      else if c == '"' then
        let (inside, rest) := takeQuoted fuel rest
        let (word, after) := takeWord fuel rest
        ((if inside.isEmpty then [.literal "" true] else inside) ++ word, after)
      else if c == '\\' then
        match rest with
        | next :: rest' => if next == '\n' then takeWord fuel rest' else keep true next rest'
        | [] => keep true c rest
      else
        match takeReplaced false c rest with
        | some (part, rest) =>
            let (word, after) := takeWord fuel rest
            (part :: word, after)
        | none => keep false c rest

/-- The control signs, longer ones first. -/
def signs : List String := [";;", "&&", "||", ";", "&", "|", "(", ")", "\n"]

/-- The redirections and the descriptors that they are about, longer ones first. -/
def redirections : List (String × Nat × RedirectKind) :=
  [(">>", 1, .append), (">&", 1, .duplicate), (">|", 1, .write), (">", 1, .write),
    ("<&", 0, .duplicate), ("<", 0, .read)]

/-- The rest of a text that begins with another. -/
def dropStart? (start : String) (text : List Char) : Option (List Char) :=
  if start.toList.isPrefixOf text then some (text.drop start.length) else none

/-- A redirection at the front of a text. -/
def takeRedirect (descriptor : Option Nat) (text : List Char) : Option (Token × List Char) :=
  redirections.findSome? fun (sign, standard, kind) =>
    (dropStart? sign text).map fun rest => (.redirect (descriptor.getD standard) kind, rest)

/-- A control sign at the front of a text. -/
def takeSign (text : List Char) : Option (Token × List Char) :=
  signs.findSome? fun sign => (dropStart? sign text).map fun rest => (.sign sign, rest)

/-- Number of line ends in a text. -/
def lineEnds (text : List Char) : Nat := text.count '\n'

/-- The tokens of a script, each with its line; each step takes a character. -/
def tokensFrom : (fuel : Nat) → (line : Nat) → List Char → List (Token × Nat)
  | 0, _, _ => []
  | _ + 1, _, [] => []
  | fuel + 1, line, c :: rest =>
      if c == ' ' || c == '\t' then tokensFrom fuel line rest
      else if c == '#' then tokensFrom fuel line (rest.dropWhile (· != '\n'))
      else
        let text := c :: rest
        let digits := text.takeWhile Char.isDigit
        let behind := text.dropWhile Char.isDigit
        let descriptor := if digits.isEmpty then none else (String.ofList digits).toNat?
        match takeRedirect descriptor behind with
        | some (token, after) => (token, line) :: tokensFrom fuel line after
        | none =>
            match takeSign text with
            | some (token, after) =>
                (token, line) :: tokensFrom fuel (line + if c == '\n' then 1 else 0) after
            | none =>
                let (word, after) := takeWord fuel text
                (.word word, line) ::
                  tokensFrom fuel (line + lineEnds text - lineEnds after) after

/-- The tokens of a script, each with its line. -/
def tokens (script : String) : List (Token × Nat) :=
  tokensFrom (script.length + 1) 1 script.toList

end DspBridge.Shell
