/-!
# Patterns

Patterns of choices: a star stands for any text, a question mark for any character, and a bracket
for one of the characters in it. A quoted character stands for itself.
-/

namespace DspBridge.Shell

/-- Characters of a pattern, each with whether it was quoted. -/
abbrev Pattern := List (Char × Bool)

/-- A set of characters between brackets: the set, whether it is negated, and what follows it. -/
def bracket? (pattern : Pattern) : Option (List Char × Bool × Pattern) :=
  let negated := pattern.head? == some ('!', false)
  let inside := if negated then pattern.tail else pattern
  let set := inside.takeWhile (· != (']', false))
  match inside.dropWhile (· != (']', false)) with
  | _ :: rest => if set.isEmpty then none else some (set.map Prod.fst, negated, rest)
  | [] => none

/-- Whether a character is in a set, which may hold ranges. -/
def inSet (c : Char) : List Char → Bool
  | first :: '-' :: last :: rest => (first ≤ c && c ≤ last) || inSet c rest
  | other :: rest => other == c || inSet c rest
  | [] => false

/-- Whether a pattern stands for a text; each step takes a character of one of them. -/
def matchesFrom : (fuel : Nat) → Pattern → List Char → Bool
  | 0, _, _ => false
  | _ + 1, [], text => text.isEmpty
  | fuel + 1, (c, quoted) :: rest, text =>
      if c == '*' && !quoted then
        matchesFrom fuel rest text ||
          match text with
          | [] => false
          | _ :: tail => matchesFrom fuel ((c, quoted) :: rest) tail
      else
        match text with
        | [] => false
        | next :: tail =>
            if c == '?' && !quoted then matchesFrom fuel rest tail
            else if c == '[' && !quoted then
              match bracket? rest with
              | some (set, negated, rest) =>
                  (inSet next set != negated) && matchesFrom fuel rest tail
              | none => next == c && matchesFrom fuel rest tail
            else next == c && matchesFrom fuel rest tail

/-- Whether a pattern stands for a text. -/
def Pattern.accepts (pattern : Pattern) (text : String) : Bool :=
  matchesFrom (pattern.length + text.length + 1) pattern text.toList

end DspBridge.Shell
