import DspBridge.Log.Event
import DspBridge.Text.Blank

/-!
# Log filters

Which events are shown. A filter is a list of rules: a level, or a target with a level for all that
begins with it. The rule with the longest target decides, and of two rules for one target the later
one does.
-/

namespace DspBridge.Log

/-- How much a level lets through: everything up to that number. -/
abbrev Threshold := Nat

/-- The place of a level among the thresholds. -/
def rank : Level → Threshold
  | .error => 1
  | .warn => 2
  | .info => 3
  | .debug => 4

/-- The names of thresholds, which can also be given as numbers. -/
def thresholdNames : List String := ["off", "error", "warn", "info", "debug", "trace"]

/-- The threshold of a name or a number. -/
def threshold? (text : String) : Option Threshold :=
  let lower := text.toLower
  match thresholdNames.findIdx? (· == lower) with
  | some number => some number
  | none => (text.toNat?).filter (· < thresholdNames.length)

/-- A rule of a filter; an empty target is about everything. -/
structure Rule where
  target : String
  threshold : Threshold
  deriving DecidableEq, Repr

/-- Which events are shown. -/
structure Filter where
  rules : List Rule
  deriving DecidableEq, Repr

namespace Filter

/-- Show events up to a level. -/
def upTo (level : Level) : Filter := ⟨[⟨"", rank level⟩]⟩

/-- The rule that a text is. A target by itself lets everything through, and with an empty level
only errors. -/
def rule? (text : String) : Option Rule :=
  match threshold? text with
  | some threshold => some ⟨"", threshold⟩
  | none =>
      let target := text.toList.takeWhile (· != '=')
      match text.toList.dropWhile (· != '=') with
      | [] => some ⟨text, thresholdNames.length - 1⟩
      | [_] => some ⟨String.ofList target, rank .error⟩
      | _ :: level =>
          (threshold? (String.ofList level)).map fun threshold => ⟨String.ofList target, threshold⟩

/-- The filter that a text is: rules with commas between them. Without any rule only errors are
shown. -/
def parse? (text : String) : Option Filter := do
  let rules ← ((text.splitOn ",").filter fun part => !part.isEmpty).mapM fun part =>
    rule? (Text.trim part)
  some (if rules.isEmpty then upTo .error else ⟨rules⟩)

/-- The better rule for a target of two that fit. -/
def better (held : Option Rule) (rule : Rule) : Option Rule :=
  match held with
  | some held => if rule.target.length < held.target.length then some held else some rule
  | none => some rule

/-- Whether an event is shown. -/
def shows (filter : Filter) (event : Event) : Bool :=
  let record := event.record
  let fitting := filter.rules.filter fun rule =>
    rule.target.toList.isPrefixOf record.target.toList
  (fitting.foldl better none).any fun rule => rank record.level ≤ rule.threshold

end Filter
end DspBridge.Log
