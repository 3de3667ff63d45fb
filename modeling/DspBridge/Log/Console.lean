import DspBridge.Log.Filter

/-!
# Events on the console

The text of an event: its level, its target, what it says, and its fields. Characters by which a
text could steer a terminal are written as escapes, in what an event says but not in its fields.
-/

namespace DspBridge.Log

/-- The name of a level, five characters wide. -/
def levelName : Level → String
  | .error => "ERROR"
  | .warn => " WARN"
  | .info => " INFO"
  | .debug => "DEBUG"

/-- Characters that can begin a terminal sequence or take back what is shown. -/
def isSteering (c : Char) : Bool := [7, 8, 12, 27, 127].contains c.toNat

/-- A character as it is shown. -/
def showChar (c : Char) : List Char :=
  if isSteering c then
    ['\\', 'x', Nat.digitChar (c.toNat / 16), Nat.digitChar (c.toNat % 16)]
  else if 0x80 ≤ c.toNat && c.toNat ≤ 0x9F then
    ['\\', 'u', '\x7b', Nat.digitChar (c.toNat / 16), Nat.digitChar (c.toNat % 16), '\x7d']
  else [c]

/-- A text as it is shown. -/
def showText (text : String) : String := String.ofList (text.toList.flatMap showChar)

/-- The text of an event. -/
def line (event : Event) : String :=
  let record := event.record
  let fields := record.fields.map fun (name, value) => s!" {name}={value.display}"
  levelName record.level ++ " " ++ record.target ++ ": " ++
    showText (record.heading ++ record.message) ++ String.join fields

/-- The texts of the events that a filter shows, each with an end of line. -/
def transcript (filter : Filter) (events : List Event) : String :=
  String.join ((events.filter filter.shows).map fun event => line event ++ "\n")

end DspBridge.Log
