import DspBridge.Descriptor.Reader

/-!
# Events

What is reported while the bridge works. An event says what happened; its record says how that is
shown: a level, the part of the program it comes from, a text, and named fields.
-/

namespace DspBridge

/-- How much an event matters. -/
inductive Level where
  | error
  | warn
  | info
  | debug
  deriving DecidableEq, Repr

/-- Something that happened. -/
inductive Event where
  | compiling (name command : String)
  | compileFailed (message : String)
  | running (program arguments : String)
  | scratchNotCleared (reason : String)
  | descriptorMade (filename text : String)
  | declaration (line : String)
  | declarationsMade (filename : String) (count : Nat)
  | declarationsSkipped (filename : String) (error : Descriptor.Error)
  | transformFailed (filename message : String)
  | sessionReady
  | requestReceived (filename : String)
  | messageIgnored (line : String)
  | messageUnreadable (error : Json.Error)
  | lineNotText (fault : Text.Utf8.Fault)
  | sessionClosed (handled : Nat)
  | serving (version : String)
  | declarationPrinted (line : String)
  | declarationsNotPrinted (error : Descriptor.Error)
  deriving Repr

/-- The value of a field: a text or a count. -/
inductive FieldValue where
  | text (value : String)
  | count (value : Nat)
  deriving DecidableEq, Repr

/-- The text of a field's value. -/
def FieldValue.display : FieldValue → String
  | .text value => value
  | .count value => toString value

/-- How an event is shown. -/
structure Record where
  level : Level
  target : String
  /-- What the event says, before its `message`. -/
  heading : String
  /-- The text of the event. -/
  message : String
  fields : List (String × FieldValue)
  deriving DecidableEq, Repr

namespace Event

/-- The part of the program that compiles. -/
def compilerTarget : String := "faust_cmaj::compiler"

/-- The part of the program that runs the compiler. -/
def processTarget : String := "faust_cmaj::compiler::process"

/-- The part of the program that transforms files. -/
def transformTarget : String := "faust_cmaj::transform"

/-- The source of declaration lines. -/
def declarationsTarget : String := "faust_cmaj::declarations"

/-- The part of the program that talks to the host. -/
def sessionTarget : String := "faust_cmaj::transport::session"

/-- The program itself. -/
def programTarget : String := "faust_cmaj"

/-- The record of an event. -/
def record : Event → Record
  | .compiling name command =>
      ⟨.debug, compilerTarget, "", "compiling", [("name", .text name), ("command", .text command)]⟩
  | .compileFailed message => ⟨.debug, compilerTarget, "faust compile failed ", message, []⟩
  | .running program arguments =>
      ⟨.debug, processTarget, "", "running faust",
        [("program", .text program), ("args", .text arguments)]⟩
  | .scratchNotCleared reason =>
      ⟨.debug, processTarget, "", s!"failed to clear scratch dir: {reason}", []⟩
  | .descriptorMade filename text =>
      ⟨.debug, transformTarget, "", "faust UI descriptor",
        [("filename", .text filename), ("json", .text text)]⟩
  | .declaration line => ⟨.info, declarationsTarget, "", line, []⟩
  | .declarationsMade filename count =>
      ⟨.debug, transformTarget, "", "generated declarations",
        [("filename", .text filename), ("count", .count count)]⟩
  | .declarationsSkipped filename error =>
      ⟨.warn, transformTarget, "", s!"skipping declarations: {error.message}",
        [("filename", .text filename)]⟩
  | .transformFailed filename message =>
      ⟨.error, transformTarget, "", message, [("filename", .text filename)]⟩
  | .sessionReady => ⟨.info, sessionTarget, "", "source transformer ready", []⟩
  | .requestReceived filename =>
      ⟨.debug, sessionTarget, "", "transform request", [("filename", .text filename)]⟩
  | .messageIgnored line => ⟨.debug, sessionTarget, "", s!"ignoring message: {line}", []⟩
  | .messageUnreadable error =>
      ⟨.warn, sessionTarget, "", s!"unreadable message: {error.message}", []⟩
  | .lineNotText fault =>
      ⟨.warn, sessionTarget, "", s!"skipping line that is not UTF-8: {fault.message}", []⟩
  | .sessionClosed handled =>
      ⟨.info, sessionTarget, "", "host closed the session", [("handled", .count handled)]⟩
  | .serving version =>
      ⟨.info, programTarget, "", "running source transformer", [("faust", .text version)]⟩
  | .declarationPrinted line => ⟨.info, programTarget, "", line, []⟩
  | .declarationsNotPrinted error =>
      ⟨.warn, programTarget, "", s!"skipping declarations: {error.message}", []⟩

/-- The level of an event. -/
def level (event : Event) : Level := event.record.level

end Event
end DspBridge
