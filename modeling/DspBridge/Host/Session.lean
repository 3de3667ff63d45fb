import DspBridge.Host.Channel
import DspBridge.Host.Message
import DspBridge.Transform

/-!
# Sessions

A session announces that the bridge is ready and then goes through the lines of the host. A request
is answered before the next line is looked at; a line that is no request is reported and answered
with nothing. The session ends with the input, or at the first failure of a channel.
-/

namespace DspBridge.Host

/-- The state of a session. -/
structure Session (σ : Type) where
  transformer : Transformer σ
  sink : Sink

/-- What a line of the host is. -/
inductive Line where
  | notText (fault : Text.Utf8.Fault)
  | blank
  | request (filename contents : String)
  | ignored (text : String)
  | unreadable (error : Json.Error)
  deriving Repr

/-- What a line of the host is, its end and the blanks around it left aside. -/
def Line.ofBytes (bytes : List UInt8) : Line :=
  match Text.Utf8.decode bytes with
  | .error fault => .notText fault
  | .ok text =>
      let text := Text.trim text
      if text.isEmpty then .blank
      else
        match Inbound.parse text with
        | .ok (.transformRequest filename contents) => .request filename contents
        | .ok .unknown => .ignored text
        | .error error => .unreadable error

namespace Session

variable {σ : Type}

/-- Actions of a session that a failing channel ends. -/
abbrev Step (σ α : Type) := ExceptT String (Action (Session σ)) α

/-- The bytes of a message and the end of its line. -/
def lineOf (message : Outbound) : List UInt8 := Text.bytesOf message.wire ++ [lineEnd]

/-- Send a message and flush it. -/
def send (message : Outbound) : Step σ Unit := fun session =>
  match session.sink.write (lineOf message) with
  | (.error failure, sink) => pure (.error failure, { session with sink })
  | (.ok (), sink) =>
      let (result, sink) := sink.flush
      pure (result, { session with sink })

/-- Report an event. -/
def tell (event : Event) : Step σ Unit := ExceptT.lift (report event)

/-- Transform a file. -/
def transform (backend : Backend σ) (filename contents : String) : Step σ String :=
  ExceptT.lift ((Transformer.transform backend filename contents).on Session.transformer
    fun transformer session => { session with transformer })

/-- Go through a line; the number of requests answered is one more after a request. -/
def serveLine (backend : Backend σ) (handled : Nat) (bytes : List UInt8) : Step σ Nat := do
  match Line.ofBytes bytes with
  | .notText fault =>
      tell (.lineNotText fault)
      pure handled
  | .blank => pure handled
  | .request filename contents =>
      tell (.requestReceived filename)
      let answer ← transform backend filename contents
      send (.transformResponse answer)
      pure (handled + 1)
  | .ignored text =>
      tell (.messageIgnored text)
      pure handled
  | .unreadable error =>
      tell (.messageUnreadable error)
      pure handled

/-- Go through lines in order. -/
def serveLines (backend : Backend σ) : (handled : Nat) → List (List UInt8) → Step σ Nat
  | handled, [] => pure handled
  | handled, line :: rest => do
      let handled ← serveLine backend handled line
      serveLines backend handled rest

/-- Announce that the bridge is ready. -/
def greet : Step σ Unit := do
  send .ready
  tell .sessionReady

/-- End a session in which a number of requests was answered, after the last line or the failure of
the input. -/
def close (failure? : Option String) (handled : Nat) : Step σ Nat :=
  match failure? with
  | some failure => throw failure
  | none => do
      tell (.sessionClosed handled)
      pure handled

/-- Serve the host until its input ends; the number of requests answered. -/
def run (backend : Backend σ) (source : Source) : Step σ Nat := do
  greet
  let handled ← serveLines backend 0 source.lines
  close source.failure handled

end Session
end DspBridge.Host
