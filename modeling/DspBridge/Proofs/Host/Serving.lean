import DspBridge.Proofs.Host.Delivery
import DspBridge.Proofs.Host.Lines
import DspBridge.Proofs.Log.Actions

/-!
# Serving on any channel

What a session leaves behind, whatever its channel takes.  A line that is a request is transformed
and answered with one message; any other line changes nothing.  A session is therefore the delivery
of its messages, and its transformer has seen the requests up to the one whose answer was handed
over last.
-/

namespace DspBridge.Host

theorem requests_of_lines (lines : List (List UInt8)) : ∃ requests, Requests lines requests := by
  induction lines with
  | nil => exact ⟨[], .nothing⟩
  | cons line lines ih =>
    obtain ⟨requests, others⟩ := ih
    rcases request_or_other line with ⟨filename, contents, request⟩ | other
    · exact ⟨_, .kept request others⟩
    · exact ⟨requests, .left other others⟩

namespace Session

variable {σ : Type} (backend : Backend σ) (transformer : Transformer σ)

/-- A session on a channel without limits that has taken some bytes. -/
def unlimited (sent : List UInt8) (flushes : Nat) : Session σ :=
  ⟨transformer, ⟨sent, flushes, none, none⟩⟩

/-- Requests transformed one after another. -/
def transformAll (requests : List (String × String)) : Action (Transformer σ) (List String) :=
  requests.mapM fun request => Transformer.transform backend request.1 request.2

theorem transformAll_cons (request : String × String) (rest : List (String × String)) :
    let first := (Transformer.transform backend request.1 request.2 transformer).value
    (transformAll backend (request :: rest) transformer).value =
      (first.1 :: (transformAll backend rest first.2).value.1,
        (transformAll backend rest first.2).value.2) :=
  Action.value_mapM_cons _ _ _ _

theorem transformAll_length (requests : List (String × String)) :
    (transformAll backend requests transformer).value.1.length = requests.length := by
  induction requests generalizing transformer with
  | nil => rfl
  | cons request rest ih =>
    rw [transformAll_cons, List.length_cons, List.length_cons]
    exact congrArg (· + 1) (ih _)

/-- The lines that carry answers. -/
def answerLines (answers : List String) : List (List UInt8) :=
  answers.map fun answer => lineOf (.transformResponse answer)

theorem serveLine_other {line : List UInt8}
    (other : ∀ filename contents, ¬IsRequest line filename contents) (handled : Nat)
    (session : Session σ) :
    ((serveLine backend handled line).run session).value = (.ok handled, session) := by
  rw [serveLine]
  cases classified : Line.ofBytes line with
  | request filename contents =>
    exact absurd (ofBytes_eq_request_iff.mp classified) (other filename contents)
  | notText fault => rfl
  | blank => rfl
  | ignored text => rfl
  | unreadable error => rfl

/-! ## Sessions on any channel -/

/-- A message is sent by pushing its line, and nothing is reported. -/
theorem send_run (message : Outbound) (session : Session σ) :
    (send message).run session =
      ⟨((session.sink.push (lineOf message)).1,
        { session with sink := (session.sink.push (lineOf message)).2 }), []⟩ := by
  change send message session = _
  rw [send, Sink.push]
  rcases session.sink.write (lineOf message) with ⟨_ | _, sink⟩ <;> rfl

theorem send_value (message : Outbound) (session : Session σ) :
    ((send message).run session).value =
      ((session.sink.push (lineOf message)).1,
        { session with sink := (session.sink.push (lineOf message)).2 }) := by
  rw [send_run]

/-- A request is answered by the transformer, and counted if the answer can be sent. -/
theorem serveLine_run {line : List UInt8} {filename contents : String}
    (request : Line.ofBytes line = .request filename contents) (handled : Nat) (sink : Sink) :
    let transformed := Transformer.transform backend filename contents transformer
    let pushed := sink.push (lineOf (.transformResponse transformed.value.1))
    (serveLine backend handled line).run ⟨transformer, sink⟩ =
      ⟨(pushed.1.map fun _ => handled + 1, ⟨transformed.value.2, pushed.2⟩),
        .requestReceived filename :: transformed.events⟩ := by
  intro transformed pushed
  have received : (tell (.requestReceived filename)).run (⟨transformer, sink⟩ : Session σ) =
      ⟨(.ok (), ⟨transformer, sink⟩), [.requestReceived filename]⟩ := rfl
  have answered : (transform backend filename contents).run ⟨transformer, sink⟩ =
      ⟨(.ok transformed.value.1, ⟨transformed.value.2, sink⟩), transformed.events⟩ :=
    congrArg (Traced.mk _) (List.append_nil _)
  have sent := send_run (.transformResponse transformed.value.1)
    (⟨transformed.value.2, sink⟩ : Session σ)
  have quiet : transformed.events ++ [] = transformed.events := List.append_nil _
  rw [serveLine, request]
  dsimp only
  rw [run_bind_ok _ received, run_bind_ok _ answered]
  change _ = (⟨(pushed.1, _), []⟩ : Traced _) at sent
  cases result : pushed.1 with
  | error failure =>
      rw [result] at sent
      rw [run_bind_error _ sent]
      exact congrArg (fun events => Traced.mk _ (.requestReceived filename :: events)) quiet
  | ok =>
      rw [result] at sent
      rw [run_bind_ok _ sent]
      exact congrArg (fun events => Traced.mk _ (.requestReceived filename :: events)) quiet

theorem serveLine_value {line : List UInt8} {filename contents : String}
    (request : IsRequest line filename contents) (handled : Nat) (sink : Sink) :
    let transformed := (Transformer.transform backend filename contents transformer).value
    let pushed := sink.push (lineOf (.transformResponse transformed.1))
    ((serveLine backend handled line).run ⟨transformer, sink⟩).value =
      (pushed.1.map fun _ => handled + 1, ⟨transformed.2, pushed.2⟩) :=
  congrArg Traced.value
    (serveLine_run backend transformer (ofBytes_eq_request_iff.mpr request) handled sink)

/-- A session on any channel: lines are served by delivering the answers to their requests, and the
last request that was transformed is the one whose answer was handed over last. -/
theorem serveLines_value {lines : List (List UInt8)} {requests : List (String × String)}
    (selected : Requests lines requests) (handled : Nat) (sink : Sink) :
    let answers := (transformAll backend requests transformer).value.1
    let delivery := sink.deliver (answerLines answers)
    ((serveLines backend handled lines).run ⟨transformer, sink⟩).value =
      (delivery.result.map fun _ => handled + requests.length,
        ⟨(transformAll backend (requests.take (delivery.delivered + 1)) transformer).value.2,
          delivery.sink⟩) := by
  dsimp only
  induction selected generalizing handled transformer sink with
  | nothing => rfl
  | left other others ih =>
    rw [serveLines, value_bind_ok _ (serveLine_other backend other handled _)]
    exact ih transformer handled sink
  | @kept line filename contents lines requests request others ih =>
    have served := serveLine_value backend transformer request handled sink
    dsimp only at served
    rw [List.take_succ_cons, transformAll_cons, transformAll_cons, answerLines, List.map_cons]
    dsimp only
    rcases pushed : sink.push (lineOf (.transformResponse
      (Transformer.transform backend filename contents transformer).value.1))
      with ⟨failure | _, next⟩
    · rw [pushed] at served
      rw [Sink.deliver_error pushed, serveLines, value_bind_error _ served]
      rfl
    · rw [pushed] at served
      rw [Sink.deliver_ok pushed, serveLines, value_bind_ok _ served, ih, List.length_cons,
        Nat.add_comm requests.length, ← Nat.add_assoc]
      rfl

/-- The result of a session that ends with its input. -/
def ending (failure? : Option String) (handled : Nat) : Except String Nat :=
  match failure? with
  | some failure => .error failure
  | none => .ok handled

theorem close_value (failure? : Option String) (handled : Nat) (session : Session σ) :
    ((close failure? handled).run session).value = (ending failure? handled, session) := by
  cases failure? with
  | none => rfl
  | some failure => rfl

/-- The messages of a session that answers some requests. -/
def messagesFor (requests : List (String × String)) : List Outbound :=
  .ready :: (transformAll backend requests transformer).value.1.map .transformResponse

theorem messagesFor_length (requests : List (String × String)) :
    (messagesFor backend transformer requests).length = requests.length + 1 := by
  rw [messagesFor, List.length_cons, List.length_map, transformAll_length]

/-- The bytes of some messages. -/
def transcript (messages : List Outbound) : List UInt8 := (messages.map lineOf).flatten

theorem greet_value (sink : Sink) :
    (greet.run ⟨transformer, sink⟩).value =
      ((sink.push (lineOf .ready)).1, ⟨transformer, (sink.push (lineOf .ready)).2⟩) := by
  have sent := send_value .ready (⟨transformer, sink⟩ : Session σ)
  rw [greet]
  cases result : (sink.push (lineOf .ready)).1 with
  | error failure =>
      rw [result] at sent
      exact value_bind_error _ sent
  | ok =>
      rw [result] at sent
      rw [value_bind_ok _ sent]
      rfl

/-- A whole session on any channel is the delivery of its messages. -/
theorem run_value {source : Source} {requests : List (String × String)}
    (selected : Requests source.lines requests) (sink : Sink) :
    let delivery := sink.deliver ((messagesFor backend transformer requests).map lineOf)
    ((run backend source).run ⟨transformer, sink⟩).value =
      (delivery.result.bind fun _ => ending source.failure requests.length,
        ⟨(transformAll backend (requests.take delivery.delivered) transformer).value.2,
          delivery.sink⟩) := by
  have greeted := greet_value transformer sink
  have answers : (messagesFor backend transformer requests).map lineOf =
      lineOf .ready :: answerLines (transformAll backend requests transformer).value.1 := by
    rw [messagesFor, List.map_cons, List.map_map]
    rfl
  dsimp only
  rw [answers]
  rcases pushed : sink.push (lineOf .ready) with ⟨failure | _, next⟩
  · rw [pushed] at greeted
    rw [Sink.deliver_error pushed, run, value_bind_error _ greeted]
    rfl
  · have served := serveLines_value backend transformer selected 0 next
    rw [pushed] at greeted
    rw [Sink.deliver_ok pushed, run, value_bind_ok _ greeted]
    dsimp only at served ⊢
    cases result : (next.deliver
      (answerLines (transformAll backend requests transformer).value.1)).result with
    | error failure =>
        rw [result] at served
        rw [value_bind_error _ served]
        rfl
    | ok =>
        rw [result] at served
        rw [value_bind_ok _ served, close_value, Nat.zero_add]
        rfl

section Outcomes

variable {backend : Backend σ} {transformer : Transformer σ} {source : Source}
  {requests : List (String × String)} {sink next : Sink}

/-- A session whose messages are all taken. -/
theorem run_delivered (selected : Requests source.lines requests)
    (taken : let lines := (messagesFor backend transformer requests).map lineOf
      sink.deliver lines = ⟨lines.length, .ok (), next⟩) :
    ((run backend source).run ⟨transformer, sink⟩).value =
      (ending source.failure requests.length,
        ⟨(transformAll backend requests transformer).value.2, next⟩) := by
  dsimp only at taken
  have all : requests.length ≤ ((messagesFor backend transformer requests).map lineOf).length := by
    rw [List.length_map, messagesFor_length]
    exact Nat.le_succ _
  rw [run_value backend transformer selected, taken]
  dsimp only
  rw [List.take_of_length_le all]
  rfl

/-- A session with a message that is not taken. -/
theorem run_undelivered (selected : Requests source.lines requests) {failure : String}
    (failed : (sink.deliver ((messagesFor backend transformer requests).map lineOf)).result =
      .error failure) :
    let delivery := sink.deliver ((messagesFor backend transformer requests).map lineOf)
    ((run backend source).run ⟨transformer, sink⟩).value =
      (.error failure,
        ⟨(transformAll backend (requests.take delivery.delivered) transformer).value.2,
          delivery.sink⟩) := by
  dsimp only
  rw [run_value backend transformer selected, failed]
  rfl

end Outcomes

/-- A whole session on a channel without limits. -/
theorem run_whole {source : Source} {requests : List (String × String)}
    (selected : Requests source.lines requests) :
    ((run backend source).run ⟨transformer, .new none none⟩).value =
      (ending source.failure requests.length,
        unlimited (transformAll backend requests transformer).value.2
          (transcript (messagesFor backend transformer requests)) (requests.length + 1)) := by
  have taken := Sink.deliver_unlimited ((messagesFor backend transformer requests).map lineOf) [] 0
  rw [Sink.new, run_delivered selected taken, List.nil_append, Nat.zero_add, List.length_map,
    messagesFor_length]
  rfl

end Session
end DspBridge.Host
