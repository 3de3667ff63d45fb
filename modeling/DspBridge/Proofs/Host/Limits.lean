import DspBridge.Proofs.Host.Serving

/-!
# Sessions on channels that fail

A session on a channel with a limit is compared with the one that the same input would get without
the limit.  The channel gets a first part of the same bytes, and the transformer sees a first part
of the same requests.
-/

namespace DspBridge.Host.Session

variable {σ : Type} (backend : Backend σ) (transformer : Transformer σ)

section Limits

variable {backend : Backend σ} {transformer : Transformer σ} {source : Source}
  {requests : List (String × String)}

theorem run_within (selected : Requests source.lines requests) {limit : Limit}
    (fits : (transcript (messagesFor backend transformer requests)).length ≤ limit.count) :
    let served := ((run backend source).run ⟨transformer, .new (some limit) none⟩).value
    served.1 = ending source.failure requests.length ∧
      served.2.transformer = (transformAll backend requests transformer).value.2 ∧
      served.2.sink.sent = transcript (messagesFor backend transformer requests) := by
  rw [← List.nil_append (transcript _), transcript] at fits
  have taken := Sink.deliver_within _ 0 fits
  rw [Sink.new, run_delivered selected taken]
  exact ⟨rfl, rfl, rfl⟩

/-- A message that does not fit on the channel ends the session; the messages before it fit. -/
theorem run_beyond (selected : Requests source.lines requests) {limit : Limit}
    (long : limit.count < (transcript (messagesFor backend transformer requests)).length) :
    let messages := messagesFor backend transformer requests
    let served := ((run backend source).run ⟨transformer, .new (some limit) none⟩).value
    served.1 = .error limit.failure ∧
      served.2.sink.sent = (transcript messages).take limit.count ∧
      ∃ delivered, (transcript (messages.take delivered)).length ≤ limit.count ∧
        limit.count < (transcript (messages.take (delivered + 1))).length ∧
        served.2.transformer =
          (transformAll backend (requests.take delivered) transformer).value.2 := by
  have room : ([] : List UInt8).length ≤ limit.count := Nat.zero_le _
  obtain ⟨failed, sent, reached, beyond⟩ := Sink.deliver_beyond
    ((messagesFor backend transformer requests).map lineOf) 0 room long
  dsimp only
  rw [Sink.new, run_undelivered selected failed]
  refine ⟨rfl, sent, _, ?_, ?_, rfl⟩
  · rw [transcript, List.map_take]
    exact reached
  · rw [transcript, List.map_take]
    exact beyond

theorem run_flushed (selected : Requests source.lines requests) {limit : Limit}
    (enough : requests.length + 1 ≤ limit.count) :
    let served := ((run backend source).run ⟨transformer, .new none (some limit)⟩).value
    served.1 = ending source.failure requests.length ∧
      served.2.transformer = (transformAll backend requests transformer).value.2 ∧
      served.2.sink.sent = transcript (messagesFor backend transformer requests) := by
  rw [← messagesFor_length backend transformer, ← List.length_map lineOf,
    ← Nat.zero_add (List.length _)] at enough
  have taken := Sink.deliver_flushed _ [] enough
  rw [Sink.new, run_delivered selected taken]
  exact ⟨rfl, rfl, rfl⟩

/-- A message that cannot be flushed ends the session, although all of it has been written. -/
theorem run_unflushed (selected : Requests source.lines requests) {limit : Limit}
    (short : limit.count < requests.length + 1) :
    let messages := messagesFor backend transformer requests
    let served := ((run backend source).run ⟨transformer, .new none (some limit)⟩).value
    served.1 = .error limit.failure ∧
      served.2.sink.sent = transcript (messages.take (limit.count + 1)) ∧
      served.2.transformer =
        (transformAll backend (requests.take limit.count) transformer).value.2 := by
  rw [← messagesFor_length backend transformer, ← List.length_map lineOf,
    ← Nat.zero_add (List.length _)] at short
  obtain ⟨failed, count, sent⟩ := Sink.deliver_unflushed
    ((messagesFor backend transformer requests).map lineOf) [] (Nat.zero_le limit.count) short
  rw [Nat.zero_add] at count
  dsimp only
  rw [Sink.new, run_undelivered selected failed, ← count]
  refine ⟨rfl, ?_, rfl⟩
  rw [transcript, List.map_take]
  exact sent

end Limits

/-- A channel that fails cuts a session cleanly.  If it takes so many bytes, it gets the first ones
of what it would get without the limit; if it can be flushed so many times, it gets one message
more.  Either way no request is transformed after the one whose answer could not be delivered, so a
backend, whatever it keeps a record of, is not asked about any. -/
theorem run_limited (source : Source) :
    ∃ requests, Requests source.lines requests ∧
      let messages := messagesFor backend transformer requests
      let whole := ((run backend source).run ⟨transformer, .new none none⟩).value
      (whole.1 = ending source.failure requests.length ∧
        whole.2.sink.sent = transcript messages ∧
        whole.2.transformer = (transformAll backend requests transformer).value.2) ∧
      (∀ limit : Limit,
        let served := ((run backend source).run ⟨transformer, .new (some limit) none⟩).value
        served.2.sink.sent = whole.2.sink.sent.take limit.count ∧
        if whole.2.sink.sent.length ≤ limit.count then
          served.1 = whole.1 ∧ served.2.transformer = whole.2.transformer
        else
          served.1 = .error limit.failure ∧ ∃ delivered,
            (transcript (messages.take delivered)).length ≤ limit.count ∧
            limit.count < (transcript (messages.take (delivered + 1))).length ∧
            served.2.transformer =
              (transformAll backend (requests.take delivered) transformer).value.2) ∧
      ∀ limit : Limit,
        let served := ((run backend source).run ⟨transformer, .new none (some limit)⟩).value
        if requests.length + 1 ≤ limit.count then
          served.1 = whole.1 ∧ served.2.transformer = whole.2.transformer ∧
            served.2.sink.sent = whole.2.sink.sent
        else
          served.1 = .error limit.failure ∧
            served.2.sink.sent = transcript (messages.take (limit.count + 1)) ∧
            served.2.transformer =
              (transformAll backend (requests.take limit.count) transformer).value.2 := by
  obtain ⟨requests, selected⟩ := requests_of_lines source.lines
  refine ⟨requests, selected, ?_⟩
  dsimp only
  rw [run_whole backend transformer selected]
  refine ⟨⟨rfl, rfl, rfl⟩, ?_, ?_⟩
  · intro limit
    split
    next fits =>
      obtain ⟨result, reached, sent⟩ := run_within selected fits
      exact ⟨sent.trans (List.take_of_length_le fits).symm, result, reached⟩
    next long =>
      obtain ⟨result, sent, tried⟩ := run_beyond selected (Nat.lt_of_not_le long)
      exact ⟨sent, result, tried⟩
  · intro limit
    split
    next enough => exact run_flushed selected enough
    next short => exact run_unflushed selected (Nat.lt_of_not_le short)

end DspBridge.Host.Session
