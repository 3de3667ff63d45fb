import DspBridge.Proofs.Host.Invisible

/-!
# Sessions whose input fails

An input that fails is compared with its finished part, which ends where the last end of line ends.
The failure loses what comes behind that part, even if it could be read as a request, and nothing
before it.  If the input ends instead, then what comes behind the finished part is one more line.
-/

namespace DspBridge.Host

/-! ## Finished parts -/

/-- Bytes that end with an end of line, if they are not empty. -/
def Ended (bytes : List UInt8) : Prop := ∀ byte ∈ bytes.getLast?, byte = lineEnd

/-- The longest first part of an input that ends with an end of line; it is empty if the input has no
end of line. -/
structure FinishedPart (input part : List UInt8) : Prop where
  begins : part <+: input
  ended : Ended part
  longest : ∀ other, other <+: input → Ended other → other <+: part

theorem ended_nil : Ended [] := nofun

theorem ended_cons {byte : UInt8} {bytes : List UInt8} (ended : Ended bytes)
    (last : bytes = [] → byte = lineEnd) : Ended (byte :: bytes) := by
  intro found member
  cases bytes with
  | nil =>
      cases member
      exact last rfl
  | cons next rest =>
      rw [List.getLast?_cons_cons] at member
      exact ended found member

variable {part tail : List UInt8}

/-- What comes behind the last end of line is not part of the finished lines. -/
theorem finishedPart_append (ended : Ended part) (unended : lineEnd ∉ tail) :
    FinishedPart (part ++ tail) part := by
  refine ⟨List.prefix_append part tail, ended, ?_⟩
  intro other begins otherEnded
  rcases List.prefix_or_prefix_of_prefix begins (List.prefix_append part tail) with shorter | longer
  · exact shorter
  · obtain ⟨more, rfl⟩ := longer
    have inside : more <+: tail := (List.prefix_append_right_inj part).mp begins
    cases nothing : more.getLast? with
    | none =>
        refine ⟨[], ?_⟩
        rw [List.getLast?_eq_none_iff.mp nothing, List.append_nil, List.append_nil]
    | some last =>
        have isEnd : last = lineEnd := otherEnded last (by simp [List.getLast?_append, nothing])
        have member : last ∈ tail := inside.subset (List.mem_of_getLast? nothing)
        exact absurd (isEnd ▸ member) unended

/-- Every input is a finished part and a rest without an end of line. -/
theorem exists_finishedPart (input : List UInt8) :
    ∃ part tail, input = part ++ tail ∧ Ended part ∧ lineEnd ∉ tail := by
  induction input with
  | nil => exact ⟨[], [], rfl, ended_nil, List.not_mem_nil⟩
  | cons byte rest ih =>
      obtain ⟨part, tail, rfl, ended, unended⟩ := ih
      by_cases inside : part = [] → byte = lineEnd
      · exact ⟨byte :: part, tail, rfl, ended_cons ended inside, unended⟩
      · obtain ⟨rfl, notEnd⟩ := Classical.not_imp.mp inside
        refine ⟨[], byte :: tail, rfl, ended_nil, ?_⟩
        rw [List.mem_cons, not_or]
        exact ⟨Ne.symm notEnd, unended⟩

/-- The lines of an input are those of its finished part and those of the rest. -/
theorem lines_append (ended : Ended part) (tail : List UInt8) (failure : Option String) :
    Source.lines ⟨part ++ tail, failure⟩ =
      Source.lines ⟨part, none⟩ ++ Source.lines ⟨tail, failure⟩ := by
  have cut := cut_lines part
  generalize Source.lines ⟨part, none⟩ = lines at cut ⊢
  induction cut with
  | nothing => rfl
  | unfinished present unended =>
      have last := ended _ (List.getLast?_eq_some_getLast present)
      exact absurd (List.getLast_mem present) (last ▸ unended)
  | @line body rest lines unended cut ih =>
      have restEnded : Ended rest := by
        intro byte last
        apply ended
        rw [Option.mem_def] at last
        simp [List.getLast?_append, List.getLast?_cons, last]
      rw [List.append_assoc, List.cons_append, lines_line unended, ih restEnded, List.cons_append]

/-- An unfinished line is lost if the input fails. -/
theorem lines_failing (unended : lineEnd ∉ tail) (failure : String) :
    Source.lines ⟨tail, some failure⟩ = [] := by
  simp [Source.lines, cutLines_unfinished unended]

theorem lines_ending (unended : lineEnd ∉ tail) :
    Source.lines ⟨tail, none⟩ = if tail = [] then [] else [tail] := by
  split
  next nothing =>
    rw [nothing]
    rfl
  next present => exact lines_unfinished present unended

/-! ## Requests -/

theorem Requests.append {lines more : List (List UInt8)} {requests others : List (String × String)}
    (selected : Requests lines requests) (selectedToo : Requests more others) :
    Requests (lines ++ more) (requests ++ others) := by
  induction selected with
  | nothing => exact selectedToo
  | kept request _ ih => exact .kept request ih
  | left other _ ih => exact .left other ih

theorem not_isRequest_nil (filename contents : String) : ¬ IsRequest [] filename contents := by
  intro request
  have classified := ofBytes_eq_request_iff.mpr request
  have blank : Line.ofBytes [] = .blank := by rfl
  rw [blank] at classified
  cases classified

/-- The requests of an unfinished line at the end of an input. -/
theorem requests_ending (unended : lineEnd ∉ tail) :
    (∀ filename contents, IsRequest tail filename contents →
      Requests (Source.lines ⟨tail, none⟩) [(filename, contents)]) ∧
    ((∀ filename contents, ¬ IsRequest tail filename contents) →
      Requests (Source.lines ⟨tail, none⟩) []) := by
  rw [lines_ending unended]
  split
  next nothing =>
    rw [nothing]
    exact ⟨fun filename contents request => absurd request (not_isRequest_nil filename contents),
      fun _ => .nothing⟩
  next => exact ⟨fun _ _ request => .kept request .nothing, fun other => .left other .nothing⟩

namespace Session

variable {σ : Type} (backend : Backend σ) (transformer : Transformer σ)

theorem transformAll_append (requests others : List (String × String)) :
    let first := (transformAll backend requests transformer).value
    let second := (transformAll backend others first.2).value
    (transformAll backend (requests ++ others) transformer).value = (first.1 ++ second.1, second.2) := by
  induction requests generalizing transformer with
  | nil => rfl
  | cons request requests ih =>
      have rest := ih (Transformer.transform backend request.1 request.2 transformer).value.2
      dsimp only at rest ⊢
      rw [List.cons_append, transformAll_cons, transformAll_cons, rest]
      rfl

theorem messagesFor_append (requests : List (String × String)) (request : String × String) :
    let first := (transformAll backend requests transformer).value
    let answer := (Transformer.transform backend request.1 request.2 first.2).value.1
    messagesFor backend transformer (requests ++ [request]) =
      messagesFor backend transformer requests ++ [.transformResponse answer] := by
  have both := transformAll_append backend transformer requests [request]
  dsimp only at both ⊢
  rw [messagesFor, messagesFor, both, transformAll_cons, List.map_append, ← List.cons_append]
  rfl

theorem transcript_append (messages more : List Outbound) :
    transcript (messages ++ more) = transcript messages ++ transcript more := by
  rw [transcript, List.map_append, List.flatten_append, transcript, transcript]

theorem transcript_singleton (message : Outbound) : transcript [message] = lineOf message := by
  rw [transcript, List.map_singleton, List.flatten_singleton]

/-- On any channel, an input that fails leaves behind what its lines leave behind that are finished,
and it fails once they have all been served. -/
theorem run_failing (ended : Ended part) (unended : lineEnd ∉ tail) (failure : String)
    (sink : Sink) :
    let finished := ((run backend ⟨part, none⟩).run ⟨transformer, sink⟩).value
    ((run backend ⟨part ++ tail, some failure⟩).run ⟨transformer, sink⟩).value =
      (finished.1.bind fun _ => .error failure, finished.2) := by
  obtain ⟨requests, selected⟩ := requests_of_lines (Source.lines ⟨part, none⟩)
  have same : Source.lines ⟨part ++ tail, some failure⟩ = Source.lines ⟨part, none⟩ := by
    rw [lines_append ended, lines_failing unended, List.append_nil]
  have interrupted := run_value backend transformer (same ▸ selected) sink
  dsimp only at interrupted ⊢
  rw [interrupted, run_value backend transformer selected]
  dsimp only
  cases (sink.deliver ((messagesFor backend transformer requests).map lineOf)).result <;> rfl

/-- An input that fails loses its unfinished line, and nothing else.  On any channel the session leaves
behind what it would if its input had been the finished part and had ended: the same bytes sent, the
same transformer, the same calls of the backend.  On a channel that takes everything it fails like the
input, where the finished part would have been served to its end.  An unfinished line at the end of an
input that does not fail is served like every other line. -/
theorem run_interrupted (input : List UInt8) (failure : String) :
    ∃ part tail, input = part ++ tail ∧ FinishedPart input part ∧
      (∀ sink,
        let interrupted := ((run backend ⟨input, some failure⟩).run ⟨transformer, sink⟩).value
        let finished := ((run backend ⟨part, none⟩).run ⟨transformer, sink⟩).value
        interrupted = (finished.1.bind fun _ => .error failure, finished.2)) ∧
      let calls (source : Source) :=
        ((run backend.recorded source).run
          ⟨recording transformer, .new none none⟩).value.2.transformer.compiler.backend.2
      let served (source : Source) :=
        ((run backend source).run ⟨transformer, .new none none⟩).value
      calls ⟨input, some failure⟩ = calls ⟨part, none⟩ ∧
      (served ⟨input, some failure⟩).1 = .error failure ∧
      ∃ handled, (served ⟨part, none⟩).1 = .ok handled ∧
        (∀ filename contents, IsRequest tail filename contents →
          let before := (served ⟨part, none⟩).2
          let answer := (Transformer.transform backend filename contents before.transformer).value
          (served ⟨input, none⟩).1 = .ok (handled + 1) ∧
            (served ⟨input, none⟩).2.transformer = answer.2 ∧
            (served ⟨input, none⟩).2.sink.sent =
              before.sink.sent ++ lineOf (.transformResponse answer.1)) ∧
        ((∀ filename contents, ¬ IsRequest tail filename contents) →
          served ⟨input, none⟩ = served ⟨part, none⟩) := by
  obtain ⟨part, tail, rfl, ended, unended⟩ := exists_finishedPart input
  obtain ⟨requests, selected⟩ := requests_of_lines (Source.lines ⟨part, none⟩)
  have finished := run_whole backend transformer selected
  have lines := lines_append ended tail none
  refine ⟨part, tail, rfl, finishedPart_append ended unended,
    run_failing backend transformer ended unended failure, ?_⟩
  dsimp only
  rw [run_failing _ _ ended unended, run_failing _ _ ended unended, finished]
  refine ⟨rfl, rfl, requests.length, rfl, ?_, ?_⟩
  · intro filename contents request
    have all := selected.append ((requests_ending unended).1 filename contents request)
    have both := transformAll_append backend transformer requests [(filename, contents)]
    have sent := messagesFor_append backend transformer requests (filename, contents)
    dsimp only at both sent
    rw [← lines] at all
    rw [run_whole backend transformer all, sent, transcript_append, transcript_singleton, both,
      transformAll_cons]
    exact ⟨congrArg Except.ok List.length_append, rfl, rfl⟩
  · intro other
    have all := selected.append ((requests_ending unended).2 other)
    rw [← lines, List.append_nil] at all
    exact run_whole backend transformer all

/-- A request without an end of line. -/
def unfinishedRequest : List UInt8 :=
  Text.bytesOf (Inbound.transformRequest "b.dsp" "process = _;").wire

theorem isRequest_unfinishedRequest : IsRequest unfinishedRequest "b.dsp" "process = _;" := by
  have trimmed : Text.trim ((Inbound.transformRequest "b.dsp" "process = _;").wire ++ "") =
      (Inbound.transformRequest "b.dsp" "process = _;").wire := trim_object _ nofun
  rw [String.append_empty] at trimmed
  refine ⟨_, rfl, ?_, ?_⟩
  · rw [trimmed]
    exact compact_object_ne_empty _
  · rw [trimmed]
    exact Inbound.parse_transformRequest _ _

/-- If the input fails behind an unfinished request, the transformer never sees the request; if the
input ends there, the request is answered. -/
theorem run_interrupted_request :
    let served (failure : Option String) :=
      ((run Script.backend ⟨unfinishedRequest, failure⟩).run
        ⟨sampleTransformer, .new none none⟩).value
    IsRequest unfinishedRequest "b.dsp" "process = _;" ∧
      (served (some "input lost")).1 = .error "input lost" ∧
      (served (some "input lost")).2.transformer = sampleTransformer ∧
      (served none).1 = .ok 1 := by
  have unended : lineEnd ∉ unfinishedRequest :=
    lineEnd_not_mem_of_solid (Inbound.transformRequest_solid _ _)
  obtain ⟨part, tail, whole, finished, same, -, failed, handled, count, answered, -⟩ :=
    run_interrupted Script.backend sampleTransformer unfinishedRequest "input lost"
  have empty : part = [] := by
    cases nothing : part.getLast? with
    | none => exact List.getLast?_eq_none_iff.mp nothing
    | some last =>
        have isEnd := finished.ended last nothing
        have member := finished.begins.subset (List.mem_of_getLast? nothing)
        exact absurd (isEnd ▸ member) unended
  subst empty
  obtain rfl : unfinishedRequest = tail := whole
  have greeted := run_whole Script.backend sampleTransformer
    (show Requests (Source.lines ⟨[], none⟩) [] from .nothing)
  obtain rfl : 0 = handled := Except.ok.inj ((congrArg Prod.fst greeted).symm.trans count)
  refine ⟨isRequest_unfinishedRequest, failed, ?_, (answered _ _ isRequest_unfinishedRequest).1⟩
  rw [congrArg Prod.snd (same (.new none none)), greeted]
  rfl

end Session
end DspBridge.Host
