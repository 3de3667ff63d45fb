import DspBridge.Proofs.Host.Serving
import DspBridge.Proofs.Host.Wire

/-!
# Sessions and the transformer

A whole session, from the bytes of the host to the bytes of the bridge.  The requests among the
lines of the input are transformed in order, and the output is one line for the greeting and one
line for each answer, each of which is read back as the message that it carries.
-/

namespace DspBridge.Host

/-- A line that carries a message: the bytes of a text that is read as the message, and then the
only end of line. -/
def Carries (line : List UInt8) (message : Outbound) : Prop :=
  ∃ text, line = Text.bytesOf text ++ [lineEnd] ∧ lineEnd ∉ Text.bytesOf text ∧
    Outbound.parse text = .ok message

theorem carries_lineOf (message : Outbound) : Carries (Session.lineOf message) message :=
  ⟨message.wire, rfl, message.lineEnd_not_mem, message.parse_wire⟩

/-- The lines of messages are cut out of what they make up together. -/
theorem cut_messages (messages : List Outbound) :
    Cut (messages.map Session.lineOf).flatten (messages.map Session.lineOf) := by
  have unended : ∀ body ∈ messages.map (Text.bytesOf ·.wire), lineEnd ∉ body := by
    intro body member
    obtain ⟨message, -, rfl⟩ := List.mem_map.mp member
    exact message.lineEnd_not_mem
  have cut := cut_flatten unended
  rwa [List.map_map] at cut

theorem carries_messages (messages : List Outbound) :
    List.Forall₂ Carries (messages.map Session.lineOf) messages := by
  induction messages with
  | nil => exact .nil
  | cons message rest ih => exact .cons (carries_lineOf message) ih

namespace Session

variable {σ : Type} (backend : Backend σ) (transformer : Transformer σ)

/-- What a session leaves behind that serves a whole input on a channel without limits. -/
theorem run_unlimited {input : List UInt8} {lines : List (List UInt8)}
    {requests : List (String × String)} (cut : Cut input lines)
    (selected : Requests lines requests) :
    let transformed := (transformAll backend requests transformer).value
    ((run backend ⟨input, none⟩).run ⟨transformer, .new none none⟩).value =
      (.ok requests.length,
        unlimited transformed.2
          ((Outbound.ready :: transformed.1.map .transformResponse).map lineOf).flatten
          (requests.length + 1)) := by
  rw [cut_iff.mp cut] at selected
  exact run_whole backend transformer selected

/-- A session refines the transformer: its requests, cut out of the bytes of the input, are
transformed in order, and it answers each with one line, behind one line for the greeting. -/
theorem run_refines_transform (input : List UInt8) :
    ∃ lines requests sent, Cut input lines ∧ Requests lines requests ∧
      let transformed := (transformAll backend requests transformer).value
      let served := ((run backend ⟨input, none⟩).run ⟨transformer, .new none none⟩).value
      served.1 = .ok requests.length ∧ served.2.transformer = transformed.2 ∧
        Cut served.2.sink.sent sent ∧ sent.length = requests.length + 1 ∧
        List.Forall₂ Carries sent (.ready :: transformed.1.map .transformResponse) := by
  obtain ⟨requests, selected⟩ := requests_of_lines (Source.lines ⟨input, none⟩)
  let messages := Outbound.ready ::
    (transformAll backend requests transformer).value.1.map .transformResponse
  have cut := cut_lines input
  have served := run_unlimited backend transformer cut selected
  refine ⟨_, requests, messages.map lineOf, cut, selected, ?_⟩
  rw [served]
  refine ⟨rfl, rfl, cut_messages messages, ?_, carries_messages messages⟩
  rw [List.length_map, List.length_cons, List.length_map, transformAll_length]

end Session
end DspBridge.Host
