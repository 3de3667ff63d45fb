import DspBridge.Proofs.Host.Lines
import DspBridge.Proofs.Host.Wire

/-!
# Messages there and back

A message of either side is read back from the text that carries it.  That text is a line of its
own in any input: it holds no control character, and trimming the line gives the text again.  So
what one side has read it can pass on, and the other side reads the same.
-/

namespace DspBridge.Host

open Json

/-! ## Texts that are lines -/

/-- A text that is a line of its own wherever its end of line is written behind it. -/
structure IsLine (text : String) : Prop where
  /-- No byte of the text is a control character. -/
  solid : ∀ byte ∈ Text.bytesOf text, 0x20 ≤ byte.toNat
  /-- The text and its end are cut off whatever follows, also if the input fails later. -/
  cut (rest : List UInt8) (failure : Option String) :
    Source.lines ⟨Text.bytesOf text ++ lineEnd :: rest, failure⟩ =
      (Text.bytesOf text ++ [lineEnd]) :: Source.lines ⟨rest, failure⟩
  /-- At the end of an input the text needs no end. -/
  unfinished : Source.lines ⟨Text.bytesOf text, none⟩ = [Text.bytesOf text]
  trimmed : Text.trim text = text
  trimmed_end : Text.trim (text ++ "\n") = text
  nonempty : text ≠ ""

theorem bytes_solid {text : String} (solid : Solid text.toList) :
    ∀ byte ∈ Text.bytesOf text, 0x20 ≤ byte.toNat := by
  intro byte member
  obtain ⟨c, among, encoded⟩ := List.mem_flatMap.mp member
  exact Text.Utf8.solid_encode (solid c among) byte encoded

theorem bytesOf_ne_nil {text : String} (nonempty : text ≠ "") : Text.bytesOf text ≠ [] := by
  intro nothing
  have decoded := Text.Utf8.decode_bytesOf text
  rw [nothing] at decoded
  have empty : Text.Utf8.decode [] = .ok "" := rfl
  rw [empty, Except.ok.injEq] at decoded
  exact nonempty decoded.symm

theorem trim_compact (members : List (String × Json)) :
    Text.trim (Json.object members).compact = (Json.object members).compact := by
  have nothing : ∀ c ∈ "".toList, Text.isBlank c = true := by simp
  have trimmed := trim_object members nothing
  rwa [String.append_empty] at trimmed

/-- An object is written as a line if its values are written without control characters. -/
theorem isLine_object {members : List (String × Json)}
    (solid : Solid (Json.object members).write) : IsLine (Json.object members).compact := by
  have solidText : Solid (Json.object members).compact.toList := by
    rwa [compact, String.toList_ofList]
  have unended := lineEnd_not_mem_of_solid solidText
  have nonempty := compact_object_ne_empty members
  exact {
    solid := bytes_solid solidText
    cut := lines_line unended
    unfinished := lines_unfinished (bytesOf_ne_nil nonempty) unended
    trimmed := trim_compact members
    trimmed_end := trim_object members newline_blank
    nonempty := nonempty }

/-- A line is what the text in it is, with or without its end. -/
theorem IsLine.ofBytes {text : String} (line : IsLine text) :
    Line.ofBytes (Text.bytesOf text ++ [lineEnd]) = Line.ofBytes (Text.bytesOf text) := by
  rw [← bytesOf_ended, Line.ofBytes, Line.ofBytes, Text.Utf8.decode_bytesOf,
    Text.Utf8.decode_bytesOf]
  dsimp only
  rw [line.trimmed, line.trimmed_end]

/-! ## Messages of the bridge -/

theorem Outbound.isLine_wire (message : Outbound) : IsLine message.wire := by
  cases message with
  | ready => exact isLine_object (bareMessage_solid "ready")
  | transformResponse contents =>
      exact isLine_object (message_solid "transformResponse" [("contents", contents)])

/-! ## Messages of the host -/

namespace Inbound

/-- A message that names its type and nothing else is of an unknown type, unless it is a request,
which has to say what is to be transformed. -/
theorem parse_bareMessage (kind : String) :
    Inbound.parse (bareMessage kind).compact =
      if kind = "transformRequest" then .error ⟨.missingField "message", none⟩ else .ok .unknown := by
  have read := envelope_bare "internally tagged enum Inbound" (typeName_writeString kind)
  rw [Inbound.parse, read]
  simp only [bind, Except.bind, beq_iff_eq]
  split <;> rfl

/-- A message is read back from the text that carries it. -/
theorem parse_wire (message : Inbound) : Inbound.parse message.wire = .ok message := by
  cases message with
  | transformRequest filename contents => exact parse_transformRequest filename contents
  | unknown => exact parse_bareMessage "unknown"

theorem isLine_wire (message : Inbound) : IsLine message.wire := by
  cases message with
  | transformRequest filename contents =>
      exact isLine_object
        (message_solid "transformRequest" [("filename", filename), ("contents", contents)])
  | unknown => exact isLine_object (bareMessage_solid "unknown")

/-- What the line of a message is to a session. -/
def asLine : Inbound → Line
  | .transformRequest filename contents => .request filename contents
  | .unknown => .ignored Inbound.unknown.wire

theorem ofBytes_wire (message : Inbound) :
    Line.ofBytes (Text.bytesOf message.wire) = message.asLine := by
  have line := message.isLine_wire
  have present : (message.wire).isEmpty = false := by
    rw [Bool.eq_false_iff, ne_eq, String.isEmpty_iff]
    exact line.nonempty
  rw [Line.ofBytes, Text.Utf8.decode_bytesOf]
  dsimp only
  rw [line.trimmed, present, message.parse_wire]
  cases message <;> rfl

end Inbound

/-! ## There and back -/

/-- Reading a message that has been written gives the message. -/
theorem bind_parse {ε α : Type} {parse : String → Except ε α} {wire : α → String}
    (back : ∀ message, parse (wire message) = .ok message) (text : String) :
    (parse text >>= fun message => parse (wire message)) = parse text := by
  simp only [back]
  exact bind_pure _

/-- Every message of either side is read back from the text that carries it, and that text is a
line of its own; to a session the line is what the message is.  A text that is accepted as a message
can therefore be written anew, and is then accepted as the same message; this goes for all messages
of unknown types together. -/
theorem messages_round_trip :
    (∀ message : Inbound,
      Inbound.parse message.wire = .ok message ∧ IsLine message.wire ∧
        Line.ofBytes (Text.bytesOf message.wire) = message.asLine ∧
        Line.ofBytes (Text.bytesOf message.wire ++ [lineEnd]) = message.asLine) ∧
    (∀ message : Outbound,
      Outbound.parse message.wire = .ok message ∧ IsLine message.wire) ∧
    (∀ text, (Inbound.parse text >>= fun message => Inbound.parse message.wire) =
      Inbound.parse text) ∧
    (∀ kind, Inbound.parse (bareMessage kind).compact =
      if kind = "transformRequest" then .error ⟨.missingField "message", none⟩ else .ok .unknown) ∧
    ∀ text, (Outbound.parse text >>= fun message => Outbound.parse message.wire) =
      Outbound.parse text := by
  refine ⟨?inbound, ?outbound, bind_parse Inbound.parse_wire, Inbound.parse_bareMessage,
    bind_parse Outbound.parse_wire⟩
  case inbound =>
    intro message
    have line := message.isLine_wire
    have read := message.ofBytes_wire
    exact ⟨message.parse_wire, line, read, line.ofBytes.trans read⟩
  case outbound =>
    intro message
    exact ⟨message.parse_wire, message.isLine_wire⟩

end DspBridge.Host
