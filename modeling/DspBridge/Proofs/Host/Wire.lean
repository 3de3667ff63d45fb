import DspBridge.Host.Session
import DspBridge.Proofs.Json.Texts
import DspBridge.Proofs.Text.Utf8

/-!
# Messages on the wire

A message of the bridge is read back from the text that carries it, and its bytes hold no control
character, so the end of a line marks the end of a message.  Reading goes through the envelope, for
which the two shapes of a message are treated once for every type of message.
-/

namespace DspBridge.Host

open Json Json.Reader

/-! ## Envelopes -/

section Envelope

variable {τ : Type} {type : Json.Reader τ} {kind : String} {found : τ}

theorem envelopeMember_type (value : Json.Reader Json) (others : List (String × Json))
    (rest : List Char) (typed : type (writeString kind ++ rest) = .done found rest) :
    envelopeMember type value (none, others)
        (writeString typeField ++ ':' :: (writeString kind ++ rest)) =
      .done (some found, others) rest := by
  rw [envelopeMember, bind_apply, bind_done (stringLiteral_writeString typeField _)]
  simp only [beq_self_eq_true, if_true]
  rw [bind_apply, bind_done colon_colon, bind_apply, bind_done typed]
  rfl

theorem envelopeMember_other (value : Json.Reader Json) (name : String) (other : name ≠ typeField)
    (state : Option τ × List (String × Json)) (content : Json) (rest : List Char)
    (read : value (content.write ++ rest) = .done content rest) :
    envelopeMember type value state (writeString name ++ ':' :: (content.write ++ rest)) =
      .done (state.1, state.2 ++ [(name, content)]) rest := by
  rw [envelopeMember, bind_apply, bind_done (stringLiteral_writeString name _)]
  simp only [beq_iff_eq, other, if_false]
  rw [bind_apply, bind_done colon_colon, bind_apply, bind_done read]
  rfl

theorem envelopeMembers_done (value : Json.Reader Json) {text rest : List Char}
    {others : List (String × Json)}
    (read : members (envelopeMember type value) (none, []) text = .done (some found, others) rest) :
    envelopeMembers type value text = .done ⟨found, .object others⟩ rest := by
  rw [envelopeMembers, bind_apply, bind_done read]
  rfl

/-- The envelope of a message without content is read as it was written. -/
theorem envelope_bare (expected : String)
    (typed : ∀ rest, type (writeString kind ++ rest) = .done found rest) :
    (envelope expected type).run (bareMessage kind).compact = .ok ⟨found, .object []⟩ := by
  let value := Json.Reader.value (Json.depthLimit - 1)
  have fields : members (envelopeMember type value) (none, [])
      (writeString typeField ++ ':' :: (writeString kind ++ ['\x7d'])) =
        .done (some found, []) ['\x7d'] := by
    rw [members, membersFrom_first, bind_done (envelopeMember_type value [] _ (typed _))]
    rfl
  have written : (bareMessage kind).write =
      '\x7b' :: (writeString typeField ++ ':' :: (writeString kind ++ ['\x7d'])) := by
    simp [bareMessage, write, writeMembers]
  apply run_compact
  rw [envelope, written]
  exact enclosed_done closeObject (envelopeMembers_done value fields) closeObject_close

/-- The envelope of a message with texts is read as it was written. -/
theorem envelope_texts (expected : String) (texts : List (String × String))
    (typed : ∀ rest, type (writeString kind ++ rest) = .done found rest) :
    (envelope expected type).run (message kind (textMembers texts)).compact =
      .ok ⟨found, .object [("message", .object (textMembers texts))]⟩ := by
  let value := Json.Reader.value (Json.depthLimit - 1)
  let content := Json.object (textMembers texts)
  have other : envelopeMember type value (some found, [])
      (writeString "message" ++ ':' :: (content.write ++ ['\x7d'])) =
        .done (some found, [("message", content)]) ['\x7d'] :=
    envelopeMember_other value "message" (by decide) _ content _ (value_texts _ texts _)
  have fields : members (envelopeMember type value) (none, [])
      (writeString typeField ++ ':' :: (writeString kind ++ ',' :: (writeString "message" ++ ':' ::
        (content.write ++ ['\x7d'])))) =
        .done (some found, [("message", content)]) ['\x7d'] := by
    rw [members, membersFrom_first, bind_done (envelopeMember_type value [] _ (typed _))]
    refine (membersFrom_next _ _ _ _).trans ?_
    rw [bind_done other]
    rfl
  have written : (message kind (textMembers texts)).write =
      '\x7b' :: (writeString typeField ++ ':' :: (writeString kind ++ ',' ::
        (writeString "message" ++ ':' :: (content.write ++ ['\x7d'])))) := by
    simp [message, write, writeMembers, content]
  apply run_compact
  rw [envelope, written]
  exact enclosed_done closeObject (envelopeMembers_done value fields) closeObject_close

end Envelope

theorem bareMessage_solid (kind : String) : Solid (bareMessage kind).write := by
  apply object_solid
  intro member among
  rw [List.mem_singleton.mp among]
  exact writeString_solid kind

theorem message_solid (kind : String) (texts : List (String × String)) :
    Solid (message kind (textMembers texts)).write := by
  apply object_solid
  intro member among
  rcases List.mem_cons.mp among with rfl | among
  · exact writeString_solid kind
  · rw [List.mem_singleton.mp among]
    exact texts_solid texts

theorem lineEnd_not_mem_of_solid {text : String} (solid : Solid text.toList) :
    lineEnd ∉ Text.bytesOf text := by
  intro ended
  obtain ⟨c, member, encoded⟩ := List.mem_flatMap.mp ended
  exact absurd (Text.Utf8.solid_encode (solid c member) lineEnd encoded) (by decide)

/-! ## Messages of the bridge -/

theorem typeName_writeString (kind : String) (rest : List Char) :
    typeName (writeString kind ++ rest) = .done kind rest :=
  stringLiteral_writeString kind rest

theorem outboundType_ready (rest : List Char) :
    outboundType (writeString "ready" ++ rest) = .done .ready rest := by
  rw [outboundType, bind_apply, bind_done (typeName_writeString _ rest)]
  rfl

theorem outboundType_transformResponse (rest : List Char) :
    outboundType (writeString "transformResponse" ++ rest) = .done .transformResponse rest := by
  rw [outboundType, bind_apply, bind_done (typeName_writeString _ rest)]
  rfl

namespace Outbound

/-- A message of the bridge is read back from the text that carries it. -/
theorem parse_wire (outbound : Outbound) : Outbound.parse outbound.wire = .ok outbound := by
  cases outbound with
  | ready =>
    rw [Outbound.parse, wire, toJson, envelope_bare _ outboundType_ready]
    rfl
  | transformResponse contents =>
    have read : (envelope "internally tagged enum Outbound" outboundType).run
        (message "transformResponse" [("contents", .string contents)]).compact = .ok _ :=
      envelope_texts _ [("contents", contents)] outboundType_transformResponse
    rw [Outbound.parse, wire, toJson, read]
    rfl

theorem wire_solid (outbound : Outbound) : Solid outbound.wire.toList := by
  rw [wire, compact, String.toList_ofList]
  cases outbound with
  | ready => exact bareMessage_solid "ready"
  | transformResponse contents => exact message_solid "transformResponse" [("contents", contents)]

/-- A message holds no end of line. -/
theorem lineEnd_not_mem (outbound : Outbound) : lineEnd ∉ Text.bytesOf outbound.wire :=
  lineEnd_not_mem_of_solid outbound.wire_solid

end Outbound

/-! ## Messages of the host -/

/-- A request is read back from the text that carries it. -/
theorem Inbound.parse_transformRequest (filename contents : String) :
    Inbound.parse (Inbound.transformRequest filename contents).wire =
      .ok (.transformRequest filename contents) := by
  have read : (envelope "internally tagged enum Inbound" typeName).run
      (message "transformRequest"
        [("filename", .string filename), ("contents", .string contents)]).compact = .ok _ :=
    envelope_texts _ [("filename", filename), ("contents", contents)]
      (typeName_writeString "transformRequest")
  rw [Inbound.parse, wire, toJson, read]
  rfl

theorem Inbound.transformRequest_solid (filename contents : String) :
    Solid (Inbound.transformRequest filename contents).wire.toList := by
  rw [wire, compact, String.toList_ofList]
  exact message_solid "transformRequest" [("filename", filename), ("contents", contents)]

/-- An object is trimmed to itself, for it begins and ends with characters that are not blank. -/
theorem trim_object (members : List (String × Json)) {ending : String}
    (blank : ∀ c ∈ ending.toList, Text.isBlank c = true) :
    Text.trim ((Json.object members).compact ++ ending) = (Json.object members).compact := by
  have opening : Text.isBlank '\x7b' = false := by decide
  have closing : Text.isBlank '\x7d' = false := by decide
  have passed (rest : List Char) :
      (ending.toList.reverse ++ rest).dropWhile Text.isBlank = rest.dropWhile Text.isBlank :=
    List.dropWhile_append_of_pos fun c member => blank c (List.mem_reverse.mp member)
  simp [Text.trim, Text.trimChars, compact, write, opening, closing, passed]

theorem newline_blank : ∀ c ∈ "\n".toList, Text.isBlank c = true :=
  List.forall_mem_singleton.mpr (by decide)

theorem compact_object_ne_empty (members : List (String × Json)) :
    (Json.object members).compact ≠ "" := by
  simp [compact, write]

end DspBridge.Host
