import DspBridge.Proofs.Host.Contents
import DspBridge.Proofs.Host.Serving
import DspBridge.Proofs.Host.Wire
import Mathlib

/-!
# The protocol

Which lines of the host are requests, which are messages of other types, and which are no messages,
told by the JSON value that a line holds; and what a session does about each of them.

JSON is here what the readers of this library take.  A text of the grammar holds a value if its
brackets are nested at most 127 levels deep, its numbers are whole and of 64 bits or finite as
doubles, and the surrogates among its escapes come in pairs; otherwise it holds none.  Of the members
of an object only those that are asked for have to come once: other names may be repeated, and what
they hold makes no difference.

The protocol speaks of objects.  A session takes arrays for objects too, where their items stand in
the order of the members, and given this notion of JSON it is the only way in which it departs from
the protocol.
-/

namespace DspBridge.Host

open Json

/-! ## Messages as values -/

/-- The message of the host that a value is.  The members that say so come once each; any others may
stand around them, in any order.  If arrays stand for records too, an array lists what the members
would be, its type first. -/
inductive IsMessage (arrays : Bool) : Json → Inbound → Prop where
  | request {members : List (String × Json)} {file : Json} {filename contents : String} :
      Sole members typeField (.string "transformRequest") → Sole members "message" file →
      IsFile arrays filename contents file →
      IsMessage arrays (.object members) (.transformRequest filename contents)
  | other {members : List (String × Json)} {kind : String} :
      Sole members typeField (.string kind) → kind ≠ "transformRequest" →
      IsMessage arrays (.object members) .unknown
  | requestItems {file : Json} {filename contents : String} :
      arrays = true → IsFile arrays filename contents file →
      IsMessage arrays (.array [.string "transformRequest", file])
        (.transformRequest filename contents)
  | otherItems {kind : String} :
      arrays = true → kind ≠ "transformRequest" → IsMessage arrays (.array [.string kind]) .unknown

theorem sole_untyped_iff {members : List (String × Json)} {name : String} {value : Json}
    (other : name ≠ typeField) : Sole (untyped members) name value ↔ Sole members name value := by
  have same : (fun member : String × Json => member.1 == name && member.1 != typeField) =
      fun member => member.1 == name := by
    funext member
    by_cases named : member.1 = name <;> simp [named, other]
  rw [Sole, Sole, valuesAt, valuesAt, untyped, List.filter_filter, same]

theorem decodeRequest_eq_ok_iff {content : Json} {message : Inbound} :
    decodeRequest content = .ok message ↔ ∃ file filename contents, Wraps content file ∧
      IsFile true filename contents file ∧ message = .transformRequest filename contents := by
  simp only [decodeRequest, bind_eq_ok_iff, decodeContent_eq_ok_iff, pure_eq_ok_iff]
  constructor
  · rintro ⟨⟨filename, contents⟩, ⟨file, wraps, decoded⟩, rfl⟩
    exact ⟨file, filename, contents, wraps, decodeTexts_eq_ok_iff.mp decoded, rfl⟩
  · rintro ⟨file, filename, contents, wraps, isFile, rfl⟩
    exact ⟨(filename, contents), ⟨file, wraps, decodeTexts_eq_ok_iff.mpr isFile⟩, rfl⟩

theorem withoutPlace_eq_ok_iff {α : Type} {result : Except Cause α} {value : α} :
    withoutPlace result = .ok value ↔ result = .ok value := by
  cases result <;> simp [withoutPlace]

/-- The message of the host in an envelope. -/
def decodeEnvelope (envelope : Envelope String) : Except Json.Error Inbound :=
  if envelope.type == "transformRequest" then withoutPlace (decodeRequest envelope.content)
  else withoutPlace (decodeNothing envelope.content *> pure .unknown)

theorem decodeEnvelope_request_iff {content : Json} {message : Inbound} :
    decodeEnvelope ⟨"transformRequest", content⟩ = .ok message ↔
      ∃ file filename contents, Wraps content file ∧ IsFile true filename contents file ∧
        message = .transformRequest filename contents := by
  rw [decodeEnvelope, if_pos (beq_self_eq_true _), withoutPlace_eq_ok_iff, decodeRequest_eq_ok_iff]

theorem decodeEnvelope_other_iff {kind : String} {content : Json} {message : Inbound}
    (other : kind ≠ "transformRequest") :
    decodeEnvelope ⟨kind, content⟩ = .ok message ↔
      (∀ items, content = .array items → items = []) ∧ message = .unknown := by
  rw [decodeEnvelope, if_neg (by simpa using other), withoutPlace_eq_ok_iff, seqRight_eq_bind]
  simp only [bind_eq_ok_iff, decodeNothing_eq_ok_iff, pure_eq_ok_iff]
  exact ⟨fun ⟨_, empty, same⟩ => ⟨empty, same⟩, fun ⟨empty, same⟩ => ⟨(), empty, same⟩⟩

/-- The message in the envelope that a value is opened to is the message that the value is. -/
theorem decodeEnvelope_opens_iff {value : Json} {message : Inbound} :
    (∃ envelope, Opens value envelope ∧ decodeEnvelope envelope = .ok message) ↔
      IsMessage true value message := by
  constructor
  · rintro ⟨⟨kind, content⟩, opens, decoded⟩
    by_cases request : kind = "transformRequest"
    · subst request
      obtain ⟨file, filename, contents, wraps, isFile, rfl⟩ := decodeEnvelope_request_iff.mp decoded
      cases opens with
      | object typed =>
          cases wraps with
          | object sole => exact .request typed ((sole_untyped_iff (by decide)).mp sole) isFile
      | array =>
          cases wraps with
          | array => exact .requestItems rfl isFile
    · obtain ⟨empty, rfl⟩ := (decodeEnvelope_other_iff request).mp decoded
      cases opens with
      | object typed => exact .other typed request
      | array =>
          obtain rfl := empty _ rfl
          exact .otherItems rfl request
  · intro isMessage
    cases isMessage with
    | request typed sole isFile =>
        have wrapped := (sole_untyped_iff (by decide)).mpr sole
        exact ⟨_, .object typed, decodeEnvelope_request_iff.mpr
          ⟨_, _, _, .object wrapped, isFile, rfl⟩⟩
    | other typed different =>
        refine ⟨_, .object typed, (decodeEnvelope_other_iff different).mpr ⟨?_, rfl⟩⟩
        intro items isArray
        cases isArray
    | requestItems _ isFile =>
        exact ⟨_, .array, decodeEnvelope_request_iff.mpr ⟨_, _, _, .array, isFile, rfl⟩⟩
    | otherItems _ different =>
        refine ⟨_, .array, (decodeEnvelope_other_iff different).mpr ⟨?_, rfl⟩⟩
        intro items isArray
        cases isArray
        rfl

/-- The message that a text holds is the message that its value is. -/
theorem Inbound.parse_eq_ok_iff {text : String} {message : Inbound} :
    Inbound.parse text = .ok message ↔ ∃ value, Holds text value ∧ IsMessage true value message := by
  have read : Inbound.parse text =
      (envelope "internally tagged enum Inbound" typeName).run text >>= decodeEnvelope := rfl
  simp only [read, bind_eq_ok_iff, envelope_run_eq_ok_iff, ← decodeEnvelope_opens_iff]
  constructor
  · rintro ⟨opened, ⟨value, holds, opens⟩, decoded⟩
    exact ⟨value, holds, opened, opens, decoded⟩
  · rintro ⟨value, holds, opened, opens, decoded⟩
    exact ⟨opened, ⟨value, holds, opens⟩, decoded⟩

/-- What a text is as a message, or that it is none. -/
inductive Verdict (arrays : Bool) (text : String) : Option Inbound → Prop where
  | message {value : Json} {message : Inbound} :
      Holds text value → IsMessage arrays value message → Verdict arrays text (some message)
  | unreadable :
      (∀ value message, Holds text value → ¬ IsMessage arrays value message) →
      Verdict arrays text none

theorem verdict_iff {text : String} {verdict : Option Inbound} :
    Verdict true text verdict ↔ verdict = (Inbound.parse text).toOption := by
  cases parsed : Inbound.parse text with
  | ok message =>
      obtain ⟨value, holds, isMessage⟩ := Inbound.parse_eq_ok_iff.mp parsed
      constructor
      · intro given
        cases given with
        | message holds isMessage =>
            have read := Inbound.parse_eq_ok_iff.mpr ⟨_, holds, isMessage⟩
            rw [parsed, Except.ok.injEq] at read
            rw [read]
            rfl
        | unreadable none => exact absurd isMessage (none value message holds)
      · intro given
        rw [given]
        exact .message holds isMessage
  | error error =>
      have none : ∀ value message, Holds text value → ¬ IsMessage true value message := by
        intro value message holds isMessage
        have read := Inbound.parse_eq_ok_iff.mpr ⟨value, holds, isMessage⟩
        rw [parsed] at read
        cases read
      constructor
      · intro given
        cases given with
        | message holds isMessage => exact absurd isMessage (none _ _ holds)
        | unreadable => rfl
      · intro given
        rw [given]
        exact .unreadable none

/-! ## What a session does -/

/-- A request is answered: it is transformed and the answer is sent. -/
def Answered (line : List UInt8) (filename contents : String) : Prop :=
  ∀ (σ : Type) (backend : Backend σ) (transformer : Transformer σ) (sink : Sink) (handled : Nat),
    let transformed := Transformer.transform backend filename contents transformer
    let pushed := sink.push (Session.lineOf (.transformResponse transformed.value.1))
    (Session.serveLine backend handled line).run ⟨transformer, sink⟩ =
      ⟨(pushed.1.map fun _ => handled + 1, ⟨transformed.value.2, pushed.2⟩),
        .requestReceived filename :: transformed.events⟩

/-- A line is passed over with an event: the session goes on with the next line as it was. -/
def PassedOver (line : List UInt8) (event : Event) : Prop :=
  ∀ (σ : Type) (backend : Backend σ) (session : Session σ) (handled : Nat)
    (rest : List (List UInt8)),
    let later := (Session.serveLines backend handled rest).run session
    (Session.serveLines backend handled (line :: rest)).run session =
      ⟨later.value, event :: later.events⟩

/-- How a session serves a line that is a message, or none. -/
inductive Serves (line : List UInt8) : Option Inbound → Prop where
  | answered {filename contents : String} :
      Answered line filename contents → Serves line (some (.transformRequest filename contents))
  | ignored {event : Event} :
      event.level = .debug → PassedOver line event → Serves line (some .unknown)
  | reported {event : Event} : event.level = .warn → PassedOver line event → Serves line none

namespace Session

theorem answered_of_request {line : List UInt8} {filename contents : String}
    (request : Line.ofBytes line = .request filename contents) :
    Answered line filename contents := by
  intro σ backend transformer sink handled
  exact serveLine_run backend transformer request handled sink

theorem passedOver_of_tell {line : List UInt8} {event : Event}
    (told : ∀ (σ : Type) (backend : Backend σ) (handled : Nat), serveLine backend handled line =
      (do tell event; pure handled : Step σ Nat)) : PassedOver line event := by
  intro σ backend session handled rest later
  have served : (serveLine backend handled line).run session =
      ⟨(.ok handled, session), [event]⟩ := by
    rw [told]
    rfl
  rw [serveLines, run_bind_ok _ served]
  rfl

end Session

/-- What a line is that holds a text. -/
theorem ofBytes_bytesOf {text : String} (present : Text.trim text ≠ "") :
    Line.ofBytes (Text.bytesOf text) =
      match Inbound.parse (Text.trim text) with
      | .ok (.transformRequest filename contents) => .request filename contents
      | .ok .unknown => .ignored (Text.trim text)
      | .error error => .unreadable error := by
  have notBlank : (Text.trim text).isEmpty = false := by
    rw [Bool.eq_false_iff, ne_eq, String.isEmpty_iff]
    exact present
  rw [Line.ofBytes, Text.Utf8.decode_bytesOf]
  dsimp only
  rw [notBlank]
  generalize Inbound.parse (Text.trim text) = parsed
  cases parsed with
  | error error => rfl
  | ok message => cases message <;> rfl

theorem serves_of_verdict {text : String} {verdict : Option Inbound} (present : Text.trim text ≠ "")
    (given : Verdict true (Text.trim text) verdict) : Serves (Text.bytesOf text) verdict := by
  have classified := ofBytes_bytesOf present
  rw [verdict_iff.mp given]
  cases parsed : Inbound.parse (Text.trim text) with
  | error error =>
      rw [parsed] at classified
      exact .reported rfl (Session.passedOver_of_tell fun _ _ _ => by
        rw [Session.serveLine, classified])
  | ok message =>
      rw [parsed] at classified
      cases message with
      | transformRequest filename contents =>
          exact .answered (Session.answered_of_request classified)
      | unknown =>
          exact .ignored rfl (Session.passedOver_of_tell fun _ _ _ => by
            rw [Session.serveLine, classified])

section Unique

variable {line : List UInt8} {filename contents : String} {event : Event}

/-- A compiler that refuses every unit. -/
def refusing : Backend Unit where
  generate _ _ _ := pure (.ok false)
  read path := pure (.error ⟨path⟩)
  lastError := pure ""
  reset := pure ()
  version := pure ""

/-- A transformer that leaves every file as it is. -/
def idle : Transformer Unit := .new (.new () [])

theorem transform_refusing (filename contents : String) :
    (Transformer.transform refusing filename contents idle).value.1 = contents := by
  cases unit : unitName? filename with
  | none =>
      rw [Transformer.transform, unit]
      rfl
  | some name =>
      cases unnamed : name.isEmpty <;>
        simp only [Transformer.transform, unit, Compiler.compile, unnamed] <;> rfl

/-- What a session without a working compiler does about a single line. -/
def trial (line : List UInt8) : Traced (Except String Nat × Session Unit) :=
  (Session.serveLines refusing 0 [line]).run ⟨idle, ⟨[], 0, none, none⟩⟩

theorem PassedOver.trial (passed : PassedOver line event) :
    trial line = ⟨(.ok 0, ⟨idle, ⟨[], 0, none, none⟩⟩), [event]⟩ :=
  passed Unit refusing ⟨idle, ⟨[], 0, none, none⟩⟩ 0 []

theorem Answered.trial (answered : Answered line filename contents) :
    (trial line).value.1 = .ok 1 ∧
      (trial line).value.2.sink.sent = Session.lineOf (.transformResponse contents) ∧
      ∃ later, (trial line).events = .requestReceived filename :: later := by
  have served := answered Unit refusing idle ⟨[], 0, none, none⟩ 0
  have same := transform_refusing filename contents
  have taken := Sink.push_unlimited (Session.lineOf (.transformResponse contents)) [] 0
  generalize Transformer.transform refusing filename contents idle =
    transformed at served same
  dsimp only at served
  rw [same, taken, List.nil_append] at served
  have counted : Except.map (fun _ : Unit => 0 + 1) (.ok () : Except String Unit) = .ok 1 := rfl
  rw [counted] at served
  have done := run_bind_ok (fun handled => Session.serveLines refusing handled []) served
  rw [Host.trial, Session.serveLines, done, Session.serveLines]
  exact ⟨rfl, rfl, _, rfl⟩

theorem lineOf_transformResponse_inj {first second : String}
    (same : Session.lineOf (.transformResponse first) = Session.lineOf (.transformResponse second)) :
    first = second := by
  have bytes := List.append_cancel_right same
  have texts : (Outbound.transformResponse first).wire = (Outbound.transformResponse second).wire := by
    have decoded := congrArg Text.Utf8.decode bytes
    rw [Text.Utf8.decode_bytesOf, Text.Utf8.decode_bytesOf, Except.ok.injEq] at decoded
    exact decoded
  have messages := congrArg Outbound.parse texts
  rw [Outbound.parse_wire, Outbound.parse_wire, Except.ok.injEq] at messages
  cases messages
  rfl

/-- A line is served in one way only. -/
theorem Serves.unique {first second : Option Inbound} (serves : Serves line first)
    (too : Serves line second) : first = second := by
  cases serves with
  | answered answered =>
      obtain ⟨count, sent, later, events⟩ := answered.trial
      cases too with
      | answered other =>
          obtain ⟨-, sentToo, _, eventsToo⟩ := other.trial
          have heads := List.head_eq_of_cons_eq (events.symm.trans eventsToo)
          cases heads
          rw [lineOf_transformResponse_inj (sent.symm.trans sentToo)]
      | ignored _ passed | reported _ passed =>
          rw [passed.trial] at count
          cases count
  | ignored debug passed =>
      cases too with
      | answered other =>
          have count := other.trial.1
          rw [passed.trial] at count
          cases count
      | ignored => rfl
      | reported warn other =>
          have same := passed.trial.symm.trans other.trial
          cases same
          rw [debug] at warn
          cases warn
  | reported warn passed =>
      cases too with
      | answered other =>
          have count := other.trial.1
          rw [passed.trial] at count
          cases count
      | ignored debug other =>
          have same := passed.trial.symm.trans other.trial
          cases same
          rw [debug] at warn
          cases warn
      | reported => rfl

end Unique

/-! ## Where arrays stand for objects -/

/-- A value that is an array where the protocol has an object: the message, or the file of a
request. -/
inductive Listed : Json → Prop where
  | message {items : List Json} : Listed (.array items)
  | file {members : List (String × Json)} {items : List Json} :
      Sole members typeField (.string "transformRequest") →
      Sole members "message" (.array items) → Listed (.object members)

theorem IsFile.widen {value : Json} {filename contents : String}
    (isFile : IsFile false filename contents value) : IsFile true filename contents value := by
  cases isFile with
  | object named held => exact .object named held
  | array impossible => cases impossible

theorem IsMessage.widen {value : Json} {message : Inbound} (isMessage : IsMessage false value message) :
    IsMessage true value message := by
  cases isMessage with
  | request typed sole isFile => exact .request typed sole isFile.widen
  | other typed different => exact .other typed different
  | requestItems impossible | otherItems impossible => cases impossible

/-- A message is one by the protocol unless an array stands where an object should. -/
theorem isMessage_false_iff {value : Json} {message : Inbound} :
    IsMessage false value message ↔ IsMessage true value message ∧ ¬ Listed value := by
  constructor
  · intro isMessage
    refine ⟨isMessage.widen, ?_⟩
    intro listed
    cases isMessage with
    | request typed sole isFile =>
        cases listed with
        | file _ array =>
            rw [sole.unique array] at isFile
            cases isFile with
            | array impossible => cases impossible
    | other typed different =>
        cases listed with
        | file request _ =>
            have same := typed.unique request
            cases same
            exact different rfl
    | requestItems impossible | otherItems impossible => cases impossible
  · rintro ⟨isMessage, notListed⟩
    cases isMessage with
    | request typed sole isFile =>
        cases isFile with
        | object named held => exact .request typed sole (.object named held)
        | array => exact absurd (.file typed sole) notListed
    | other typed different => exact .other typed different
    | requestItems | otherItems => exact absurd .message notListed

/-- The protocol gives the verdict of a session unless an array stands for an object in a message
that is accepted. -/
theorem verdicts_agree_iff {text : String} :
    (∀ verdict, Verdict true text verdict ↔ Verdict false text verdict) ↔
      ∀ value message, Holds text value → IsMessage true value message → ¬ Listed value := by
  constructor
  · intro agree value message holds isMessage
    have given := (agree (some message)).mp (.message holds isMessage)
    cases given with
    | message holdsToo narrow =>
        rw [holds.unique holdsToo]
        exact (isMessage_false_iff.mp narrow).2
  · intro unlisted verdict
    constructor
    · intro given
      cases given with
      | message holds isMessage =>
          exact .message holds (isMessage_false_iff.mpr ⟨isMessage, unlisted _ _ holds isMessage⟩)
      | unreadable none =>
          exact .unreadable fun value message holds narrow =>
            none value message holds narrow.widen
    · intro given
      cases given with
      | message holds narrow => exact .message holds narrow.widen
      | unreadable none =>
          exact .unreadable fun value message holds isMessage =>
            none value message holds
              (isMessage_false_iff.mpr ⟨isMessage, unlisted value message holds isMessage⟩)

/-- A session serves a line by the message that it is. -/
theorem serves_iff_verdict {text : String} {verdict : Option Inbound}
    (present : Text.trim text ≠ "") :
    Serves (Text.bytesOf text) verdict ↔ Verdict true (Text.trim text) verdict := by
  have given : Verdict true (Text.trim text) (Inbound.parse (Text.trim text)).toOption :=
    verdict_iff.mpr rfl
  have serves := serves_of_verdict present given
  constructor
  · intro too
    rwa [too.unique serves]
  · exact serves_of_verdict present

/-- Every line that is a text and not blank is served in one way: a request is answered, a message of
another type is ignored, and what is no message is reported, where arrays may stand for objects.  By
the protocol they may not, and lines are served as the protocol has it exactly if no array stands for
an object in a message that is accepted. -/
theorem serves_iff {text : String} (present : Text.trim text ≠ "") :
    (∃! verdict, Serves (Text.bytesOf text) verdict) ∧
    (∀ verdict, Serves (Text.bytesOf text) verdict ↔ Verdict true (Text.trim text) verdict) ∧
    ((∀ verdict, Serves (Text.bytesOf text) verdict ↔ Verdict false (Text.trim text) verdict) ↔
      ∀ value message, Holds (Text.trim text) value → IsMessage true value message →
        ¬ Listed value) := by
  have given : Verdict true (Text.trim text) (Inbound.parse (Text.trim text)).toOption :=
    verdict_iff.mpr rfl
  refine ⟨⟨_, serves_of_verdict present given, ?unique⟩, ?verdict, ?protocol⟩
  case unique =>
    intro verdict serves
    exact serves.unique (serves_of_verdict present given)
  case verdict =>
    intro verdict
    exact serves_iff_verdict present
  case protocol =>
    simp only [serves_iff_verdict present]
    exact verdicts_agree_iff

/-- A request that is written as an array. -/
def listedRequest : String :=
  "[\"transformRequest\",\x7b\"filename\":\"a.txt\",\"contents\":\"x\"\x7d]"

theorem trim_listedRequest : Text.trim listedRequest = listedRequest := by cbv

theorem listedRequest_present : Text.trim listedRequest ≠ "" := by
  rw [trim_listedRequest]
  decide

set_option maxRecDepth 20000 in
theorem holds_listedRequest :
    Holds listedRequest (.array [.string "transformRequest",
      .object [("filename", .string "a.txt"), ("contents", .string "x")]]) :=
  parse_eq_ok_iff.mp (by cbv)

theorem verdict_listedRequest :
    Verdict true (Text.trim listedRequest) (some (.transformRequest "a.txt" "x")) := by
  rw [trim_listedRequest]
  exact .message holds_listedRequest (.requestItems rfl (.object rfl rfl))

/-- The array is answered as the request that it lists. -/
theorem serves_listedRequest :
    Text.trim listedRequest ≠ "" ∧
      Serves (Text.bytesOf listedRequest) (some (.transformRequest "a.txt" "x")) := by
  obtain ⟨-, served, -⟩ := serves_iff listedRequest_present
  exact ⟨listedRequest_present, (served _).mpr verdict_listedRequest⟩

/-- By the protocol the array is no message and would be reported, which it is not. -/
theorem not_serves_protocol :
    ¬ ∀ text verdict, Text.trim text ≠ "" → Verdict false (Text.trim text) verdict →
      Serves (Text.bytesOf text) verdict := by
  intro protocol
  have rejected : Verdict false (Text.trim listedRequest) none := by
    rw [trim_listedRequest]
    refine .unreadable fun value message holds isMessage => ?_
    rw [holds.unique holds_listedRequest] at isMessage
    cases isMessage with
    | requestItems impossible => cases impossible
  have reported := protocol listedRequest none listedRequest_present rejected
  have answered := serves_of_verdict listedRequest_present verdict_listedRequest
  cases reported.unique answered

end DspBridge.Host
