import DspBridge.Proofs.Host.Refinement
import DspBridge.Compiler.Scripted
import DspBridge.Proofs.Compiler.Journal
import Mathlib.Data.List.Forall2
import Mathlib.Data.List.ReduceOption

/-!
# Lines that do not reach the compiler

Some lines of an input are deleted, none of which is a request for a source file.  The session that
is left gives the other lines the same answers and ends with the same transformer.  Each line comes
with its reply here, which is an answer or nothing, so that deleting lines and deleting replies is
the same thing.
-/

namespace DspBridge

theorem unitName?_eq_none_iff {filename : String} :
    unitName? filename = none ↔ ¬ sourceSuffix.toList <:+ filename.toList := by
  rw [unitName?, stripSuffix?, ← List.isSuffixOf_iff_suffix]
  split
  next found => simp [found]
  next absent => simp [absent]

theorem unitName?_eq_some_iff {filename name : String} :
    unitName? filename = some name ↔ filename = name ++ sourceSuffix := by
  rw [unitName?, stripSuffix?]
  constructor
  · intro stripped
    split at stripped
    next found =>
      obtain ⟨start, whole⟩ := List.isSuffixOf_iff_suffix.mp found
      rw [← whole, List.length_append, Nat.add_sub_cancel, List.take_left, Option.some.injEq]
        at stripped
      rw [← stripped]
      apply String.ext
      rw [String.toList_append, String.toList_ofList, whole]
    next => cases stripped
  · rintro rfl
    rw [String.toList_append, if_pos (List.isSuffixOf_iff_suffix.mpr (List.suffix_append _ _)),
      List.length_append, Nat.add_sub_cancel, List.take_left, String.ofList_toList]

namespace Host

/-- A line that does not reach the compiler: it is no request, or one for a file of another kind. -/
def Invisible (line : List UInt8) : Prop :=
  ∀ filename contents, IsRequest line filename contents →
    ¬ sourceSuffix.toList <:+ filename.toList

/-- What a line is answered with: nothing, unless it is a request. -/
inductive Replied (line : List UInt8) : Option String → Prop where
  | answered {filename contents : String} (answer : String) :
      IsRequest line filename contents → Replied line (some answer)
  | unanswered : (∀ filename contents, ¬ IsRequest line filename contents) → Replied line none

theorem Replied.eq_none {line : List UInt8} {reply : Option String} (replied : Replied line reply)
    (other : ∀ filename contents, ¬ IsRequest line filename contents) : reply = none := by
  cases replied with
  | answered answer request => exact absurd request (other _ _)
  | unanswered => rfl

theorem Replied.eq_some {line : List UInt8} {reply : Option String} (replied : Replied line reply)
    {filename contents : String} (request : IsRequest line filename contents) :
    ∃ answer, reply = some answer := by
  cases replied with
  | answered answer => exact ⟨answer, rfl⟩
  | unanswered other => exact absurd request (other _ _)

/-! ## Lines of requests -/

/-- The line of a request. -/
def requestLine (filename contents : String) : List UInt8 :=
  Text.bytesOf (Inbound.transformRequest filename contents).wire ++ [lineEnd]

theorem isRequest_requestLine (filename contents : String) :
    IsRequest (requestLine filename contents) filename contents := by
  have trimmed : Text.trim ((Inbound.transformRequest filename contents).wire ++ "\n") =
      (Inbound.transformRequest filename contents).wire :=
    trim_object _ newline_blank
  refine ⟨(Inbound.transformRequest filename contents).wire ++ "\n", ?_, ?_, ?_⟩
  · exact bytesOf_ended _
  · rw [trimmed]
    exact compact_object_ne_empty _
  · rw [trimmed]
    exact Inbound.parse_transformRequest filename contents

/-- A line that is one request is not another. -/
theorem IsRequest.filename_eq {line : List UInt8} {filename other contents text : String}
    (first : IsRequest line filename contents) (second : IsRequest line other text) :
    filename = other := by
  have same := (ofBytes_eq_request_iff.mpr first).symm.trans (ofBytes_eq_request_iff.mpr second)
  cases same
  rfl

theorem Cut.requestLine {rest : List UInt8} {lines : List (List UInt8)}
    (filename contents : String) (cut : Cut rest lines) :
    Cut (requestLine filename contents ++ rest) (requestLine filename contents :: lines) := by
  rw [Host.requestLine, List.append_assoc]
  exact .line (lineEnd_not_mem_of_solid (Inbound.transformRequest_solid filename contents)) cut

theorem Cut.blank {rest : List UInt8} {lines : List (List UInt8)} (cut : Cut rest lines) :
    Cut ([lineEnd] ++ rest) ([lineEnd] :: lines) := by
  have empty : Cut ([] ++ lineEnd :: rest) (([] ++ [lineEnd]) :: lines) :=
    .line List.not_mem_nil cut
  exact empty

theorem not_isRequest_blank (filename contents : String) :
    ¬ IsRequest [lineEnd] filename contents := by
  intro request
  have classified := ofBytes_eq_request_iff.mpr request
  have blank : Line.ofBytes [lineEnd] = .blank := by rfl
  rw [blank] at classified
  cases classified

/-! ## Deletion -/

/-- The elements at the places that are kept. -/
def picked {α : Type} : (kept : Nat → Bool) → List α → List α
  | _, [] => []
  | kept, first :: rest =>
      if kept 0 then first :: picked (fun place => kept (place + 1)) rest
      else picked (fun place => kept (place + 1)) rest

/-- Lines that are left when others are deleted are still the lines of what they make up. -/
theorem Cut.picked {input : List UInt8} {lines : List (List UInt8)} (cut : Cut input lines)
    (kept : Nat → Bool) : Cut (picked kept lines).flatten (picked kept lines) := by
  induction cut generalizing kept with
  | nothing => exact .nothing
  | unfinished present unended =>
      rw [Host.picked]
      split
      · rw [Host.picked, List.flatten_singleton]
        exact .unfinished present unended
      · exact .nothing
  | line unended others ih =>
      rw [Host.picked]
      split
      · rw [List.flatten_cons, List.append_assoc]
        exact .line unended (ih _)
      · exact ih _

namespace Session

variable {σ : Type} (backend : Backend σ) (transformer : Transformer σ)

/-- Reply to a line. -/
def reply (line : List UInt8) : Action (Transformer σ) (Option String) :=
  match Line.ofBytes line with
  | .request filename contents => some <$> Transformer.transform backend filename contents
  | _ => pure none

/-- Reply to lines in order. -/
def replies (lines : List (List UInt8)) : Action (Transformer σ) (List (Option String)) :=
  lines.mapM (reply backend)

theorem replies_cons (line : List UInt8) (rest : List (List UInt8)) :
    let first := (reply backend line transformer).value
    (replies backend (line :: rest) transformer).value =
      (first.1 :: (replies backend rest first.2).value.1, (replies backend rest first.2).value.2) :=
  Action.value_mapM_cons _ _ _ _

section Lines

variable {line : List UInt8}

theorem reply_request {filename contents : String} (request : IsRequest line filename contents) :
    let transformed := (Transformer.transform backend filename contents transformer).value
    (reply backend line transformer).value = (some transformed.1, transformed.2) := by
  rw [reply, ofBytes_eq_request_iff.mpr request]
  rfl

theorem reply_other (other : ∀ filename contents, ¬ IsRequest line filename contents) :
    (reply backend line transformer).value = (none, transformer) := by
  rw [reply]
  cases classified : Line.ofBytes line with
  | request filename contents =>
      exact absurd (ofBytes_eq_request_iff.mp classified) (other filename contents)
  | notText fault => rfl
  | blank => rfl
  | ignored text => rfl
  | unreadable error => rfl

theorem replied_reply : Replied line (reply backend line transformer).value.1 := by
  rcases request_or_other line with ⟨filename, contents, request⟩ | other
  · rw [reply_request backend transformer request]
    exact .answered _ request
  · rw [reply_other backend transformer other]
    exact .unanswered other

/-- Replying to an invisible line leaves the transformer alone. -/
theorem reply_invisible (invisible : Invisible line) :
    (reply backend line transformer).value.2 = transformer := by
  rcases request_or_other line with ⟨filename, contents, request⟩ | other
  · have foreign := unitName?_eq_none_iff.mpr (invisible filename contents request)
    rw [reply_request backend transformer request, Transformer.transform, foreign]
    rfl
  · rw [reply_other backend transformer other]

end Lines

theorem replied_replies (lines : List (List UInt8)) :
    List.Forall₂ Replied lines (replies backend lines transformer).value.1 := by
  induction lines generalizing transformer with
  | nil => exact .nil
  | cons line lines ih =>
      rw [replies_cons]
      exact .cons (replied_reply backend transformer) (ih _)

/-- The answers to requests are the replies to their lines, less those that are nothing. -/
theorem transformAll_eq_replies {lines : List (List UInt8)} {requests : List (String × String)}
    (selected : Requests lines requests) :
    let replied := (replies backend lines transformer).value
    (transformAll backend requests transformer).value = (replied.1.reduceOption, replied.2) := by
  dsimp only
  induction selected generalizing transformer with
  | nothing => rfl
  | kept request others ih =>
      rw [transformAll_cons, replies_cons, reply_request backend transformer request, ih]
      rfl
  | left other others ih =>
      rw [replies_cons, reply_other backend transformer other, ih]
      rfl

/-- Deleting invisible lines deletes their replies. -/
theorem replies_picked {lines : List (List UInt8)} {kept : Nat → Bool}
    (unseen : ∀ place line, lines[place]? = some line → kept place = false → Invisible line) :
    let replied := (replies backend lines transformer).value
    (replies backend (picked kept lines) transformer).value =
      (picked kept replied.1, replied.2) := by
  dsimp only
  induction lines generalizing transformer kept with
  | nil => rfl
  | cons line lines ih =>
      have later : ∀ place line, lines[place]? = some line → kept (place + 1) = false →
          Invisible line := by
        intro place other found
        exact unseen (place + 1) other found
      rw [replies_cons, picked]
      dsimp only
      rw [picked]
      cases keeping : kept 0 with
      | true =>
          rw [if_pos rfl, if_pos rfl, replies_cons, ih _ later]
      | false =>
          have invisible := unseen 0 line rfl keeping
          rw [if_neg Bool.false_ne_true, if_neg Bool.false_ne_true,
            reply_invisible backend transformer invisible, ih _ later]

/-- What a session sends that gives some replies. -/
def repliesSent (replies : List (Option String)) : List UInt8 :=
  transcript (.ready :: replies.reduceOption.map .transformResponse)

/-- A session whose lines are cut out of its input, by the replies to them. -/
theorem run_replies {input : List UInt8} {lines : List (List UInt8)} (cut : Cut input lines) :
    let replied := (replies backend lines transformer).value
    ((run backend ⟨input, none⟩).run ⟨transformer, .new none none⟩).value =
      (.ok replied.1.reduceOption.length,
        unlimited replied.2 (repliesSent replied.1) (replied.1.reduceOption.length + 1)) := by
  obtain ⟨requests, selected⟩ := requests_of_lines lines
  have answered := transformAll_eq_replies backend transformer selected
  have count := transformAll_length backend transformer requests
  dsimp only at answered ⊢
  rw [answered] at count
  rw [run_unlimited backend transformer cut selected, answered, count]
  rfl

/-- A transformer whose backend keeps a record of its calls, empty so far. -/
def recording : Transformer (σ × List Call) :=
  ⟨transformer.compiler.withLog [], transformer.flags, transformer.logDeclarations⟩

/-- Lines that do not reach the compiler can be deleted.  The replies to them are deleted from the
output and from the count of requests, and nothing else changes: not the other replies or their
order, not the calls of the backend, and not the state in which the transformer ends. -/
theorem run_picked {input : List UInt8} {lines : List (List UInt8)} {kept : Nat → Bool}
    (cut : Cut input lines)
    (unseen : ∀ place line, lines[place]? = some line → kept place = false → Invisible line) :
    let rest := (picked kept lines).flatten
    let whole := ((run backend ⟨input, none⟩).run ⟨transformer, .new none none⟩).value
    let less := ((run backend ⟨rest, none⟩).run ⟨transformer, .new none none⟩).value
    let calls (input : List UInt8) :=
      ((run backend.recorded ⟨input, none⟩).run
        ⟨recording transformer, .new none none⟩).value.2.transformer.compiler.backend.2
    (∃ replies, List.Forall₂ Replied lines replies ∧
      whole.1 = .ok replies.reduceOption.length ∧ whole.2.sink.sent = repliesSent replies ∧
      less.1 = .ok (picked kept replies).reduceOption.length ∧
      less.2.sink.sent = repliesSent (picked kept replies)) ∧
    less.2.transformer = whole.2.transformer ∧ calls rest = calls input := by
  have thinner := cut.picked kept
  dsimp only
  rw [run_replies backend transformer cut, run_replies backend transformer thinner,
    replies_picked backend transformer unseen, run_replies _ _ cut, run_replies _ _ thinner,
    replies_picked _ _ unseen]
  exact ⟨⟨_, replied_replies backend transformer lines, rfl, rfl, rfl, rfl⟩, rfl, rfl⟩

/-- A blank line, a request for a file of another kind, and a request for a source file. -/
def sampleLines : List (List UInt8) :=
  [[lineEnd], requestLine "a.cmajor" "graph a", requestLine "b.dsp" "process = _;"]

/-- A transformer whose backend knows one unit. -/
def sampleTransformer : Transformer Script :=
  .new (.new (.new [.succeed (some "graph b") (some "\x7b\x7d")] "2.70.3") [])

theorem cut_sampleLines : Cut sampleLines.flatten sampleLines := by
  simp only [sampleLines, List.flatten_cons, List.flatten_nil]
  exact .blank (.requestLine _ _ (.requestLine _ _ .nothing))

theorem invisible_sampleLines (place : Nat) (line : List UInt8)
    (found : sampleLines[place]? = some line) (deleted : (place == 2) = false) :
    Invisible line := by
  rcases place with _ | _ | _ | place
  · obtain rfl : [lineEnd] = line := Option.some.inj found
    intro filename contents request
    exact absurd request (not_isRequest_blank filename contents)
  · obtain rfl : requestLine "a.cmajor" "graph a" = line := Option.some.inj found
    intro filename contents request
    rw [← (isRequest_requestLine "a.cmajor" "graph a").filename_eq request]
    decide
  · cases deleted
  · cases found

theorem replied_sampleLines {replies : List (Option String)}
    (replied : List.Forall₂ Replied sampleLines replies) :
    ∃ foreign answer, replies = [none, some foreign, some answer] := by
  obtain ⟨first, _, blank, later, rfl⟩ := List.forall₂_cons_left_iff.mp replied
  obtain ⟨second, _, request, last, rfl⟩ := List.forall₂_cons_left_iff.mp later
  obtain ⟨third, _, another, nothing, rfl⟩ := List.forall₂_cons_left_iff.mp last
  obtain rfl := List.forall₂_nil_left_iff.mp nothing
  obtain rfl := blank.eq_none not_isRequest_blank
  obtain ⟨foreign, rfl⟩ := request.eq_some (isRequest_requestLine _ _)
  obtain ⟨answer, rfl⟩ := another.eq_some (isRequest_requestLine _ _)
  exact ⟨foreign, answer, rfl⟩

/-- Of three lines the last is left, and one of two requests. -/
theorem run_picked_sample :
    Cut sampleLines.flatten sampleLines ∧
      (∀ place line, sampleLines[place]? = some line → (place == 2) = false → Invisible line) ∧
      ((run Script.backend ⟨sampleLines.flatten, none⟩).run
        ⟨sampleTransformer, .new none none⟩).value.1 = .ok 2 ∧
      ((run Script.backend ⟨(picked (· == 2) sampleLines).flatten, none⟩).run
        ⟨sampleTransformer, .new none none⟩).value.1 = .ok 1 := by
  obtain ⟨⟨replies, replied, count, -, less, -⟩, -, -⟩ :=
    run_picked Script.backend sampleTransformer cut_sampleLines invisible_sampleLines
  obtain ⟨foreign, answer, rfl⟩ := replied_sampleLines replied
  exact ⟨cut_sampleLines, invisible_sampleLines, count, less⟩

end Session
end Host
end DspBridge
