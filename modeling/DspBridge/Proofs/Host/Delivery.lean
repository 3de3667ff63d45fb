import DspBridge.Host.Channel
import Mathlib.Data.List.Basic

/-!
# Delivering lines

Lines are handed to a channel one after another, up to the first that it does not take.  What comes
of it is worked out for each kind of channel: those without limits, those that take so many bytes,
and those that can be flushed so many times.
-/

namespace DspBridge.Host

namespace Sink

/-- Write a line and flush it. -/
def push (line : List UInt8) (sink : Sink) : Except String Unit × Sink :=
  match sink.write line with
  | (.error failure, sink) => (.error failure, sink)
  | (.ok (), sink) => sink.flush

/-- What comes of handing lines to a channel. -/
structure Delivery where
  /-- How many lines were written and flushed. -/
  delivered : Nat
  result : Except String Unit
  sink : Sink

/-- Push lines, up to the first that fails. -/
def deliver : List (List UInt8) → Sink → Delivery
  | [], sink => ⟨0, .ok (), sink⟩
  | line :: lines, sink =>
      match sink.push line with
      | (.error failure, sink) => ⟨0, .error failure, sink⟩
      | (.ok (), sink) =>
          let rest := deliver lines sink
          ⟨rest.delivered + 1, rest.result, rest.sink⟩

variable {line : List UInt8} {sink next : Sink}

theorem deliver_ok (pushed : sink.push line = (.ok (), next)) (lines : List (List UInt8)) :
    deliver (line :: lines) sink =
      ⟨(deliver lines next).delivered + 1, (deliver lines next).result,
        (deliver lines next).sink⟩ := by
  rw [deliver, pushed]

theorem deliver_error {failure : String} (failed : sink.push line = (.error failure, next))
    (lines : List (List UInt8)) :
    deliver (line :: lines) sink = ⟨0, .error failure, next⟩ := by
  rw [deliver, failed]

/-! ## Channels of each kind -/

theorem push_unlimited (line sent : List UInt8) (flushes : Nat) :
    push line ⟨sent, flushes, none, none⟩ = (.ok (), ⟨sent ++ line, flushes + 1, none, none⟩) := rfl

/-- A channel without limits takes everything. -/
theorem deliver_unlimited (lines : List (List UInt8)) (sent : List UInt8) (flushes : Nat) :
    deliver lines ⟨sent, flushes, none, none⟩ =
      ⟨lines.length, .ok (), ⟨sent ++ lines.flatten, flushes + lines.length, none, none⟩⟩ := by
  induction lines generalizing sent flushes with
  | nil => rw [deliver, List.flatten_nil, List.append_nil]; rfl
  | cons line lines ih =>
      rw [deliver_ok (push_unlimited line sent flushes), ih]
      simp only [List.flatten_cons, List.append_assoc, List.length_cons, Nat.add_assoc,
        Nat.add_comm 1]

section Bytes

variable {limit : Limit} {sent : List UInt8}

theorem push_fits (fits : (sent ++ line).length ≤ limit.count) (flushes : Nat) :
    push line ⟨sent, flushes, some limit, none⟩ =
      (.ok (), ⟨sent ++ line, flushes + 1, some limit, none⟩) := by
  rw [List.length_append] at fits
  have room : line.length ≤ limit.count - sent.length := by omega
  simp only [push, write, room, if_true, List.take_of_length_le room, flush]

theorem push_overflow (long : limit.count < (sent ++ line).length)
    (room : sent.length ≤ limit.count) (flushes : Nat) :
    push line ⟨sent, flushes, some limit, none⟩ =
      (.error limit.failure, ⟨(sent ++ line).take limit.count, flushes, some limit, none⟩) := by
  rw [List.length_append] at long
  have tooLong : ¬ line.length ≤ limit.count - sent.length := by omega
  simp only [push, write, tooLong, if_false, List.take_append, List.take_of_length_le room]

/-- A channel that has room for all the lines takes them. -/
theorem deliver_within (lines : List (List UInt8)) (flushes : Nat)
    (fits : (sent ++ lines.flatten).length ≤ limit.count) :
    deliver lines ⟨sent, flushes, some limit, none⟩ =
      ⟨lines.length, .ok (),
        ⟨sent ++ lines.flatten, flushes + lines.length, some limit, none⟩⟩ := by
  induction lines generalizing sent flushes with
  | nil => rw [deliver, List.flatten_nil, List.append_nil]; rfl
  | cons line lines ih =>
      rw [List.flatten_cons, ← List.append_assoc] at fits ⊢
      have first : (sent ++ line).length ≤ limit.count :=
        Nat.le_trans (List.prefix_append _ _).length_le fits
      rw [deliver_ok (push_fits first flushes), ih _ fits]
      simp only [List.length_cons, Nat.add_assoc, Nat.add_comm 1]

/-- Any other channel that takes so many bytes gets the first ones of what is handed to it, and
fails at the line that reaches beyond them. -/
theorem deliver_beyond (lines : List (List UInt8)) (flushes : Nat)
    (room : sent.length ≤ limit.count) (long : limit.count < (sent ++ lines.flatten).length) :
    let delivery := deliver lines ⟨sent, flushes, some limit, none⟩
    delivery.result = .error limit.failure ∧
      delivery.sink.sent = (sent ++ lines.flatten).take limit.count ∧
      (sent ++ (lines.take delivery.delivered).flatten).length ≤ limit.count ∧
      limit.count < (sent ++ (lines.take (delivery.delivered + 1)).flatten).length := by
  dsimp only
  induction lines generalizing sent flushes with
  | nil =>
      rw [List.flatten_nil, List.append_nil] at long
      exact absurd room (Nat.not_le_of_lt long)
  | cons line lines ih =>
      rw [List.flatten_cons, ← List.append_assoc] at long ⊢
      by_cases fits : (sent ++ line).length ≤ limit.count
      · have rest := ih (flushes + 1) fits long
        rw [deliver_ok (push_fits fits flushes)]
        simp only [List.take_succ_cons, List.flatten_cons, ← List.append_assoc]
        exact rest
      · have overflow := Nat.lt_of_not_le fits
        rw [deliver_error (push_overflow overflow room flushes)]
        refine ⟨rfl, ?_, ?_, ?_⟩
        · exact (List.take_append_of_le_length (Nat.le_of_lt overflow)).symm
        · rw [List.take_zero, List.flatten_nil, List.append_nil]
          exact room
        · rw [List.take_succ_cons, List.take_zero, List.flatten_singleton]
          exact overflow

end Bytes

section Flushes

variable {limit : Limit} {flushes : Nat}

theorem push_flushed (left : flushes < limit.count) (line sent : List UInt8) :
    push line ⟨sent, flushes, none, some limit⟩ =
      (.ok (), ⟨sent ++ line, flushes + 1, none, some limit⟩) := by
  simp only [push, write, flush, left, if_true]

theorem push_unflushed (spent : ¬ flushes < limit.count) (line sent : List UInt8) :
    push line ⟨sent, flushes, none, some limit⟩ =
      (.error limit.failure, ⟨sent ++ line, flushes, none, some limit⟩) := by
  simp only [push, write, flush, spent, if_false]

/-- A channel that can be flushed after every line takes them all. -/
theorem deliver_flushed (lines : List (List UInt8)) (sent : List UInt8)
    (enough : flushes + lines.length ≤ limit.count) :
    deliver lines ⟨sent, flushes, none, some limit⟩ =
      ⟨lines.length, .ok (),
        ⟨sent ++ lines.flatten, flushes + lines.length, none, some limit⟩⟩ := by
  induction lines generalizing sent flushes with
  | nil => rw [deliver, List.flatten_nil, List.append_nil]; rfl
  | cons line lines ih =>
      rw [List.length_cons] at enough
      have left : flushes < limit.count := by omega
      have rest : flushes + 1 + lines.length ≤ limit.count := by omega
      rw [deliver_ok (push_flushed left line sent), ih _ rest]
      simp only [List.flatten_cons, List.append_assoc, List.length_cons, Nat.add_assoc,
        Nat.add_comm 1]

/-- Any other channel that can be flushed so many times gets one line more, in full. -/
theorem deliver_unflushed (lines : List (List UInt8)) (sent : List UInt8)
    (room : flushes ≤ limit.count) (short : limit.count < flushes + lines.length) :
    let delivery := deliver lines ⟨sent, flushes, none, some limit⟩
    delivery.result = .error limit.failure ∧ flushes + delivery.delivered = limit.count ∧
      delivery.sink.sent = sent ++ (lines.take (delivery.delivered + 1)).flatten := by
  dsimp only
  induction lines generalizing sent flushes with
  | nil => exact absurd room (Nat.not_le_of_lt short)
  | cons line lines ih =>
      rw [List.length_cons, ← Nat.add_assoc, Nat.add_right_comm] at short
      by_cases left : flushes < limit.count
      · obtain ⟨failed, count, taken⟩ := ih (sent ++ line) (Nat.succ_le_of_lt left) short
        rw [deliver_ok (push_flushed left line sent)]
        refine ⟨failed, ?_, ?_⟩
        · rw [← count]
          exact (Nat.succ_add_eq_add_succ _ _).symm
        · rw [List.take_succ_cons, List.flatten_cons, ← List.append_assoc]
          exact taken
      · rw [deliver_error (push_unflushed left line sent)]
        refine ⟨rfl, Nat.le_antisymm room (Nat.le_of_not_lt left), ?_⟩
        rw [List.take_succ_cons, List.take_zero, List.flatten_singleton]

end Flushes

end Sink

end DspBridge.Host
