import DspBridge.Proofs.Descriptor.Checking
import DspBridge.Proofs.Descriptor.Layout
import DspBridge.Proofs.Number.Spelling

/-!
# Quantities of a descriptor

What a number of a range can be in a descriptor that has been read from a text.  It has been read from
a JSON value, and however the value was written, the quantity is spelled like a numeral.
-/

namespace DspBridge.Descriptor

open Number (Spelled)

/-- A quantity is spelled like a numeral, whether a number of the document or one in quotes. -/
theorem Quantity.ofJson?_spelled {value : Json} {quantity : Quantity}
    (read : Quantity.ofJson? value = some quantity) : Spelled quantity.text.toList := by
  cases value with
  | number number =>
      cases read
      exact Number.text_spelled number
  | string text =>
      rw [Quantity.ofJson?] at read
      split at read
      next finite =>
        cases read
        obtain ⟨double, found⟩ := Option.isSome_iff_exists.mp finite
        obtain ⟨numeral, parsed, _⟩ :=
          Option.map_eq_some_iff.mp (Option.filter_eq_some_iff.mp found).1
        exact Number.ofChars?_spelled parsed
      next => cases read
  | null | bool | array | object => cases read

/-- The numbers of a range have been read from values of a document. -/
def Range.IsRead (range : Range) : Prop :=
  ∀ key, ∃ value, Quantity.ofJson? value = some (range.quantity key)

theorem Range.IsRead.spelled {range : Range} (isRead : range.IsRead) (key : RangeKey) :
    Spelled (range.quantity key).text.toList := by
  obtain ⟨value, read⟩ := isRead key
  exact Quantity.ofJson?_spelled read

/-- The numbers of a control have been read, if it has any. -/
def Control.IsRead (control : Control) : Prop :=
  ∀ limits ∈ control.limits, limits.IsRead

/-- What drafts become holds only numbers that have been read. -/
theorem isRead_of_becomes : (nodes : List Node) → {drafts : List Draft} →
    List.Forall₂ Draft.Becomes drafts nodes → ∀ control ∈ Node.controlsOf nodes, control.IsRead
  | [], _, _ => by simp
  | .group kind label items :: rest, _, becomes => by
      obtain ⟨draft, drafts, single, others, _⟩ := List.forall₂_cons_right_iff.mp becomes
      rw [Node.controlsOf_group, List.forall_mem_append]
      cases single with
      | group _ _ inner => exact ⟨isRead_of_becomes items inner, isRead_of_becomes rest others⟩
  | .range kind label limits :: rest, _, becomes => by
      obtain ⟨draft, drafts, single, others, _⟩ := List.forall₂_cons_right_iff.mp becomes
      rw [Node.controlsOf_range, List.forall_mem_cons]
      refine ⟨?_, isRead_of_becomes rest others⟩
      cases single with
      | range _ read =>
          intro range held key
          cases held
          obtain ⟨value, _, found⟩ := Option.bind_eq_some_iff.mp (read key)
          exact ⟨value, found⟩
  | .switch kind label :: rest, _, becomes => by
      obtain ⟨draft, drafts, single, others, _⟩ := List.forall₂_cons_right_iff.mp becomes
      rw [Node.controlsOf_switch, List.forall_mem_cons]
      exact ⟨fun _ held => (nomatch held), isRead_of_becomes rest others⟩
  | .other kind :: rest, _, becomes => by
      obtain ⟨draft, drafts, single, others, _⟩ := List.forall₂_cons_right_iff.mp becomes
      rw [Node.controlsOf_other]
      exact isRead_of_becomes rest others

/-- The controls of a descriptor that has been read from a text. -/
theorem isRead_of_parse {text : String} {descriptor : Descriptor}
    (parsed : Descriptor.parse text = .ok descriptor) :
    ∀ control ∈ Node.controlsOf descriptor.nodes, control.IsRead := by
  rw [Descriptor.parse] at parsed
  split at parsed
  next => cases parsed
  next outline _ =>
    have verdict := outline.verdict_check
    rw [parsed] at verdict
    cases verdict with
    | good _ _ _ becomes => exact isRead_of_becomes _ becomes

end DspBridge.Descriptor
