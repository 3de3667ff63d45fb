import DspBridge.Host.Session
import DspBridge.Proofs.Text.Utf8

/-!
# Lines of a byte sequence

How bytes are cut into lines, said without the function that cuts them: behind each end of line,
and once more behind what is left.  `Source.lines` cuts the input of a host this way, and a line is
a request exactly when it is the encoding of a text that is one.
-/

namespace DspBridge.Host

/-- Bytes and the lines that they consist of.  Only the last line can lack its end, and then it is
not empty. -/
inductive Cut : List UInt8 → List (List UInt8) → Prop where
  | nothing : Cut [] []
  | unfinished {tail : List UInt8} : tail ≠ [] → lineEnd ∉ tail → Cut tail [tail]
  | line {body rest : List UInt8} {lines : List (List UInt8)} :
      lineEnd ∉ body → Cut rest lines →
      Cut (body ++ lineEnd :: rest) ((body ++ [lineEnd]) :: lines)

/-- The bytes of a text with the end of a line behind it. -/
theorem bytesOf_ended (text : String) :
    Text.bytesOf (text ++ "\n") = Text.bytesOf text ++ [lineEnd] := by
  rw [Text.bytesOf, String.toList_append, List.flatMap_append]
  rfl

theorem cutLines_unfinished {tail : List UInt8} (unended : lineEnd ∉ tail) :
    cutLines tail = ([], tail) := by
  induction tail with
  | nil => rfl
  | cons byte rest ih =>
    rw [List.mem_cons, not_or] at unended
    obtain ⟨notEnd, restUnended⟩ := unended
    simp [cutLines, ih restUnended, Ne.symm notEnd]

theorem cutLines_line {body : List UInt8} (unended : lineEnd ∉ body) (rest : List UInt8) :
    cutLines (body ++ lineEnd :: rest) =
      ((body ++ [lineEnd]) :: (cutLines rest).1, (cutLines rest).2) := by
  induction body with
  | nil => simp [cutLines]
  | cons byte body ih =>
    rw [List.mem_cons, not_or] at unended
    obtain ⟨notEnd, bodyUnended⟩ := unended
    simp [cutLines, ih bodyUnended, Ne.symm notEnd]

theorem lines_unfinished {tail : List UInt8} (present : tail ≠ []) (unended : lineEnd ∉ tail) :
    Source.lines ⟨tail, none⟩ = [tail] := by
  simp [Source.lines, cutLines_unfinished unended, present]

/-- The first line of an input ends where an end of line comes first. -/
theorem lines_line {body : List UInt8} (unended : lineEnd ∉ body) (rest : List UInt8)
    (failure : Option String) :
    Source.lines ⟨body ++ lineEnd :: rest, failure⟩ =
      (body ++ [lineEnd]) :: Source.lines ⟨rest, failure⟩ := by
  simp only [Source.lines, cutLines_line unended]
  split <;> rfl

/-- An input that ends is cut into its lines. -/
theorem cut_lines (input : List UInt8) : Cut input (Source.lines ⟨input, none⟩) := by
  by_cases ended : lineEnd ∈ input
  · obtain ⟨body, rest, split, unended⟩ := List.eq_append_cons_of_mem ended
    subst split
    rw [lines_line unended]
    exact .line unended (cut_lines rest)
  · cases input with
    | nil => exact .nothing
    | cons byte rest =>
      rw [lines_unfinished (List.cons_ne_nil _ _) ended]
      exact .unfinished (List.cons_ne_nil _ _) ended
termination_by input.length
decreasing_by
  rw [split, List.length_append, List.length_cons]
  omega

/-- There is one way to cut bytes into lines. -/
theorem cut_iff {input : List UInt8} {lines : List (List UInt8)} :
    Cut input lines ↔ lines = Source.lines ⟨input, none⟩ := by
  constructor
  · intro cut
    induction cut with
    | nothing => rfl
    | unfinished present unended => exact (lines_unfinished present unended).symm
    | line unended cut ih => rw [lines_line unended, ih]
  · rintro rfl
    exact cut_lines input

/-- Lines that all have their end are cut out of what they make up together. -/
theorem cut_flatten {bodies : List (List UInt8)} (unended : ∀ body ∈ bodies, lineEnd ∉ body) :
    Cut (bodies.map (· ++ [lineEnd])).flatten (bodies.map (· ++ [lineEnd])) := by
  induction bodies with
  | nil => exact .nothing
  | cons body rest ih =>
    obtain ⟨bodyUnended, restUnended⟩ := List.forall_mem_cons.mp unended
    rw [List.map_cons, List.flatten_cons, List.append_assoc]
    exact .line bodyUnended (ih restUnended)

/-- Bytes that end with an end of line have as many lines as ends of lines. -/
theorem Cut.length_eq_count {input : List UInt8} {lines : List (List UInt8)}
    (cut : Cut input lines) (ended : ∀ byte ∈ input.getLast?, byte = lineEnd) :
    lines.length = input.count lineEnd := by
  induction cut with
  | nothing => rfl
  | unfinished present unended =>
      have last := ended _ (List.getLast?_eq_some_getLast present)
      exact absurd (List.getLast_mem present) (last ▸ unended)
  | @line body rest lines unended cut ih =>
      have bodyCount : body.count lineEnd = 0 := List.count_eq_zero.mpr unended
      have restEnded : ∀ byte ∈ rest.getLast?, byte = lineEnd := by
        intro byte last
        apply ended
        rw [Option.mem_def] at last
        simp [List.getLast?_append, List.getLast?_cons, last]
      rw [List.length_cons, ih restEnded, List.count_append, List.count_cons_self, bodyCount,
        Nat.zero_add]

/-! ## Lines that are requests -/

/-- A line that is a request: the bytes of a text that is not blank and that is read as one. -/
def IsRequest (line : List UInt8) (filename contents : String) : Prop :=
  ∃ text, Text.bytesOf text = line ∧ Text.trim text ≠ "" ∧
    Inbound.parse (Text.trim text) = .ok (.transformRequest filename contents)

theorem request_or_other (line : List UInt8) :
    (∃ filename contents, IsRequest line filename contents) ∨
      ∀ filename contents, ¬ IsRequest line filename contents := by
  simpa only [not_exists] using Classical.em (∃ filename contents, IsRequest line filename contents)

/-- The requests of some lines, in order; every other line is left out. -/
inductive Requests : List (List UInt8) → List (String × String) → Prop where
  | nothing : Requests [] []
  | kept {line : List UInt8} {filename contents : String} {lines : List (List UInt8)}
      {requests : List (String × String)} :
      IsRequest line filename contents → Requests lines requests →
      Requests (line :: lines) ((filename, contents) :: requests)
  | left {line : List UInt8} {lines : List (List UInt8)} {requests : List (String × String)} :
      (∀ filename contents, ¬IsRequest line filename contents) → Requests lines requests →
      Requests (line :: lines) requests

theorem ofBytes_eq_request_iff {line : List UInt8} {filename contents : String} :
    Line.ofBytes line = .request filename contents ↔ IsRequest line filename contents := by
  constructor
  · intro classified
    rw [Line.ofBytes] at classified
    split at classified
    next => cases classified
    next text decoded =>
      dsimp only at classified
      split at classified
      next => cases classified
      next present =>
        split at classified
        next found contents parsed =>
          cases classified
          refine ⟨text, Text.Utf8.decode_eq_ok_iff.mp decoded, ?_, parsed⟩
          rwa [ne_eq, ← String.isEmpty_iff]
        next => cases classified
        next => cases classified
  · rintro ⟨text, rfl, present, parsed⟩
    have notBlank : (Text.trim text).isEmpty = false := by
      rw [Bool.eq_false_iff, ne_eq, String.isEmpty_iff]
      exact present
    simp [Line.ofBytes, notBlank, parsed]

end DspBridge.Host
