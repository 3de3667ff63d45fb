import DspBridge.Proofs.CommandLine.Agreement
import DspBridge.Proofs.Descriptor.Labels
import Mathlib

/-!
# Printed declarations

The command that prints the declarations of a descriptor puts each on a line of its own, unless its
label has several.  What a declaration needs to be read as it was meant is a label that is on one line
and leaves no quote open, and nothing sees to it that labels are.
-/

namespace DspBridge.CommandLine

open Descriptor (Closed Control Node Unbroken)
open Host (Cut lineEnd)

/-! ## What is printed -/

/-- The bytes of printed lines. -/
def printed (lines : List String) : List UInt8 :=
  lines.flatMap fun line => Text.bytesOf (line ++ "\n")

theorem printed_cons (line : String) (rest : List String) :
    printed (line :: rest) = Text.bytesOf (line ++ "\n") ++ printed rest := rfl

theorem printed_ended (lines : List String) : ∀ byte ∈ (printed lines).getLast?, byte = lineEnd := by
  induction lines with
  | nil => exact fun _ last => nomatch last
  | cons line rest ih =>
      intro byte last
      rw [printed_cons, Host.bytesOf_ended, List.getLast?_append, Option.mem_def,
        Option.or_eq_some_iff] at last
      cases last with
      | inl last => exact ih byte last
      | inr last =>
          rw [List.getLast?_concat] at last
          exact (Option.some.inj last.2).symm

theorem count_printed (lines : List String) :
    (printed lines).count lineEnd =
      lines.length + (lines.map fun line => line.toList.count '\n').sum := by
  induction lines with
  | nil => rfl
  | cons line rest ih =>
      have single : (Text.bytesOf (line ++ "\n")).count lineEnd = line.toList.count '\n' + 1 := by
        rw [Host.bytesOf_ended, List.count_append, List.count_singleton_self]
        exact congrArg (· + 1) (Text.Utf8.count_bytesOf line)
      rw [printed_cons, List.count_append, single, ih, List.map_cons, List.sum_cons,
        List.length_cons]
      omega

section Command

variable {surroundings : Surroundings} {settings : Settings} {invocation : Invocation}
  {file text : String} {descriptor : Descriptor}

theorem putLine_value (line : String) (trail : Trail) :
    ((Deed.putLine line).run trail).value =
      (.ok (), { trail with output := trail.output ++ Text.bytesOf (line ++ "\n") }) := rfl

theorem putLines_value (lines : List String) (trail : Trail) :
    ((lines.forM Deed.putLine).run trail).value =
      (.ok (), { trail with output := trail.output ++ printed lines }) := by
  induction lines generalizing trail with
  | nil => rw [printed, List.flatMap_nil, List.append_nil]; rfl
  | cons line rest ih =>
      rw [List.forM_eq_forM, List.forM_cons, value_bind_ok _ (putLine_value line trail),
        ← List.forM_eq_forM, ih, printed_cons, List.append_assoc]

theorem perform_declarations (task : invocation.task = .declarations file)
    (settled : effectiveSettings surroundings invocation = .ok settings) :
    perform surroundings invocation = printDeclarations surroundings file := by
  rw [perform, ofExcept_bind_ok _ settled, task]

/-- The command prints the declarations, each with an end of line behind it. -/
theorem run_declarations (task : invocation.task = .declarations file)
    (settled : effectiveSettings surroundings invocation = .ok settings)
    (held : surroundings.readText file = .ok text)
    (parsed : Descriptor.parse text = .ok descriptor) :
    (run surroundings invocation).Shows 0 (printed descriptor.declarations) none := by
  have lines : declarationsOf text = .ok descriptor.declarations := by
    rw [declarationsOf, parsed]
    rfl
  apply shows_of_ok
  rw [perform_declarations task settled, printDeclarations, ofExcept_bind_ok _ held,
    ofExcept_bind_ok _ lines, putLines_value]
  rfl

end Command

/-! ## Declarations that name their controls -/

/-- The lines of declarations are one for each and two more for each end of line in a label, which
stands in the identifier as well. -/
theorem count_declarations {text : String} {descriptor : Descriptor}
    (parsed : Descriptor.parse text = .ok descriptor) :
    (printed descriptor.declarations).count lineEnd =
      descriptor.declarations.length +
        2 * ((Node.controlsOf descriptor.nodes).map fun control =>
          control.label.toList.count '\n').sum := by
  have single : ∀ control ∈ Node.controlsOf descriptor.nodes,
      control.declaration.toList.count '\n' = 2 * control.label.toList.count '\n' := by
    intro control member
    exact Descriptor.countP_declaration Descriptor.newline_control
      (Descriptor.isRead_of_parse parsed control member)
  have counts :
      ((Node.controlsOf descriptor.nodes).map fun control =>
        control.declaration.toList.count '\n') =
      (Node.controlsOf descriptor.nodes).map fun control => 2 * control.label.toList.count '\n' :=
    List.map_congr_left single
  rw [count_printed, Descriptor.declarations_eq, List.map_map, Function.comp_def, counts,
    List.sum_map_mul_left]

/-- Each declaration of a descriptor names its control if the label of the control is on one line and
leaves no quote open, and only then.  The command that prints the declarations prints a line for each
and two more for each end of line in a label, so that there are as many lines as declarations only if
labels have none. -/
theorem declarations_name_controls {text : String} {descriptor : Descriptor}
    (parsed : Descriptor.parse text = .ok descriptor) :
    (∀ node ∈ descriptor.leaves, ∀ control, node.control? = some control →
      ∃ line, node.declaration? = some line ∧
        (control.Names line ↔ Unbroken control.label.toList ∧ Closed control.label.toList)) ∧
    (∀ surroundings invocation settings file, invocation.task = .declarations file →
      effectiveSettings surroundings invocation = .ok settings →
      surroundings.readText file = .ok text →
      ∃ output lines, (run surroundings invocation).Shows 0 output none ∧ Cut output lines ∧
        lines.length = descriptor.declarations.length +
          2 * ((Node.controlsOf descriptor.nodes).map fun control =>
            control.label.toList.count '\n').sum ∧
        (lines.length = descriptor.declarations.length ↔
          ∀ control ∈ Node.controlsOf descriptor.nodes, '\n' ∉ control.label.toList)) := by
  constructor
  · intro node leaf control given
    have member : control ∈ Node.controlsOf descriptor.nodes :=
      List.mem_filterMap.mpr ⟨node, leaf, given⟩
    refine ⟨control.declaration, ?_,
      Descriptor.names_declaration_iff (Descriptor.isRead_of_parse parsed control member)⟩
    rw [Descriptor.Node.declaration?_eq, given]
    rfl
  · intro surroundings invocation settings file task settled held
    have cut := Host.cut_lines (printed descriptor.declarations)
    have count := (cut.length_eq_count (printed_ended _)).trans (count_declarations parsed)
    refine ⟨_, _, run_declarations task settled held parsed, cut, count, ?_⟩
    rw [count, Nat.add_eq_left, Nat.mul_eq_zero, or_iff_right (by decide), List.sum_eq_zero_iff,
      List.forall_mem_map]
    simp only [List.count_eq_zero]

/-- Surroundings in which every path leads to a text. -/
def holding (text : String) : Surroundings :=
  { sampleSurroundings [] [] with readText := fun _ => .ok text }

/-- The text of a descriptor with two buttons, the second with a label of two lines. -/
def brokenText : String :=
  "\x7b\"name\":\"n\",\"ui\":[\x7b\"type\":\"button\",\"label\":\"Go\"\x7d," ++
    "\x7b\"type\":\"button\",\"label\":\"a\\nb\"\x7d]\x7d"

/-- The descriptor with the two buttons. -/
def brokenDescriptor : Descriptor := ⟨"n", [.switch .button "Go", .switch .button "a\nb"]⟩

set_option maxRecDepth 20000 in
theorem parse_brokenText : Descriptor.parse brokenText = .ok brokenDescriptor := by
  cbv

theorem leaves_brokenDescriptor : brokenDescriptor.leaves = brokenDescriptor.nodes := by
  simp [brokenDescriptor, Descriptor.leaves, Node.leavesOf, Node.leaves]

/-- The first button is named by its declaration.  The label of the other has two lines, so that the
two declarations are printed on four. -/
theorem declarations_name_broken :
    Descriptor.parse brokenText = .ok brokenDescriptor ∧
      (∃ line, (Node.switch .button "Go").declaration? = some line ∧
        Control.Names ⟨"Go", none⟩ line) ∧
      ∃ output lines,
        (run (holding brokenText) ⟨none, none, [], .declarations "n.json"⟩).Shows 0 output none ∧
          Cut output lines ∧ lines.length = 4 := by
  obtain ⟨named, shown⟩ := declarations_name_controls parse_brokenText
  rw [leaves_brokenDescriptor] at named
  obtain ⟨line, declared, names⟩ := named _ (.head _) ⟨"Go", none⟩ rfl
  obtain ⟨output, lines, shows, cut, count, -⟩ :=
    shown (holding brokenText) ⟨none, none, [], .declarations "n.json"⟩ .standard "n.json"
      rfl rfl rfl
  have unbroken : Unbroken "Go".toList := List.countP_eq_zero.mp rfl
  have closed : Closed "Go".toList :=
    .plain (by decide) (by decide) (.plain (by decide) (by decide) .nil)
  have total : lines.length = 4 := by
    rw [count, Descriptor.declarations_eq]
    simp [brokenDescriptor]
  exact ⟨parse_brokenText, ⟨line, declared, names.mpr ⟨unbroken, closed⟩⟩,
    output, lines, shows, cut, total⟩

/-- The text of a descriptor with a button whose label has a quote. -/
def quotedText : String :=
  "\x7b\"name\":\"n\",\"ui\":[\x7b\"type\":\"button\",\"label\":\"a\\\"b\"\x7d]\x7d"

set_option maxRecDepth 20000 in
theorem parse_quotedText :
    Descriptor.parse quotedText = .ok ⟨"n", [.switch .button "a\"b"]⟩ := by
  cbv

/-- The declaration of the button does not name it: the label closes the literal. -/
theorem not_declarations_name :
    ¬ ∀ text descriptor, Descriptor.parse text = .ok descriptor →
      ∀ node ∈ descriptor.leaves, ∀ control, node.control? = some control →
        ∃ line, node.declaration? = some line ∧ control.Names line := by
  intro all
  have leaf : Node.switch .button "a\"b" ∈
      Descriptor.leaves ⟨"n", [.switch .button "a\"b"]⟩ := by
    simp [Descriptor.leaves, Node.leavesOf, Node.leaves]
  obtain ⟨line, declared, names⟩ := all _ _ parse_quotedText _ leaf ⟨"a\"b", none⟩ rfl
  cases declared
  have closed : Closed ['a', '"', 'b'] :=
    (Descriptor.literal_declaration_iff ⟨"a\"b", none⟩).mp names.quoted
  cases closed with
  | plain _ _ rest =>
      cases rest with
      | plain notQuote => exact notQuote rfl

end DspBridge.CommandLine
