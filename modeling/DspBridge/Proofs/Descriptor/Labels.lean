import DspBridge.Proofs.Descriptor.Quantities
import DspBridge.Proofs.Json.Texts
import Mathlib.Data.List.Basic

/-!
# Labels in declarations

A declaration quotes its label as it is.  Read back, the literal ends at the first quote that no
backslash takes with it, so it ends where the label ends exactly if the label leaves no quote open.
The control characters of a declaration are those of its label, which it holds twice: as it is, and
as an identifier.
-/

namespace DspBridge.Descriptor

open Json (Solid)
open Number (Spelled isNumeralChar)

/-! ## Literals -/

/-- What a literal holds behind its opening quote, and what follows its closing quote.  A backslash
takes the next character with it. -/
def closeLiteral : List Char → Option (List Char × List Char)
  | [] | ['\\'] => none
  | '"' :: rest => some ([], rest)
  | '\\' :: c :: rest => (closeLiteral rest).map fun found => ('\\' :: c :: found.1, found.2)
  | c :: rest => (closeLiteral rest).map fun found => (c :: found.1, found.2)

/-- A text whose quotes are all escaped, and whose backslashes all escape something. -/
inductive Closed : List Char → Prop where
  | nil : Closed []
  | plain {c : Char} {rest : List Char} : c ≠ '"' → c ≠ '\\' → Closed rest → Closed (c :: rest)
  | escaped {c : Char} {rest : List Char} : Closed rest → Closed ('\\' :: c :: rest)

theorem closeLiteral_plain {c : Char} (notQuote : c ≠ '"') (notEscape : c ≠ '\\')
    (rest : List Char) :
    closeLiteral (c :: rest) = (closeLiteral rest).map fun found => (c :: found.1, found.2) := by
  rw [closeLiteral.eq_def]
  split <;> simp_all

theorem Closed.closeLiteral_append {body : List Char} (closed : Closed body) (rest : List Char) :
    closeLiteral (body ++ '"' :: rest) = some (body, rest) := by
  induction closed with
  | nil => rfl
  | plain notQuote notEscape _ ih =>
      rw [List.cons_append, closeLiteral_plain notQuote notEscape, ih]
      rfl
  | escaped _ ih =>
      rw [List.cons_append, List.cons_append, closeLiteral, ih]
      rfl

theorem closed_of_closeLiteral {text body rest : List Char}
    (ends : closeLiteral text = some (body, rest)) : Closed body ∧ text = body ++ '"' :: rest := by
  fun_induction closeLiteral text generalizing body rest with
  | case1 => cases ends
  | case2 => cases ends
  | case3 tail =>
      cases ends
      exact ⟨.nil, rfl⟩
  | case4 c tail ih =>
      obtain ⟨found, inner, same⟩ := Option.map_eq_some_iff.mp ends
      cases same
      obtain ⟨closed, whole⟩ := ih inner
      exact ⟨.escaped closed, by rw [whole]; rfl⟩
  | case5 c tail notSingle notQuote notPair ih =>
      obtain ⟨found, inner, same⟩ := Option.map_eq_some_iff.mp ends
      cases same
      obtain ⟨closed, whole⟩ := ih inner
      have notEscape : c ≠ '\\' := by
        cases tail with
        | nil => exact fun escape => notSingle escape rfl
        | cons next tail => exact fun escape => notPair next tail escape rfl
      exact ⟨.plain (fun quote => notQuote quote) notEscape closed, by rw [whole]; rfl⟩

/-- A literal holds a text if the text is closed and a quote follows it. -/
theorem closeLiteral_eq_some_iff {text body rest : List Char} :
    closeLiteral text = some (body, rest) ↔ Closed body ∧ text = body ++ '"' :: rest := by
  constructor
  · exact closed_of_closeLiteral
  · rintro ⟨closed, rfl⟩
    exact closed.closeLiteral_append rest

/-! ## Where the literal begins -/

/-- What is left of a text behind the first `name: "` in it. -/
def afterName : List Char → Option (List Char)
  | [] => none
  | c :: rest =>
      if "name: \"".toList.isPrefixOf (c :: rest) then some ((c :: rest).drop 7) else afterName rest

theorem dropWhile_word {word : List Char} (noBlank : ' ' ∉ word) (rest : List Char) :
    (word ++ ' ' :: rest).dropWhile (· != ' ') = ' ' :: rest := by
  rw [List.dropWhile_append_of_pos]
  · rfl
  · intro c member
    rw [bne_iff_ne]
    exact ne_of_mem_of_not_mem member noBlank

/-- A word with something else than a quote behind the blank that ends it is passed. -/
theorem afterName_word {word : List Char} {c : Char} (noBlank : ' ' ∉ word) (other : c ≠ '"')
    (rest : List Char) : afterName (word ++ ' ' :: c :: rest) = afterName (c :: rest) := by
  induction word with
  | nil => rfl
  | cons first word ih =>
      have apart : ¬ "name: \"".toList.isPrefixOf (first :: word ++ ' ' :: c :: rest) = true := by
        rw [List.isPrefixOf_iff_prefix]
        rintro ⟨tail, whole⟩
        have split : "name:".toList ++ ' ' :: ('"' :: tail) =
            first :: word ++ ' ' :: (c :: rest) := whole
        have behind := congrArg (List.dropWhile (· != ' ')) split
        rw [dropWhile_word (by decide), dropWhile_word noBlank, List.cons.injEq,
          List.cons.injEq] at behind
        exact other behind.2.1.symm
      rw [List.cons_append] at apart ⊢
      rw [afterName, if_neg apart]
      exact ih fun member => noBlank (List.mem_cons_of_mem _ member)

/-! ## Declarations -/

/-- The literal of a declaration: what it holds, and what follows its closing quote. -/
def literal (line : String) : Option (List Char × List Char) :=
  (afterName line.toList).bind closeLiteral

/-- The annotation fields of a control behind its name. -/
def Control.annotation (control : Control) : String :=
  (control.limits.map Range.annotation).getD switchAnnotation

/-- What follows the label in a declaration. -/
def Control.ending (control : Control) : String := ", " ++ control.annotation ++ " ]];"

/-- A declaration names the identifier, and quotes the label in front of the annotation fields. -/
theorem declaration_toList (control : Control) :
    control.declaration.toList =
      "input event float32 ".toList ++ ((sanitizeLabel control.label).toList ++
        (" [[ name: \"".toList ++ (control.label.toList ++ '"' :: control.ending.toList))) := by
  have quote : "\", " = "\"" ++ ", " := rfl
  change ("input event float32 " ++ sanitizeLabel control.label ++ " [[ name: \"" ++ control.label ++
    "\", " ++ control.annotation ++ " ]];").toList = _
  rw [quote, Control.ending]
  generalize "input event float32 " = opening
  generalize " [[ name: \"" = heading
  generalize ", " = comma
  generalize " ]];" = closing
  simp only [String.toList_append, List.append_assoc]
  rfl

theorem blank_not_mem_sanitizeLabel (label : String) : ' ' ∉ (sanitizeLabel label).toList := by
  rw [sanitizeLabel, String.toList_ofList, List.mem_map]
  rintro ⟨c, -, same⟩
  split at same
  next => cases same
  next notSpecial =>
    subst same
    exact notSpecial rfl

theorem afterName_opening (rest : List Char) :
    afterName ("input event float32 ".toList ++ rest) = afterName rest := rfl

theorem afterName_heading (rest : List Char) :
    afterName ("[[ name: \"".toList ++ rest) = some rest := rfl

theorem afterName_declaration (control : Control) :
    afterName control.declaration.toList =
      some (control.label.toList ++ '"' :: control.ending.toList) := by
  rw [declaration_toList, afterName_opening]
  exact (afterName_word (blank_not_mem_sanitizeLabel control.label) (by decide) _).trans
    (afterName_heading _)

/-- The literal of a declaration is its label, and what follows is its ending, exactly if the label
is closed. -/
theorem literal_declaration_iff (control : Control) :
    literal control.declaration = some (control.label.toList, control.ending.toList) ↔
      Closed control.label.toList := by
  rw [literal, afterName_declaration, Option.bind_some, closeLiteral_eq_some_iff]
  exact and_iff_left rfl

/-! ## Control characters -/

theorem solid_concat {first second : String} (solid : Solid first.toList)
    (too : Solid second.toList) : Solid (first ++ second).toList := by
  rw [String.toList_append, Json.solid_append]
  exact ⟨solid, too⟩

theorem solid_of_spelled {chars : List Char} (spelled : Spelled chars) : Solid chars := by
  intro c member
  have numeral := spelled c member
  simp only [isNumeralChar, Bool.or_eq_true, beq_iff_eq] at numeral
  rcases numeral with ((((digit | rfl) | rfl) | rfl) | rfl) | rfl
  · exact Nat.le_trans (by decide) (Char.isDigit_iff_toNat.mp digit).1
  all_goals decide

/-- Fields of a control whose numbers have been read hold no control characters. -/
theorem annotation_solid {control : Control} (isRead : control.IsRead) :
    Solid control.annotation.toList := by
  obtain ⟨label, limits⟩ := control
  cases limits with
  | none => exact (by decide : Solid switchAnnotation.toList)
  | some limits =>
      have number (key : RangeKey) : Solid (limits.quantity key).text.toList :=
        solid_of_spelled ((isRead limits rfl).spelled key)
      have throughMin : Solid ("min: " ++ limits.min.text).toList :=
        solid_concat (by decide) (number .min)
      have throughMax : Solid ("min: " ++ limits.min.text ++ ", max: " ++ limits.max.text).toList :=
        solid_concat (solid_concat throughMin (by decide)) (number .max)
      have throughInit : Solid ("min: " ++ limits.min.text ++ ", max: " ++ limits.max.text ++
          ", init: " ++ limits.init.text).toList :=
        solid_concat (solid_concat throughMax (by decide)) (number .init)
      exact solid_concat (solid_concat throughInit (by decide)) (number .step)

theorem ending_solid {control : Control} (isRead : control.IsRead) :
    Solid control.ending.toList :=
  solid_concat (solid_concat (by decide) (annotation_solid isRead)) (by decide)

theorem special_solid {c : Char} (special : isLabelSpecial c = true) : 0x20 ≤ c.toNat := by
  simp only [isLabelSpecial, Bool.or_eq_true, beq_iff_eq] at special
  rcases special with (((((rfl | rfl) | rfl) | rfl) | rfl) | rfl) | rfl <;> decide

section Count

variable {p : Char → Bool} (controls : ∀ c, p c = true → c.toNat < 0x20)
include controls

theorem countP_solid {chars : List Char} (solid : Solid chars) : chars.countP p = 0 := by
  rw [List.countP_eq_zero]
  intro c member found
  exact absurd (solid c member) (Nat.not_le.mpr (controls c found))

/-- An identifier keeps the control characters of its label. -/
theorem countP_sanitizeLabel (label : String) :
    (sanitizeLabel label).toList.countP p = label.toList.countP p := by
  rw [sanitizeLabel, String.toList_ofList, List.countP_map]
  apply List.countP_congr
  intro c _
  rw [Function.comp_apply]
  split
  next special =>
    have underscore : p '_' ≠ true := fun found => absurd (controls _ found) (by decide)
    have kept : p c ≠ true := fun found =>
      absurd (controls c found) (Nat.not_lt.mpr (special_solid special))
    exact iff_of_false underscore kept
  next => exact Iff.rfl

/-- A declaration has each control character of its label twice, and no other. -/
theorem countP_declaration {control : Control} (isRead : control.IsRead) :
    control.declaration.toList.countP p = 2 * control.label.toList.countP p := by
  have opening : "input event float32 ".toList.countP p = 0 := countP_solid controls (by decide)
  have heading : " [[ name: \"".toList.countP p = 0 := countP_solid controls (by decide)
  have rest : ('"' :: control.ending.toList).countP p = 0 :=
    countP_solid controls (Json.solid_cons.mpr ⟨by decide, ending_solid isRead⟩)
  rw [declaration_toList, List.countP_append, List.countP_append, List.countP_append,
    List.countP_append, opening, heading, rest, countP_sanitizeLabel controls]
  omega

end Count

/-! ## Well-formed lines -/

/-- The characters that end a line. -/
def isLineBreak (c : Char) : Bool := c == '\n' || c == '\r'

/-- A text on one line. -/
def Unbroken (chars : List Char) : Prop := ∀ c ∈ chars, ¬ isLineBreak c = true

/-- A line that names a control: it is one, and its literal is the label, with nothing but the
annotation fields of the control behind it. -/
structure Control.Names (control : Control) (line : String) : Prop where
  unbroken : Unbroken line.toList
  quoted : literal line = some (control.label.toList, control.ending.toList)

theorem isLineBreak_control (c : Char) (lineBreak : isLineBreak c = true) : c.toNat < 0x20 := by
  rw [isLineBreak, Bool.or_eq_true, beq_iff_eq, beq_iff_eq] at lineBreak
  cases lineBreak with
  | inl newline => simp [newline]
  | inr carriageReturn => simp [carriageReturn]

theorem newline_control (c : Char) (newline : (c == '\n') = true) : c.toNat < 0x20 :=
  isLineBreak_control c (by rw [isLineBreak, newline, Bool.true_or])

/-- The declaration of a control names it if its label is on one line and leaves no quote open. -/
theorem names_declaration_iff {control : Control} (isRead : control.IsRead) :
    control.Names control.declaration ↔
      Unbroken control.label.toList ∧ Closed control.label.toList := by
  have lines : Unbroken control.declaration.toList ↔ Unbroken control.label.toList := by
    rw [Unbroken, Unbroken, ← List.countP_eq_zero, ← List.countP_eq_zero,
      countP_declaration isLineBreak_control isRead, Nat.mul_eq_zero]
    exact or_iff_right (by decide)
  constructor
  · intro names
    exact ⟨lines.mp names.unbroken, (literal_declaration_iff control).mp names.quoted⟩
  · intro label
    exact ⟨lines.mpr label.1, (literal_declaration_iff control).mpr label.2⟩

end DspBridge.Descriptor
