import DspBridge.Proofs.Json.Skipping

/-!
# One tree for a text

No text writes two trees.  The literals of a tree end where the skipping of them ends, and rows are
told apart by the look-ahead of their readers; inside brackets texts are shorter, so the trees there
are settled before.
-/

namespace DspBridge.Json

open Reader

/-! ## Literals -/

section Literals

variable {first second rest left : List Char}

theorem IsNumeral.unique (shape : IsNumeral first) (other : IsNumeral second) (stops : Stops rest)
    (ends : Stops left) (same : first ++ rest = second ++ left) : first = second ∧ rest = left := by
  have passed := (skipNumber_eq_done_iff stops).mpr ⟨first, shape, rfl⟩
  rw [same, (skipNumber_eq_done_iff ends).mpr ⟨second, other, rfl⟩] at passed
  cases passed
  exact ⟨List.append_cancel_right same, rfl⟩

theorem IsBody.unique (shape : IsBody first) (other : IsBody second)
    (same : first ++ '"' :: rest = second ++ '"' :: left) : first = second ∧ rest = left := by
  have passed := shape.skip rest
  rw [same, other.skip left] at passed
  cases passed
  exact ⟨List.append_cancel_right same, rfl⟩

end Literals

/-! ## Rows -/

section Rows

variable {α : Type} {size : Nat} {Written : α → List Char → Prop} {closer : Char}

/-- Entries whose texts have no more characters than some size are told by them, whatever follows
that no number goes on in. -/
def Unambiguous (size : Nat) (Written : α → List Char → Prop) : Prop :=
  ∀ ⦃entry other text written rest left⦄, text.length ≤ size → Written entry text →
    Written other written → Stops rest → Stops left → text ++ rest = written ++ left →
    entry = other ∧ rest = left

/-- A reader looks ahead in a row: it goes to the next entry, or stays at the end of the row. -/
structure LooksAhead (look : Bool → Reader Bool) (closer : Char)
    (Written : α → List Char → Prop) : Prop where
  entry {first : Bool} {entry : α} {gap pad text : List Char} (more : List Char) :
    Blanks gap → Blanks pad → Written entry text →
    look first (gap ++ (separator first ++ (pad ++ (text ++ more)))) = .done true (text ++ more)
  close {first : Bool} {gap : List Char} (rest : List Char) :
    Blanks gap → look first (gap ++ closer :: rest) = .done false (closer :: rest)

/-- Rows at the front of one text have the same entries: the look-ahead sees one text, so both rows
end or both go on. -/
theorem Row.unique {look : Bool → Reader Bool} (looks : LooksAhead look closer Written)
    (told : Unambiguous size Written) (closing : continuesNumber closer = false) {first : Bool}
    {entries others : List α} {inside written rest left : List Char}
    (row : Row closer Written first entries inside) (small : inside.length ≤ size)
    (other : Row closer Written first others written) (same : inside ++ rest = written ++ left) :
    entries = others ∧ rest = left := by
  induction row generalizing others written left with
  | @close first gap blank =>
      have looked := @looks.close first gap rest blank
      rw [List.append_assoc, List.singleton_append] at same
      rw [same] at looked
      cases other with
      | @close _ pad padBlank =>
          rw [List.append_assoc, List.singleton_append, looks.close left padBlank] at looked
          cases looked
          exact ⟨rfl, rfl⟩
      | @entry _ _ _ gap pad text more gapBlank padBlank shape _ =>
          have ahead := @looks.entry first _ gap pad text (more ++ left) gapBlank padBlank shape
          simp only [List.append_assoc] at looked
          rw [ahead] at looked
          cases looked
  | @entry first entry others' gap pad text more gapBlank padBlank shape row ih =>
      have looked := @looks.entry first _ gap pad text (more ++ rest) gapBlank padBlank shape
      simp only [List.append_assoc] at same
      rw [same] at looked
      cases other with
      | @close _ gap blank =>
          rw [List.append_assoc, List.singleton_append, looks.close left blank] at looked
          cases looked
      | @entry _ _ _ gap' pad' text' more' gapBlank' padBlank' shape' row' =>
          have ahead := @looks.entry first _ gap' pad' text' (more' ++ left) gapBlank' padBlank'
            shape'
          simp only [List.append_assoc] at looked
          rw [ahead, Outcome.done.injEq] at looked
          simp only [List.length_append] at small
          obtain ⟨rfl, follows⟩ := told (by omega) shape shape' (row.stops closing rest)
            (row'.stops closing left) looked.2.symm
          obtain ⟨rfl, rfl⟩ := ih (by omega) row' follows
          exact ⟨rfl, rfl⟩

end Rows

section Entries

variable {size : Nat}

theorem hasItem_looksAhead : LooksAhead hasItem ']' Tree.Bare where
  entry {first tree gap pad text} more gapBlank padBlank written := by
    obtain ⟨c, tail, rfl, opens⟩ := written.exists_head
    exact hasItem_more gapBlank padBlank opens.solid opens.ne_close
  close rest blank := hasItem_close (by rw [dropWhile_blanks blank]; rfl)

theorem hasMember_looksAhead : LooksAhead hasMember '\x7d' (Member Tree.Bare) where
  entry more gapBlank padBlank written := by
    obtain ⟨-, -, -, -⟩ := written
    exact hasMember_more gapBlank padBlank
  close rest blank := hasMember_close (by rw [dropWhile_blanks blank]; rfl)

/-- Blanks in front of a tree do not matter. -/
theorem dropWhile_bare {tree : Tree} {pad text : List Char} (blank : Blanks pad)
    (written : tree.Bare text) (rest : List Char) :
    (pad ++ (text ++ rest)).dropWhile isSpace = text ++ rest := by
  obtain ⟨c, tail, rfl, opens⟩ := written.exists_head
  rw [dropWhile_blanks blank, List.cons_append, dropWhile_solid opens.solid]

theorem Member.unambiguous (told : Unambiguous size Tree.Bare) :
    Unambiguous size (Member Tree.Bare) := by
  intro entry other text written rest left small shape shape' stops stops' same
  cases shape with
  | @named name gap pad value tree body gapBlank padBlank bare =>
      cases shape' with
      | @named name' gap' pad' value' tree' body' gapBlank' padBlank' bare' =>
          simp only [List.cons_append, List.append_assoc, List.cons.injEq, true_and] at same
          obtain ⟨rfl, behind⟩ := body.unique body' same
          have follows := congrArg (List.dropWhile isSpace) behind
          rw [dropWhile_blanks gapBlank, dropWhile_blanks gapBlank'] at follows
          have values := congrArg (List.dropWhile isSpace) (List.cons.inj follows).2
          rw [dropWhile_bare padBlank bare, dropWhile_bare padBlank' bare'] at values
          simp only [List.length_cons, List.length_append] at small
          obtain ⟨rfl, rfl⟩ := told (by omega) bare bare' stops stops' values
          exact ⟨rfl, rfl⟩

end Entries

/-! ## Trees -/

/-- Two trees are of one kind, and have the same value if they are truth values. -/
inductive Tree.Akin : Tree → Tree → Prop where
  | null : Akin .null .null
  | bool {value : Bool} : Akin (.bool value) (.bool value)
  | number {first second : List Char} : Akin (.number first) (.number second)
  | string {first second : List Char} : Akin (.string first) (.string second)
  | array {first second : List Tree} : Akin (.array first) (.array second)
  | object {first second : List (List Char × Tree)} : Akin (.object first) (.object second)

theorem Tree.Opens.akin {tree other : Tree} {c : Char} (opens : tree.Opens c)
    (too : other.Opens c) : tree.Akin other := by
  cases tree with
  | null =>
      cases opens
      rw [too.null]
      exact .null
  | bool value =>
      cases value <;> cases opens <;>
        cases other with
        | bool value =>
            cases value <;> cases too
            exact .bool
        | _ => cases too
  | number literal =>
      cases other with
      | number literal => exact .number
      | bool value => cases value <;> cases too <;> cases opens
      | _ =>
          cases too
          cases opens
  | string body =>
      cases opens
      cases other with
      | string body => exact .string
      | bool value => cases value <;> cases too
      | _ => cases too
  | array items =>
      cases opens
      cases other with
      | array items => exact .array
      | bool value => cases value <;> cases too
      | _ => cases too
  | object members =>
      cases opens
      cases other with
      | object members => exact .object
      | bool value => cases value <;> cases too
      | _ => cases too

theorem Tree.Bare.akin {tree other : Tree} {text written rest left : List Char}
    (bare : tree.Bare text) (bare' : other.Bare written) (same : text ++ rest = written ++ left) :
    tree.Akin other := by
  obtain ⟨c, tail, rfl, opens⟩ := bare.exists_head
  obtain ⟨c', tail', rfl, opens'⟩ := bare'.exists_head
  obtain ⟨rfl, -⟩ := List.cons.inj same
  exact opens.akin opens'

/-- What a tree is written as tells the tree, by induction on the length of the text: what stands in
brackets is shorter. -/
theorem Tree.unambiguous (size : Nat) : Unambiguous size Tree.Bare := by
  induction size with
  | zero =>
      intro tree other text written rest left small bare
      obtain ⟨c, tail, rfl, -⟩ := bare.exists_head
      cases small
  | succ size ih =>
      intro tree other text written rest left small bare bare' stops stops' same
      cases bare.akin bare' same with
      | null =>
          cases bare
          cases bare'
          exact ⟨rfl, List.append_cancel_left same⟩
      | @bool value =>
          cases value <;> cases bare <;> cases bare' <;> exact ⟨rfl, List.append_cancel_left same⟩
      | number =>
          cases bare with
          | number shape =>
              cases bare' with
              | number shape' =>
                  obtain ⟨rfl, rfl⟩ := shape.unique shape' stops stops' same
                  exact ⟨rfl, rfl⟩
      | string =>
          cases bare with
          | string shape =>
              cases bare' with
              | string shape' =>
                  simp only [List.cons_append, List.append_assoc, List.cons.injEq, true_and,
                    List.nil_append] at same
                  obtain ⟨rfl, rfl⟩ := shape.unique shape' same
                  exact ⟨rfl, rfl⟩
      | array =>
          cases bare with
          | array row =>
              cases bare' with
              | array row' =>
                  obtain ⟨rfl, rfl⟩ := row.unique hasItem_looksAhead ih rfl
                    (Nat.le_of_succ_le_succ small) row' (List.cons.inj same).2
                  exact ⟨rfl, rfl⟩
      | object =>
          cases bare with
          | object row =>
              cases bare' with
              | object row' =>
                  obtain ⟨rfl, rfl⟩ := row.unique hasMember_looksAhead (Member.unambiguous ih) rfl
                    (Nat.le_of_succ_le_succ small) row' (List.cons.inj same).2
                  exact ⟨rfl, rfl⟩

/-! ## Whole texts -/

/-- A text is a tree with nothing but blanks around it. -/
def Stands (text : String) (tree : Tree) : Prop :=
  ∃ rest, tree.Leads text.toList rest ∧ Blanks rest

/-- A text is one tree at most. -/
theorem Stands.unique {text : String} {tree other : Tree} (stands : Stands text tree)
    (too : Stands text other) : tree = other := by
  obtain ⟨rest, leads, blank⟩ := stands
  obtain ⟨left, leads', blank'⟩ := too
  obtain ⟨bare, written, split⟩ := Tree.leads_iff.mp leads
  obtain ⟨bare', written', split'⟩ := Tree.leads_iff.mp leads'
  have stops : Stops rest := by simpa using stops_gap blank stops_nil
  have stops' : Stops left := by simpa using stops_gap blank' stops_nil
  exact (Tree.unambiguous bare.length (Nat.le_refl _) written written' stops stops'
    (split.symm.trans split')).1

end DspBridge.Json
