import DspBridge.Proofs.Json.Readings

/-!
# Reading rows

Arrays and objects are rows of entries between brackets.  A reader of items or members is done with
a row exactly if it is done with each of its entries, and what a row means is put together from what
the entries mean: a list of values, or a state that one entry after another has changed.
-/

namespace DspBridge.Json

open Reader

/-! ## Brackets -/

section Brackets

variable {α : Type} {text rest left : List Char} {first : Bool}

theorem enclosed_eq_done_iff {close : Reader Unit} {body : Reader α} {value : α} :
    enclosed close body text = .done value rest ↔
      ∃ left, body text = .done value left ∧ close left = .done () rest := by
  rw [enclosed]
  cases body text with
  | done other left =>
      dsimp only
      cases closed : close left with
      | done _ behind =>
          constructor
          · rintro ⟨⟩
            exact ⟨left, rfl, closed⟩
          · rintro ⟨_, ⟨⟩, same⟩
            rw [closed] at same
            cases same
            rfl
      | failed failure => simp_all
      | refused cause behind => simp_all
  | failed failure => simp
  | refused cause left =>
      dsimp only
      cases close left <;> simp

theorem closeArray_eq_done_iff :
    closeArray text = .done () rest ↔ text.dropWhile isSpace = ']' :: rest := by
  simp only [closeArray, bind_apply, peekSolid_bind]
  generalize text.dropWhile isSpace = solid
  cases solid with
  | nil => simp
  | cons c solid =>
      simp only [List.head?_cons, if_apply, beq_iff_eq]
      split
      next same => simp [same]
      next other =>
        split
        next =>
          simp only [bind_apply, advance_bind, peekSolid_bind]
          generalize (List.dropWhile isSpace (c :: solid).tail).head? = behind
          split <;> simp [other]
        next => simp [other]

theorem closeObject_eq_done_iff :
    closeObject text = .done () rest ↔ text.dropWhile isSpace = '\x7d' :: rest := by
  simp only [closeObject, bind_apply, peekSolid_bind]
  generalize text.dropWhile isSpace = solid
  cases solid with
  | nil => simp
  | cons c solid =>
      simp only [List.head?_cons, if_apply, beq_iff_eq]
      split
      next same => simp [same]
      next other => split <;> simp [other]

theorem colon_eq_done_iff :
    colon text = .done () rest ↔ text.dropWhile isSpace = ':' :: rest := by
  simp only [colon, bind_apply, peekSolid_bind]
  generalize text.dropWhile isSpace = solid
  cases solid with
  | nil => simp
  | cons c solid =>
      simp only [List.head?_cons, if_apply, beq_iff_eq]
      split
      next same => simp [same]
      next other => simp [other]

/-- What is left of a text when a separator has been passed, and blanks around it. -/
def Behind (first : Bool) (text left : List Char) : Prop :=
  ∃ gap pad, Blanks gap ∧ Blanks pad ∧ text = gap ++ (separator first ++ (pad ++ left))

theorem hasItem_sound {more : Bool} (looked : hasItem first text = .done more left) :
    (more = false ∧ left = text.dropWhile isSpace ∧ left.head? = some ']') ∨
      (more = true ∧ Behind first text left) := by
  obtain ⟨gap, blank, whole⟩ := exists_gap text
  simp only [hasItem, bind_apply, peekSolid_bind] at looked
  generalize text.dropWhile isSpace = solid at looked whole ⊢
  cases solid with
  | nil => cases looked
  | cons c solid =>
      simp only [List.head?_cons, if_apply, beq_iff_eq, bind_apply, advance_bind, List.tail_cons,
        peekSolid_bind, pure_apply, failNext_apply] at looked
      split at looked
      next closing =>
        cases looked
        exact .inl ⟨rfl, rfl, congrArg some closing⟩
      next =>
        split at looked
        next isFirst =>
          cases looked
          exact .inr ⟨rfl, gap, [], blank, blanks_nil, by
            rw [isFirst]
            exact whole⟩
        next notFirst =>
          split at looked
          next comma =>
            subst comma
            obtain ⟨pad, padBlank, behind⟩ := exists_gap solid
            generalize solid.dropWhile isSpace = follows at looked behind
            cases follows with
            | nil => cases looked
            | cons d follows =>
                simp only [List.head?_cons] at looked
                split at looked
                next => cases looked
                next =>
                  cases looked
                  refine .inr ⟨rfl, gap, pad, blank, padBlank, ?_⟩
                  rw [Bool.eq_false_of_not_eq_true notFirst, whole, behind]
                  rfl
          next => cases looked

theorem hasItem_close {tail : List Char} (closing : text.dropWhile isSpace = ']' :: tail) :
    hasItem first text = .done false (']' :: tail) := by
  simp only [hasItem, bind_apply, peekSolid_bind, closing]
  rfl

theorem hasItem_more {gap pad tail : List Char} {c : Char} (gapBlank : Blanks gap)
    (padBlank : Blanks pad) (solid : isSpace c = false) (notEnd : c ≠ ']') :
    hasItem first (gap ++ (separator first ++ (pad ++ c :: tail))) = .done true (c :: tail) := by
  have behind : (pad ++ c :: tail).dropWhile isSpace = c :: tail := by
    rw [dropWhile_blanks padBlank, dropWhile_solid solid]
  cases first with
  | true =>
      have front : (gap ++ (separator true ++ (pad ++ c :: tail))).dropWhile isSpace =
          c :: tail := by
        rw [dropWhile_blanks gapBlank]
        exact behind
      simp [hasItem, front, notEnd]
  | false =>
      have front : (gap ++ (separator false ++ (pad ++ c :: tail))).dropWhile isSpace =
          ',' :: (pad ++ c :: tail) := by
        rw [dropWhile_blanks gapBlank]
        rfl
      simp [hasItem, front, behind, notEnd]

theorem hasMember_sound {more : Bool} (looked : hasMember first text = .done more left) :
    (more = false ∧ left = text.dropWhile isSpace) ∨
      (more = true ∧ Behind first text left ∧ ∃ tail, left = '"' :: tail) := by
  obtain ⟨gap, blank, whole⟩ := exists_gap text
  simp only [hasMember, bind_apply, peekSolid_bind] at looked
  generalize text.dropWhile isSpace = solid at looked whole ⊢
  cases solid with
  | nil => cases looked
  | cons c solid =>
      simp only [List.head?_cons, if_apply, beq_iff_eq, bind_apply, advance_bind, List.tail_cons,
        peekSolid_bind, pure_apply, failNext_apply] at looked
      split at looked
      next =>
        cases looked
        exact .inl ⟨rfl, rfl⟩
      next =>
        split at looked
        next isFirst =>
          split at looked
          next quote =>
            cases looked
            exact .inr ⟨rfl, ⟨gap, [], blank, blanks_nil, by
              rw [isFirst]
              exact whole⟩, solid, by rw [quote]⟩
          next => cases looked
        next notFirst =>
          split at looked
          next comma =>
            subst comma
            obtain ⟨pad, padBlank, behind⟩ := exists_gap solid
            generalize solid.dropWhile isSpace = follows at looked behind
            cases follows with
            | nil => cases looked
            | cons d follows =>
                simp only [List.head?_cons, if_apply] at looked
                split at looked
                next quote =>
                  cases looked
                  refine .inr ⟨rfl, ⟨gap, pad, blank, padBlank, ?_⟩, follows, ?_⟩
                  · rw [Bool.eq_false_of_not_eq_true notFirst, whole, behind]
                    rfl
                  · rw [quote]
                next => split at looked <;> cases looked
          next => cases looked

theorem hasMember_close {tail : List Char} (closing : text.dropWhile isSpace = '\x7d' :: tail) :
    hasMember first text = .done false ('\x7d' :: tail) := by
  simp only [hasMember, bind_apply, peekSolid_bind, closing]
  rfl

theorem hasMember_more {gap pad tail : List Char} (gapBlank : Blanks gap) (padBlank : Blanks pad) :
    hasMember first (gap ++ (separator first ++ (pad ++ '"' :: tail))) =
      .done true ('"' :: tail) := by
  have behind : (pad ++ '"' :: tail).dropWhile isSpace = '"' :: tail := by
    rw [dropWhile_blanks padBlank]
    rfl
  cases first with
  | true =>
      have front : (gap ++ (separator true ++ (pad ++ '"' :: tail))).dropWhile isSpace =
          '"' :: tail := by
        rw [dropWhile_blanks gapBlank]
        exact behind
      simp [hasMember, front]
  | false =>
      have front : (gap ++ (separator false ++ (pad ++ '"' :: tail))).dropWhile isSpace =
          ',' :: (pad ++ '"' :: tail) := by
        rw [dropWhile_blanks gapBlank]
        rfl
      simp [hasMember, front, behind]

end Brackets

/-! ## Rows -/

section Rows

variable {α : Type} {text rest left : List Char} {first : Bool} {item : Reader α}
  {Means : Tree → α → Prop}

theorem blanks_append {gap pad : List Char} (gapBlank : Blanks gap) (padBlank : Blanks pad) :
    Blanks (gap ++ pad) :=
  List.forall_mem_append.mpr ⟨gapBlank, padBlank⟩

/-- A row that has been passed up to its closing bracket. -/
theorem row_close {ε : Type} {closer : Char} {Written : ε → List Char → Prop}
    (closing : text.dropWhile isSpace = closer :: rest) :
    ∃ inside, Row closer Written first [] inside ∧ text = inside ++ rest := by
  obtain ⟨gap, blank, whole⟩ := exists_gap text
  refine ⟨gap ++ [closer], .close blank, ?_⟩
  rw [whole, closing, List.append_assoc]
  rfl

/-- A row with one more item in front. -/
theorem row_item {tree : Tree} {others : List Tree} {inside : List Char}
    (behind : Behind first text left) (leads : tree.Leads left (inside ++ rest))
    (row : Row ']' Tree.Bare false others inside) :
    ∃ inside, Row ']' Tree.Bare first (tree :: others) inside ∧ text = inside ++ rest := by
  obtain ⟨gap, pad, gapBlank, padBlank, rfl⟩ := behind
  obtain ⟨inner, bare, innerBlank, written, rfl⟩ := leads
  exact ⟨_, .entry gapBlank (blanks_append padBlank innerBlank) written row, by simp⟩

theorem itemsFrom_sound (reads : Reads item Means) {fuel : Nat} {values : List α}
    (done : itemsFrom item fuel first text = .done values left)
    (closed : closeArray left = .done () rest) :
    ∃ trees inside, Row ']' Tree.Bare first trees inside ∧ text = inside ++ rest ∧
      List.Forall₂ Means trees values := by
  induction fuel generalizing first text values with
  | zero => cases done
  | succ fuel ih =>
      simp only [itemsFrom, bind_apply] at done
      obtain ⟨more, follows, looked, continued⟩ := bind_eq_done_iff.mp done
      obtain ⟨rfl, rfl, -⟩ | ⟨rfl, behind⟩ := hasItem_sound looked
      · cases continued
        rw [closeArray_eq_done_iff, List.dropWhile_idempotent] at closed
        obtain ⟨inside, row, whole⟩ := row_close closed
        exact ⟨[], inside, row, whole, .nil⟩
      · simp only [if_true, bind_apply] at continued
        obtain ⟨value, middle, itemRead, continued⟩ := bind_eq_done_iff.mp continued
        obtain ⟨others, _, othersRead, last⟩ := bind_eq_done_iff.mp continued
        cases last
        obtain ⟨trees, inside, row, rfl, meant⟩ := ih othersRead
        obtain ⟨tree, leads, means⟩ := (reads _ _ _ (row.stops rfl rest)).mp itemRead
        obtain ⟨inside, row, whole⟩ := row_item behind leads row
        exact ⟨tree :: trees, inside, row, whole, .cons means meant⟩

theorem itemsFrom_complete (reads : Reads item Means) {trees : List Tree} {inside : List Char}
    (row : Row ']' Tree.Bare first trees inside) {values : List α}
    (meant : List.Forall₂ Means trees values) (rest : List Char) {fuel : Nat}
    (enough : (inside ++ rest).length < fuel) :
    itemsFrom item fuel first (inside ++ rest) = .done values (']' :: rest) := by
  induction row generalizing values fuel with
  | @close first gap blank =>
      cases meant
      obtain ⟨fuel, rfl⟩ := Nat.exists_eq_add_one_of_ne_zero (Nat.ne_zero_of_lt enough)
      have closing : (gap ++ [']'] ++ rest).dropWhile isSpace = ']' :: rest := by
        rw [List.append_assoc, dropWhile_blanks blank]
        rfl
      rw [itemsFrom, bind_apply, bind_done (hasItem_close closing)]
      rfl
  | @entry first tree others gap pad bare more gapBlank padBlank written row ih =>
      obtain ⟨_, _⟩ | ⟨means, others⟩ := meant
      obtain ⟨fuel, rfl⟩ := Nat.exists_eq_add_one_of_ne_zero (Nat.ne_zero_of_lt enough)
      obtain ⟨c, tail, rfl, opens⟩ := written.exists_head
      have leads : tree.Leads (c :: tail ++ (more ++ rest)) (more ++ rest) :=
        ⟨[], _, blanks_nil, written, rfl⟩
      have itemRead := (reads _ _ _ (row.stops rfl rest)).mpr ⟨tree, leads, means⟩
      have shorter : (more ++ rest).length < fuel := by
        simp only [List.length_append, List.length_cons] at enough ⊢
        omega
      have looked : hasItem first
          (gap ++ (separator first ++ (pad ++ (c :: tail ++ more))) ++ rest) =
          .done true (c :: tail ++ (more ++ rest)) := by
        have found := @hasItem_more first gap pad (tail ++ (more ++ rest)) c gapBlank padBlank
          opens.solid opens.ne_close
        simpa using found
      rw [itemsFrom, bind_apply, bind_done looked]
      simp only [if_true, bind_apply]
      rw [bind_done itemRead, bind_apply, bind_done (ih others shorter)]
      rfl

/-- A reader takes arrays from their brackets on and gives what their items mean together. -/
def ReadsItems (array : Reader α) (Elements : List Tree → α → Prop) : Prop :=
  ∀ text value rest, array ('[' :: text) = .done value rest ↔
    ∃ trees inside, Row ']' Tree.Bare true trees inside ∧ text = inside ++ rest ∧
      Elements trees value

/-- A reader takes objects from their brackets on and gives what their members mean together. -/
def ReadsMembers (object : Reader α) (Fields : List (List Char × Tree) → α → Prop) : Prop :=
  ∀ text value rest, object ('\x7b' :: text) = .done value rest ↔
    ∃ members inside, Row '\x7d' (Member Tree.Bare) true members inside ∧ text = inside ++ rest ∧
      Fields members value

theorem readsItems_fail (cause : Cause) :
    ReadsItems (failNext cause : Reader α) fun _ _ => False := by
  intro text value rest
  constructor
  · intro done
    cases done
  · rintro ⟨_, _, _, _, ⟨⟩⟩

theorem readsMembers_fail (cause : Cause) :
    ReadsMembers (failNext cause : Reader α) fun _ _ => False := by
  intro text value rest
  constructor
  · intro done
    cases done
  · rintro ⟨_, _, _, _, ⟨⟩⟩

/-- An array is done where its items have been read up to the closing bracket. -/
theorem readsItems_items (reads : Reads item Means) :
    ReadsItems (arrayOf (Reader.items item true)) (List.Forall₂ Means) := by
  intro text values rest
  change enclosed closeArray (Reader.items item true) text = .done values rest ↔ _
  rw [enclosed_eq_done_iff]
  constructor
  · rintro ⟨left, done, closed⟩
    exact itemsFrom_sound reads done closed
  · rintro ⟨trees, inside, row, rfl, meant⟩
    exact ⟨']' :: rest, itemsFrom_complete reads row meant rest (Nat.lt_succ_self _),
      closeArray_eq_done_iff.mpr rfl⟩

end Rows

section Records

variable {α : Type} {text rest : List Char} {array object : Reader α}
  {Elements : List Tree → α → Prop} {Fields : List (List Char × Tree) → α → Prop}

theorem sequence_open (expected : String) (bracket : text.dropWhile isSpace = '[' :: rest) :
    Reader.sequence expected array text = array ('[' :: rest) := by
  simp only [Reader.sequence, bind_apply, peekSolid_bind, bracket]
  rfl

theorem sequence_other (expected : String) (other : (text.dropWhile isSpace).head? ≠ some '[') :
    Reader.sequence expected array text = wrongKind expected (text.dropWhile isSpace) := by
  simp only [Reader.sequence, bind_apply, peekSolid_bind]

theorem record_apply (expected : String) :
    Reader.record expected array object text =
      if (text.dropWhile isSpace).head? = some '[' then array (text.dropWhile isSpace)
      else if (text.dropWhile isSpace).head? = some '\x7b' then object (text.dropWhile isSpace)
      else wrongKind expected (text.dropWhile isSpace) := by
  simp only [Reader.record, bind_apply, peekSolid_bind]
  cases (text.dropWhile isSpace).head? with
  | none => rfl
  | some c => simp

theorem reads_sequence (expected : String) (items : ReadsItems array Elements) :
    Reads (Reader.sequence expected array) (IsArray Elements) := by
  intro text value rest _
  by_cases bracket : (text.dropWhile isSpace).head? = some '['
  · obtain ⟨tail, split⟩ := List.head?_eq_some_iff.mp bracket
    rw [sequence_open expected split, items]
    constructor
    · rintro ⟨trees, inside, row, rfl, meant⟩
      exact ⟨.array trees, Tree.leads_array_iff.mpr ⟨inside, row, split⟩, .array meant⟩
    · rintro ⟨_, leads, meant⟩
      cases meant with
      | array meant =>
          obtain ⟨inside, row, whole⟩ := Tree.leads_array_iff.mp leads
          exact ⟨_, inside, row, (List.cons.inj (split.symm.trans whole)).2, meant⟩
  · rw [sequence_other expected bracket]
    constructor
    · intro done
      exact absurd done (wrongKind_ne_done expected value)
    · rintro ⟨_, leads, meant⟩
      cases meant with
      | array meant =>
          obtain ⟨inside, _, whole⟩ := Tree.leads_array_iff.mp leads
          rw [whole] at bracket
          exact absurd rfl bracket

theorem reads_record (expected : String) (items : ReadsItems array Elements)
    (members : ReadsMembers object Fields) :
    Reads (Reader.record expected array object) (IsRecord Elements Fields) := by
  intro text value rest _
  rw [record_apply]
  constructor
  · intro done
    split at done
    next bracket =>
      obtain ⟨tail, split⟩ := List.head?_eq_some_iff.mp bracket
      rw [split, items] at done
      obtain ⟨trees, inside, row, rfl, meant⟩ := done
      exact ⟨.array trees, Tree.leads_array_iff.mpr ⟨inside, row, split⟩, .array meant⟩
    next =>
      split at done
      next brace =>
        obtain ⟨tail, split⟩ := List.head?_eq_some_iff.mp brace
        rw [split, members] at done
        obtain ⟨entries, inside, row, rfl, meant⟩ := done
        exact ⟨.object entries, Tree.leads_object_iff.mpr ⟨inside, row, split⟩, .object meant⟩
      next => exact absurd done (wrongKind_ne_done expected value)
  · rintro ⟨_, leads, meant⟩
    cases meant with
    | array meant =>
        obtain ⟨inside, row, split⟩ := Tree.leads_array_iff.mp leads
        rw [split, List.head?_cons, if_pos rfl, items]
        exact ⟨_, inside, row, rfl, meant⟩
    | object meant =>
        obtain ⟨inside, row, split⟩ := Tree.leads_object_iff.mp leads
        rw [split, List.head?_cons, if_neg (by decide), if_pos rfl, members]
        exact ⟨_, inside, row, rfl, meant⟩

end Records

/-! ## Members -/

section Members

variable {σ : Type} {text rest left : List Char} {first : Bool} {member : σ → Reader σ}
  {Step : List Char × Tree → σ → σ → Prop} {state final : σ}

/-- A member at the front of a text. -/
def MemberLeads (entry : List Char × Tree) (text rest : List Char) : Prop :=
  ∃ written, Member Tree.Bare entry written ∧ text = written ++ rest

theorem memberLeads_iff {name : List Char} {tree : Tree} :
    MemberLeads (name, tree) text rest ↔ IsBody name ∧ ∃ behind value,
      text = '"' :: (name ++ '"' :: behind) ∧ behind.dropWhile isSpace = ':' :: value ∧
        tree.Leads value rest := by
  constructor
  · rintro ⟨_, written, rfl⟩
    cases written with
    | @named _ gap pad bare _ shape gapBlank padBlank valueWritten =>
        refine ⟨shape, gap ++ ':' :: (pad ++ (bare ++ rest)), pad ++ (bare ++ rest), by simp, ?_,
          pad, bare, padBlank, valueWritten, rfl⟩
        rw [dropWhile_blanks gapBlank]
        rfl
  · rintro ⟨shape, behind, _, rfl, colon, pad, bare, padBlank, written, rfl⟩
    obtain ⟨gap, gapBlank, whole⟩ := exists_gap behind
    rw [colon] at whole
    exact ⟨_, .named shape gapBlank padBlank written, by simp [whole]⟩

/-- A state that is changed by one entry after another. -/
inductive Folds {ε σ : Type} (Step : ε → σ → σ → Prop) : List ε → σ → σ → Prop where
  | done {state : σ} : Folds Step [] state state
  | step {entry : ε} {others : List ε} {state next final : σ} :
      Step entry state next → Folds Step others next final →
      Folds Step (entry :: others) state final

/-- Changing a state by what the entries mean is changing it by one meaning after another. -/
theorem folds_meant_iff {ε ν : Type} {Means : ε → ν → Prop} {Step : ν → σ → σ → Prop}
    {entries : List ε} {before after : σ} :
    Folds (fun entry before after => ∃ meant, Means entry meant ∧ Step meant before after) entries
        before after ↔
      ∃ meanings, List.Forall₂ Means entries meanings ∧ Folds Step meanings before after := by
  induction entries generalizing before with
  | nil =>
      constructor
      · intro folds
        cases folds
        exact ⟨[], .nil, .done⟩
      · rintro ⟨_, meant, folds⟩
        cases meant
        cases folds
        exact .done
  | cons entry entries ih =>
      constructor
      · intro folds
        obtain _ | ⟨⟨meaning, meant, step⟩, folds⟩ := folds
        obtain ⟨meanings, others, folds⟩ := ih.mp folds
        exact ⟨meaning :: meanings, .cons meant others, .step step folds⟩
      · rintro ⟨_, meant, folds⟩
        obtain _ | ⟨meant, others⟩ := meant
        obtain _ | ⟨step, folds⟩ := folds
        exact .step ⟨_, meant, step⟩ (ih.mpr ⟨_, others, folds⟩)

/-- A reader of members takes a member and changes the state by it. -/
def ReadsMember (member : σ → Reader σ) (Step : List Char × Tree → σ → σ → Prop) : Prop :=
  ∀ state text next rest, Stops rest →
    (member state ('"' :: text) = .done next rest ↔
      ∃ entry, MemberLeads entry ('"' :: text) rest ∧ Step entry state next)

/-- A row with one more member in front. -/
theorem row_member {entry : List Char × Tree} {others : List (List Char × Tree)}
    {inside : List Char} (behind : Behind first text left)
    (leads : MemberLeads entry left (inside ++ rest))
    (row : Row '\x7d' (Member Tree.Bare) false others inside) :
    ∃ inside, Row '\x7d' (Member Tree.Bare) first (entry :: others) inside ∧
      text = inside ++ rest := by
  obtain ⟨gap, pad, gapBlank, padBlank, rfl⟩ := behind
  obtain ⟨written, shape, rfl⟩ := leads
  exact ⟨_, .entry gapBlank padBlank shape row, by simp⟩

theorem membersFrom_sound (reads : ReadsMember member Step) {fuel : Nat}
    (done : membersFrom member fuel first state text = .done final left)
    (closed : closeObject left = .done () rest) :
    ∃ entries inside, Row '\x7d' (Member Tree.Bare) first entries inside ∧ text = inside ++ rest ∧
      Folds Step entries state final := by
  induction fuel generalizing first text state with
  | zero => cases done
  | succ fuel ih =>
      simp only [membersFrom, bind_apply] at done
      obtain ⟨more, follows, looked, continued⟩ := bind_eq_done_iff.mp done
      obtain ⟨rfl, rfl⟩ | ⟨rfl, behind, tail, rfl⟩ := hasMember_sound looked
      · cases continued
        rw [closeObject_eq_done_iff, List.dropWhile_idempotent] at closed
        obtain ⟨inside, row, whole⟩ := row_close closed
        exact ⟨[], inside, row, whole, .done⟩
      · simp only [if_true, bind_apply] at continued
        obtain ⟨next, middle, memberRead, othersRead⟩ := bind_eq_done_iff.mp continued
        obtain ⟨entries, inside, row, rfl, folds⟩ := ih othersRead
        obtain ⟨entry, leads, step⟩ := (reads _ _ _ _ (row.stops rfl rest)).mp memberRead
        obtain ⟨inside, row, whole⟩ := row_member behind leads row
        exact ⟨entry :: entries, inside, row, whole, .step step folds⟩

theorem membersFrom_complete (reads : ReadsMember member Step)
    {entries : List (List Char × Tree)} {inside : List Char}
    (row : Row '\x7d' (Member Tree.Bare) first entries inside)
    (folds : Folds Step entries state final)
    (rest : List Char) {fuel : Nat} (enough : (inside ++ rest).length < fuel) :
    membersFrom member fuel first state (inside ++ rest) = .done final ('\x7d' :: rest) := by
  induction row generalizing state fuel with
  | @close first gap blank =>
      cases folds
      obtain ⟨fuel, rfl⟩ := Nat.exists_eq_add_one_of_ne_zero (Nat.ne_zero_of_lt enough)
      have closing : (gap ++ ['\x7d'] ++ rest).dropWhile isSpace = '\x7d' :: rest := by
        rw [List.append_assoc, dropWhile_blanks blank]
        rfl
      rw [membersFrom, bind_apply, bind_done (hasMember_close closing)]
      rfl
  | @entry first entry others gap pad written more gapBlank padBlank shape row ih =>
      obtain _ | ⟨step, folds⟩ := folds
      obtain ⟨fuel, rfl⟩ := Nat.exists_eq_add_one_of_ne_zero (Nat.ne_zero_of_lt enough)
      obtain ⟨tail, rfl⟩ : ∃ tail, written = '"' :: tail := by
        cases shape with
        | named => exact ⟨_, rfl⟩
      have memberRead := (reads _ (tail ++ (more ++ rest)) _ _ (row.stops rfl rest)).mpr
        ⟨entry, ⟨_, shape, rfl⟩, step⟩
      have shorter : (more ++ rest).length < fuel := by
        simp only [List.length_append, List.length_cons] at enough ⊢
        omega
      have looked : hasMember first
          (gap ++ (separator first ++ (pad ++ ('"' :: tail ++ more))) ++ rest) =
          .done true ('"' :: (tail ++ (more ++ rest))) := by
        have found := @hasMember_more first gap pad (tail ++ (more ++ rest)) gapBlank padBlank
        simpa using found
      rw [membersFrom, bind_apply, bind_done looked]
      simp only [if_true, bind_apply]
      rw [bind_done memberRead, ih folds shorter]

/-- An object is done where its members have been read up to the closing bracket. -/
theorem readsMembers_members (reads : ReadsMember member Step) :
    ReadsMembers (objectOf (Reader.members member state)) fun entries =>
      Folds Step entries state := by
  intro text final rest
  rw [objectOf_open, enclosed_eq_done_iff]
  constructor
  · rintro ⟨left, done, closed⟩
    exact membersFrom_sound reads done closed
  · rintro ⟨entries, inside, row, rfl, folds⟩
    exact ⟨'\x7d' :: rest, membersFrom_complete reads row folds rest (Nat.lt_succ_self _),
      closeObject_eq_done_iff.mpr rfl⟩

end Members

end DspBridge.Json
