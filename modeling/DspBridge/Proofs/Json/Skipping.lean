import DspBridge.Proofs.Json.Rows

/-!
# Passing over values

Passing over a value takes any text that writes a tree, however deep and whatever its literals stand
for.  What the frames around a value still need of the text is written down as `Completes`; the
steps of the passing are counted by the characters that are left.
-/

namespace DspBridge.Json

open Reader

/-! ## Rows of either kind -/

/-- What stands before the value of an entry: a name and a colon in an object. -/
inductive Frame.Names : Frame → List Char → Prop where
  | array : Names .array []
  | object {body gap : List Char} : IsBody body → Blanks gap →
      Names .object ('"' :: (body ++ '"' :: (gap ++ [':'])))

/-- The texts of the rows in a frame, whatever their entries are. -/
inductive Frame.Row (frame : Frame) : (first : Bool) → List Char → Prop where
  | close {first : Bool} {gap : List Char} : Blanks gap → Row frame first (gap ++ [frame.closer])
  | entry {first : Bool} {tree : Tree} {gap pad names inner bare more : List Char} :
      Blanks gap → Blanks pad → frame.Names names → Blanks inner → tree.Bare bare →
      Row frame false more →
      Row frame first (gap ++ (separator first ++ (pad ++ (names ++ (inner ++ (bare ++ more))))))

section Rows

variable {first : Bool} {inside : List Char}

theorem Frame.row_array_iff :
    Frame.array.Row first inside ↔ ∃ items, Json.Row ']' Tree.Bare first items inside := by
  constructor
  · intro row
    induction row with
    | close blank => exact ⟨[], .close blank⟩
    | @entry first tree gap pad names inner bare more gapBlank padBlank named innerBlank written _
        ih =>
        obtain ⟨items, row⟩ := ih
        cases named
        have whole : Json.Row ']' Tree.Bare first (tree :: items) _ :=
          .entry gapBlank (blanks_append padBlank innerBlank) written row
        exact ⟨_, by simpa using whole⟩
  · rintro ⟨items, row⟩
    induction row with
    | close blank => exact .close blank
    | @entry first _ _ _ _ _ _ gapBlank padBlank written _ ih =>
        have whole : Frame.array.Row first _ :=
          .entry gapBlank padBlank .array blanks_nil written ih
        simpa using whole

theorem Frame.row_object_iff :
    Frame.object.Row first inside ↔
      ∃ members, Json.Row '\x7d' (Member Tree.Bare) first members inside := by
  constructor
  · intro row
    induction row with
    | close blank => exact ⟨[], .close blank⟩
    | @entry first tree gap pad names inner bare more gapBlank padBlank named innerBlank written _
        ih =>
        obtain ⟨members, row⟩ := ih
        cases named with
        | object shape nameBlank =>
            have whole : Json.Row '\x7d' (Member Tree.Bare) first _ _ :=
              .entry gapBlank padBlank (.named shape nameBlank innerBlank written) row
            exact ⟨_, by simpa using whole⟩
  · rintro ⟨members, row⟩
    induction row with
    | close blank => exact .close blank
    | @entry first _ _ _ _ _ _ gapBlank padBlank shape _ ih =>
        cases shape with
        | named shape nameBlank valueBlank written =>
            have whole : Frame.object.Row first _ :=
              .entry gapBlank padBlank (.object shape nameBlank) valueBlank written ih
            simpa using whole

/-- Behind an entry of a row no number goes on. -/
theorem Frame.Row.stops {frame : Frame} (row : frame.Row false inside) (rest : List Char) :
    Stops (inside ++ rest) := by
  cases frame with
  | array =>
      obtain ⟨_, row⟩ := Frame.row_array_iff.mp row
      exact row.stops rfl rest
  | object =>
      obtain ⟨_, row⟩ := Frame.row_object_iff.mp row
      exact row.stops rfl rest

end Rows

/-- A text goes on with all that the frames around a value need, the innermost first, and then with
the rest. -/
inductive Completes : List Frame → List Char → List Char → Prop where
  | done {rest : List Char} : Completes [] rest rest
  | frame {frame : Frame} {frames : List Frame} {inside left rest : List Char} :
      frame.Row false inside → Completes frames left rest →
      Completes (frame :: frames) (inside ++ left) rest

theorem Completes.stops {frames : List Frame} {text rest : List Char}
    (completes : Completes frames text rest) (stops : Stops rest) : Stops text := by
  cases completes with
  | done => exact stops
  | frame row _ => exact row.stops _

/-! ## Names -/

section Names

variable {frame : Frame} {text left : List Char}

theorem skipString_eq_done_iff :
    skipString ('"' :: text) = .done () left ↔ ∃ body, IsBody body ∧ text = body ++ '"' :: left :=
  skipStringBody_eq_done_iff

/-- Passing over a name reads as passing over its string and then a colon. -/
theorem skipName_quoted (quoted : text.dropWhile isSpace = '"' :: left) :
    skipName text = skipString.bind (fun _ => colon) ('"' :: left) := by
  simp only [skipName, bind_apply, peekSolid_bind, quoted]
  rfl

theorem skipName_sound (passed : skipName text = .done () left) :
    ∃ pad names, Blanks pad ∧ Frame.object.Names names ∧ text = pad ++ (names ++ left) := by
  obtain ⟨pad, padBlank, whole⟩ := exists_gap text
  cases split : text.dropWhile isSpace with
  | nil =>
      simp only [skipName, bind_apply, peekSolid_bind, split] at passed
      cases passed
  | cons c tail =>
      by_cases quote : c = '"'
      · subst quote
        rw [skipName_quoted split] at passed
        obtain ⟨_, behind, stringPassed, colonPassed⟩ := bind_eq_done_iff.mp passed
        obtain ⟨body, shape, rfl⟩ := skipString_eq_done_iff.mp stringPassed
        obtain ⟨gap, gapBlank, behindWhole⟩ := exists_gap behind
        rw [colon_eq_done_iff.mp colonPassed] at behindWhole
        refine ⟨pad, _, padBlank, .object shape gapBlank, ?_⟩
        rw [whole, split, behindWhole]
        simp
      · simp only [skipName, bind_apply, peekSolid_bind, split, List.head?_cons, if_apply,
          beq_iff_eq, quote, if_false] at passed
        cases passed

theorem skipName_complete {pad names : List Char} (padBlank : Blanks pad)
    (named : Frame.object.Names names) (left : List Char) :
    skipName (pad ++ (names ++ left)) = .done () left := by
  cases named with
  | @object body gap shape gapBlank =>
      have quoted : (pad ++ ('"' :: (body ++ '"' :: (gap ++ [':'])) ++ left)).dropWhile isSpace =
          '"' :: (body ++ '"' :: (gap ++ ':' :: left)) := by
        rw [dropWhile_blanks padBlank]
        simp [isSpace]
      have colonStands : (gap ++ ':' :: left).dropWhile isSpace = ':' :: left := by
        rw [dropWhile_blanks gapBlank]
        rfl
      rw [skipName_quoted quoted, bind_done (skipString_eq_done_iff.mpr ⟨body, shape, rfl⟩)]
      exact colon_eq_done_iff.mpr colonStands

theorem skipNameIn_sound (passed : skipNameIn frame text = .done () left) :
    ∃ pad names, Blanks pad ∧ frame.Names names ∧ text = pad ++ (names ++ left) := by
  cases frame with
  | array =>
      cases passed
      exact ⟨[], [], blanks_nil, .array, rfl⟩
  | object => exact skipName_sound passed

/-- Blanks in front of a value without a name may be left for the value. -/
theorem skipNameIn_complete {pad names : List Char} (padBlank : Blanks pad)
    (named : frame.Names names) (left : List Char) :
    ∃ leftover, Blanks leftover ∧ leftover.length ≤ pad.length ∧
      skipNameIn frame (pad ++ (names ++ left)) = .done () (leftover ++ left) := by
  cases frame with
  | array =>
      cases named
      exact ⟨pad, padBlank, le_refl _, rfl⟩
  | object => exact ⟨[], blanks_nil, Nat.zero_le _, skipName_complete padBlank named left⟩

end Names

/-! ## Soundness -/

section Soundness

/-- With some fuel nothing is passed over but what the grammar allows, at each of the three places
of a value. -/
structure SkipsOnly (fuel : Nat) : Prop where
  value {frames : List Frame} {text rest : List Char} : Stops rest →
    skipFrom fuel frames text = .done () rest →
    ∃ tree left, Tree.Leads tree text left ∧ Completes frames left rest
  opened {frame : Frame} {frames : List Frame} {text rest : List Char} : Stops rest →
    skipOpened fuel frame frames text = .done () rest →
    ∃ inside left, frame.Row true inside ∧ text = inside ++ left ∧ Completes frames left rest
  after {frames : List Frame} {text rest : List Char} : Stops rest →
    skipAfter fuel frames text = .done () rest → Completes frames text rest

variable {fuel : Nat} {frame : Frame} {frames : List Frame} {text rest : List Char}

theorem word_bind_eq_done_iff {letters : List Char} {next : Reader Unit} :
    (word letters).bind (fun _ => next) text = .done () rest ↔
      ∃ left, text = letters ++ left ∧ next left = .done () rest := by
  rw [bind_eq_done_iff]
  constructor
  · rintro ⟨_, left, passed, done⟩
    exact ⟨left, word_eq_done_iff.mp passed, done⟩
  · rintro ⟨left, split, done⟩
    exact ⟨(), left, word_eq_done_iff.mpr split, done⟩

theorem SkipsOnly.value_succ (only : SkipsOnly fuel) (stops : Stops rest)
    (passed : skipFrom (fuel + 1) frames text = .done () rest) :
    ∃ tree left, Tree.Leads tree text left ∧ Completes frames left rest := by
  simp only [skipFrom, bind_apply, peekSolid_bind] at passed
  cases split : text.dropWhile isSpace with
  | nil =>
      rw [split] at passed
      cases passed
  | cons c tail =>
      rw [split] at passed
      simp only [List.head?_cons, if_apply, beq_iff_eq, bind_apply, advance_bind, List.tail_cons,
        failNext_apply] at passed
      split at passed
      next null =>
        subst null
        obtain ⟨left, rfl, done⟩ := word_bind_eq_done_iff.mp passed
        exact ⟨.null, left, Tree.IsWord.null.leads_iff.mpr split, only.after stops done⟩
      split at passed
      next true =>
        subst true
        obtain ⟨left, rfl, done⟩ := word_bind_eq_done_iff.mp passed
        exact ⟨.bool true, left, Tree.IsWord.yes.leads_iff.mpr split, only.after stops done⟩
      split at passed
      next false =>
        subst false
        obtain ⟨left, rfl, done⟩ := word_bind_eq_done_iff.mp passed
        exact ⟨.bool false, left, Tree.IsWord.no.leads_iff.mpr split, only.after stops done⟩
      split at passed
      next =>
        obtain ⟨_, left, numberPassed, done⟩ := bind_eq_done_iff.mp passed
        have completes := only.after stops done
        obtain ⟨literal, shape, whole⟩ :=
          (skipNumber_eq_done_iff (completes.stops stops)).mp numberPassed
        exact ⟨.number literal, left, Tree.leads_number_iff.mpr ⟨shape, split.trans whole⟩,
          completes⟩
      split at passed
      next quote =>
        subst quote
        obtain ⟨_, left, stringPassed, done⟩ := bind_eq_done_iff.mp passed
        obtain ⟨body, shape, rfl⟩ := skipString_eq_done_iff.mp stringPassed
        exact ⟨.string body, left, Tree.leads_string_iff.mpr ⟨shape, split⟩,
          only.after stops done⟩
      split at passed
      next bracket =>
        subst bracket
        obtain ⟨inside, left, row, rfl, completes⟩ := only.opened stops passed
        obtain ⟨items, row⟩ := Frame.row_array_iff.mp row
        exact ⟨.array items, left, Tree.leads_array_iff.mpr ⟨inside, row, split⟩, completes⟩
      split at passed
      next brace =>
        subst brace
        obtain ⟨inside, left, row, rfl, completes⟩ := only.opened stops passed
        obtain ⟨members, row⟩ := Frame.row_object_iff.mp row
        exact ⟨.object members, left, Tree.leads_object_iff.mpr ⟨inside, row, split⟩, completes⟩
      cases passed

/-- An entry that is passed over behind its separator stands in a row of the frame. -/
theorem SkipsOnly.entry (only : SkipsOnly fuel) (stops : Stops rest) {gap tail : List Char}
    {first : Bool} (blank : Blanks gap)
    (passed : (skipNameIn frame).bind (fun _ => skipFrom fuel (frame :: frames)) tail =
      .done () rest) :
    ∃ inside left, frame.Row first inside ∧ gap ++ (separator first ++ tail) = inside ++ left ∧
      Completes frames left rest := by
  obtain ⟨_, middle, named, continued⟩ := bind_eq_done_iff.mp passed
  obtain ⟨pad, names, padBlank, spelled, rfl⟩ := skipNameIn_sound named
  obtain ⟨tree, _, ⟨inner, bare, innerBlank, written, rfl⟩, completes⟩ :=
    only.value stops continued
  cases completes with
  | @frame _ _ more left _ row completes =>
      exact ⟨_, left, .entry blank padBlank spelled innerBlank written row, by simp, completes⟩

theorem SkipsOnly.opened_succ (only : SkipsOnly fuel) (stops : Stops rest)
    (passed : skipOpened (fuel + 1) frame frames text = .done () rest) :
    ∃ inside left, frame.Row true inside ∧ text = inside ++ left ∧ Completes frames left rest := by
  obtain ⟨gap, blank, whole⟩ := exists_gap text
  simp only [skipOpened, bind_apply, peekSolid_bind] at passed
  generalize text.dropWhile isSpace = solid at passed whole
  cases solid with
  | nil => cases passed
  | cons c tail =>
      simp only [List.head?_cons, if_apply, beq_iff_eq, bind_apply, advance_bind, List.tail_cons]
        at passed
      split at passed
      next closing =>
        exact ⟨gap ++ [frame.closer], tail, .close blank, by simp [whole, closing],
          only.after stops passed⟩
      next =>
        rw [whole]
        exact only.entry stops blank passed

theorem SkipsOnly.after_succ (only : SkipsOnly fuel) (stops : Stops rest)
    (passed : skipAfter (fuel + 1) frames text = .done () rest) : Completes frames text rest := by
  cases frames with
  | nil =>
      cases passed
      exact .done
  | cons frame frames =>
      obtain ⟨gap, blank, whole⟩ := exists_gap text
      simp only [skipAfter, bind_apply, peekSolid_bind] at passed
      generalize text.dropWhile isSpace = solid at passed whole
      cases solid with
      | nil => cases passed
      | cons c tail =>
          simp only [List.head?_cons, if_apply, beq_iff_eq, bind_apply, advance_bind,
            List.tail_cons] at passed
          split at passed
          next comma =>
            subst comma
            obtain ⟨inside, left, row, split, completes⟩ :=
              @SkipsOnly.entry _ _ _ _ only stops gap tail false blank passed
            rw [whole, show gap ++ ',' :: tail = inside ++ left from split]
            exact .frame row completes
          next =>
            split at passed
            next closing =>
              have row : frame.Row false (gap ++ [frame.closer]) := .close blank
              rw [whole, closing, List.append_cons]
              exact .frame row (only.after stops passed)
            next => cases passed

/-- Whatever the fuel, only what stands in the grammar is passed over. -/
theorem skipsOnly (fuel : Nat) : SkipsOnly fuel := by
  induction fuel with
  | zero =>
      refine ⟨fun _ passed => (nomatch passed), fun _ passed => (nomatch passed), ?_⟩
      intro frames text rest _ passed
      cases frames with
      | nil =>
          cases passed
          exact .done
      | cons frame frames => cases passed
  | succ fuel ih => exact ⟨ih.value_succ, ih.opened_succ, ih.after_succ⟩

end Soundness

/-! ## Completeness -/

section Completeness

/-- With some fuel all that the grammar allows is passed over, if the text is short enough, at each
of the three places of a value. -/
structure SkipsAll (fuel : Nat) : Prop where
  value {tree : Tree} {frames : List Frame} {text left rest : List Char} : Stops rest →
    tree.Leads text left → Completes frames left rest → 2 * text.length + 1 ≤ fuel →
    skipFrom fuel frames text = .done () rest
  opened {frame : Frame} {frames : List Frame} {inside left rest : List Char} : Stops rest →
    frame.Row true inside → Completes frames left rest → 2 * (inside ++ left).length + 2 ≤ fuel →
    skipOpened fuel frame frames (inside ++ left) = .done () rest
  after {frames : List Frame} {text rest : List Char} : Stops rest →
    Completes frames text rest → 2 * text.length + 1 ≤ fuel →
    skipAfter fuel frames text = .done () rest

variable {fuel : Nat} {frame : Frame} {frames : List Frame} {text left rest : List Char}

theorem skipFrom_number {c : Char} (starts : startsNumber c = true)
    (split : text.dropWhile isSpace = c :: rest) :
    skipFrom (fuel + 1) frames text =
      skipNumber.bind (fun _ => skipAfter fuel frames) (c :: rest) := by
  have sign : (c == '-' || c.isDigit) = true := starts
  have null : c ≠ 'n' := ne_of_test starts rfl
  have true : c ≠ 't' := ne_of_test starts rfl
  have false : c ≠ 'f' := ne_of_test starts rfl
  simp only [skipFrom, bind_apply, peekSolid_bind, split, List.head?_cons, if_apply, beq_iff_eq,
    null, true, false, sign, if_true, if_false]

theorem skipFrom_word {tree : Tree} {c : Char} {letters : List Char}
    (known : tree.IsWord c letters)
    (split : text.dropWhile isSpace = c :: (letters ++ left)) :
    skipFrom (fuel + 1) frames text = skipAfter fuel frames left := by
  have passed : (word letters).bind (fun _ => skipAfter fuel frames) (letters ++ left) =
      skipAfter fuel frames left := bind_done (word_eq_done_iff.mpr rfl)
  simp only [skipFrom, bind_apply, peekSolid_bind, split, List.head?_cons]
  cases known <;> exact passed

theorem skipFrom_string (split : text.dropWhile isSpace = '"' :: rest) :
    skipFrom (fuel + 1) frames text =
      skipString.bind (fun _ => skipAfter fuel frames) ('"' :: rest) := by
  simp only [skipFrom, bind_apply, peekSolid_bind, split]
  rfl

theorem skipFrom_array (split : text.dropWhile isSpace = '[' :: rest) :
    skipFrom (fuel + 1) frames text = skipOpened fuel .array frames rest := by
  simp only [skipFrom, bind_apply, peekSolid_bind, split]
  rfl

theorem skipFrom_object (split : text.dropWhile isSpace = '\x7b' :: rest) :
    skipFrom (fuel + 1) frames text = skipOpened fuel .object frames rest := by
  simp only [skipFrom, bind_apply, peekSolid_bind, split]
  rfl

theorem SkipsAll.value_succ (all : SkipsAll fuel) {tree : Tree} (stops : Stops rest)
    (leads : tree.Leads text left) (completes : Completes frames left rest)
    (enough : 2 * text.length + 1 ≤ fuel + 1) :
    skipFrom (fuel + 1) frames text = .done () rest := by
  have solid : (text.dropWhile isSpace).length ≤ text.length :=
    (List.dropWhile_sublist _).length_le
  have after (shorter : left.length < (text.dropWhile isSpace).length) :
      skipAfter fuel frames left = .done () rest :=
    all.after stops completes (by omega)
  have word {c : Char} {letters : List Char} (known : tree.IsWord c letters) :
      skipFrom (fuel + 1) frames text = .done () rest := by
    have split := known.leads_iff.mp leads
    rw [skipFrom_word known split]
    exact after (by simp only [split, List.length_cons, List.length_append]; omega)
  cases tree with
  | null => exact word .null
  | bool value =>
      cases value with
      | true => exact word .yes
      | false => exact word .no
  | number literal =>
      obtain ⟨shape, split⟩ := Tree.leads_number_iff.mp leads
      have passed := (skipNumber_eq_done_iff (completes.stops stops)).mpr ⟨literal, shape, rfl⟩
      obtain ⟨c, tail, rfl, starts⟩ := shape.exists_head
      rw [List.cons_append] at split passed
      rw [skipFrom_number starts split, bind_done passed]
      exact after (by simp only [split, List.length_cons, List.length_append]; omega)
  | string body =>
      obtain ⟨shape, split⟩ := Tree.leads_string_iff.mp leads
      rw [skipFrom_string split, bind_done (skipString_eq_done_iff.mpr ⟨body, shape, rfl⟩)]
      exact after (by simp only [split, List.length_cons, List.length_append]; omega)
  | array items =>
      obtain ⟨inside, row, split⟩ := Tree.leads_array_iff.mp leads
      rw [split, List.length_cons] at solid
      rw [skipFrom_array split]
      exact all.opened stops (Frame.row_array_iff.mpr ⟨items, row⟩) completes (by omega)
  | object members =>
      obtain ⟨inside, row, split⟩ := Tree.leads_object_iff.mp leads
      rw [split, List.length_cons] at solid
      rw [skipFrom_object split]
      exact all.opened stops (Frame.row_object_iff.mpr ⟨members, row⟩) completes (by omega)

/-- Behind the separator of an entry, its name and its value are passed over. -/
theorem SkipsAll.entry (all : SkipsAll fuel) {tree : Tree}
    {pad names inner bare more : List Char} (stops : Stops rest) (padBlank : Blanks pad)
    (spelled : frame.Names names) (innerBlank : Blanks inner) (written : tree.Bare bare)
    (row : frame.Row false more) (completes : Completes frames left rest)
    (enough : 2 * (pad ++ (names ++ (inner ++ (bare ++ (more ++ left))))).length + 1 ≤ fuel) :
    (skipNameIn frame).bind (fun _ => skipFrom fuel (frame :: frames))
      (pad ++ (names ++ (inner ++ (bare ++ (more ++ left))))) = .done () rest := by
  obtain ⟨leftover, blank, fits, passed⟩ :=
    skipNameIn_complete padBlank spelled (inner ++ (bare ++ (more ++ left)))
  have leads : tree.Leads (leftover ++ (inner ++ (bare ++ (more ++ left)))) (more ++ left) :=
    ⟨leftover ++ inner, bare, blanks_append blank innerBlank, written, by simp⟩
  rw [bind_done passed]
  apply all.value stops leads (.frame row completes)
  simp only [List.length_append] at enough ⊢
  omega

theorem skipOpened_solid {c : Char} {tail : List Char}
    (split : text.dropWhile isSpace = c :: tail) :
    skipOpened (fuel + 1) frame frames text =
      if c = frame.closer then skipAfter fuel frames tail
      else (skipNameIn frame).bind (fun _ => skipFrom fuel (frame :: frames)) (c :: tail) := by
  simp only [skipOpened, bind_apply, peekSolid_bind, split, List.head?_cons, if_apply, beq_iff_eq,
    advance_bind, List.tail_cons]

theorem skipAfter_solid {c : Char} {tail : List Char}
    (split : text.dropWhile isSpace = c :: tail) :
    skipAfter (fuel + 1) (frame :: frames) text =
      if c = ',' then (skipNameIn frame).bind (fun _ => skipFrom fuel (frame :: frames)) tail
      else if c = frame.closer then skipAfter fuel frames tail
      else .failed ⟨frame.commaCause, c :: tail, 1⟩ := by
  simp only [skipAfter, bind_apply, peekSolid_bind, split, List.head?_cons, if_apply, beq_iff_eq,
    advance_bind, List.tail_cons, failNext_apply]

theorem Frame.dropWhile_close (frame : Frame) {gap : List Char} (blank : Blanks gap) :
    (gap ++ [frame.closer] ++ left).dropWhile isSpace = frame.closer :: left := by
  rw [List.append_assoc, dropWhile_blanks blank]
  cases frame <;> rfl

/-- Without the blanks in front of it, an entry begins with its name or, in an array, with its
value. -/
theorem Frame.Names.exists_solid {tree : Tree} {names pad inner bare : List Char}
    (spelled : frame.Names names) (padBlank : Blanks pad) (innerBlank : Blanks inner)
    (written : tree.Bare bare) :
    ∃ leftover c tail, Blanks leftover ∧ c ≠ frame.closer ∧
      (pad ++ (names ++ (inner ++ (bare ++ left)))).dropWhile isSpace = c :: tail ∧
      c :: tail = names ++ (leftover ++ (bare ++ left)) := by
  rw [dropWhile_blanks padBlank]
  cases spelled with
  | array =>
      obtain ⟨c, tail, rfl, opens⟩ := written.exists_head
      refine ⟨[], c, tail ++ left, blanks_nil, opens.ne_close, ?_, rfl⟩
      rw [List.nil_append, dropWhile_blanks innerBlank, List.cons_append,
        dropWhile_solid opens.solid]
  | object => exact ⟨inner, '"', _, innerBlank, by decide, dropWhile_solid rfl _, rfl⟩

theorem SkipsAll.opened_succ (all : SkipsAll fuel) {inside : List Char} (stops : Stops rest)
    (row : frame.Row true inside) (completes : Completes frames left rest)
    (enough : 2 * (inside ++ left).length + 2 ≤ fuel + 1) :
    skipOpened (fuel + 1) frame frames (inside ++ left) = .done () rest := by
  have solid : ((inside ++ left).dropWhile isSpace).length ≤ (inside ++ left).length :=
    (List.dropWhile_sublist _).length_le
  cases row with
  | close blank =>
      rw [frame.dropWhile_close blank, List.length_cons] at solid
      rw [skipOpened_solid (frame.dropWhile_close blank), if_pos rfl]
      exact all.after stops completes (by omega)
  | @entry _ tree gap pad names inner bare more gapBlank padBlank spelled innerBlank written row =>
      obtain ⟨leftover, c, tail, blank, other, split, whole⟩ :=
        @Frame.Names.exists_solid frame (more ++ left) _ _ (gap ++ pad) _ _ spelled
          (blanks_append gapBlank padBlank) innerBlank written
      have front : (gap ++ (separator true ++ (pad ++ (names ++ (inner ++ (bare ++ more))))) ++
          left).dropWhile isSpace = c :: tail := by
        rw [← split]
        simp [separator]
      rw [front, whole] at solid
      have passed := all.entry stops blanks_nil spelled blank written row completes
        (by rw [List.nil_append]; omega)
      rw [List.nil_append, ← whole] at passed
      rw [skipOpened_solid front, if_neg other, passed]

theorem SkipsAll.after_succ (all : SkipsAll fuel) (stops : Stops rest)
    (completes : Completes frames text rest) (enough : 2 * text.length + 1 ≤ fuel + 1) :
    skipAfter (fuel + 1) frames text = .done () rest := by
  have solid : (text.dropWhile isSpace).length ≤ text.length :=
    (List.dropWhile_sublist _).length_le
  cases completes with
  | done => rfl
  | @frame frame frames _ left _ row completes =>
      cases row with
      | close blank =>
          rw [frame.dropWhile_close blank, List.length_cons] at solid
          have other : frame.closer ≠ ',' := by cases frame <;> decide
          rw [skipAfter_solid (frame.dropWhile_close blank), if_neg other, if_pos rfl]
          exact all.after stops completes (by omega)
      | @entry _ tree gap pad names inner bare more gapBlank padBlank spelled innerBlank written
          row =>
          have front : (gap ++ (separator false ++ (pad ++ (names ++ (inner ++ (bare ++ more))))) ++
              left).dropWhile isSpace =
              ',' :: (pad ++ (names ++ (inner ++ (bare ++ (more ++ left))))) := by
            rw [List.append_assoc, dropWhile_blanks gapBlank]
            simp [separator, isSpace]
          rw [front, List.length_cons] at solid
          rw [skipAfter_solid front, if_pos rfl]
          exact all.entry stops padBlank spelled innerBlank written row completes (by omega)

/-- As much fuel as twice the characters of the text, and a little more, is enough. -/
theorem skipsAll (fuel : Nat) : SkipsAll fuel := by
  induction fuel with
  | zero => exact ⟨fun _ _ _ enough => by omega, fun _ _ _ enough => by omega,
      fun _ _ enough => by omega⟩
  | succ fuel ih => exact ⟨ih.value_succ, ih.opened_succ, ih.after_succ⟩

end Completeness

/-- Any tree is passed over, and nothing else. -/
theorem reads_skip : Reads skip fun _ _ => True := by
  intro text value rest stops
  constructor
  · intro passed
    obtain ⟨tree, left, leads, completes⟩ := (skipsOnly _).value stops passed
    cases completes
    exact ⟨tree, leads, trivial⟩
  · rintro ⟨tree, leads, -⟩
    exact (skipsAll _).value stops leads .done (Nat.le_succ _)

end DspBridge.Json
