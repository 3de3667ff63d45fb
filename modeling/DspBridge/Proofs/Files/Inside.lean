import DspBridge.Proofs.Files.Path

/-!
# Paths that stay inside a directory

Whether a path leads to something inside a directory can be read off its text.  Behind any directory
such a path has the components of the directory, and after them nothing but names.
-/

namespace DspBridge.Files

/-! ## Paths behind a directory -/

theorem pieces_slash_append (front rest : List Char) :
    pieces (front ++ '/' :: rest) = pieces front ++ pieces rest := by
  induction front with
  | nil => rfl
  | cons char front ih =>
      by_cases slash : char = '/'
      · rw [slash, List.cons_append, pieces_slash, pieces_slash, ih, List.cons_append]
      · rw [List.cons_append, pieces_other slash ih, pieces_other slash rfl]
        rfl

theorem segments_slash (directory path : String) :
    segments (directory ++ "/" ++ path) = segments directory ++ segments path := by
  have cut : (directory ++ "/" ++ path).toList = directory.toList ++ '/' :: path.toList := by
    rw [String.toList_append, String.toList_append, List.append_assoc]
    rfl
  rw [segments_eq, cut, pieces_slash_append, List.map_append]
  rfl

theorem isAbsolute_append {directory : String} (stated : directory ≠ "") (path : String) :
    isAbsolute (directory ++ path) = isAbsolute directory := by
  rw [isAbsolute, isAbsolute, String.toList_append]
  cases chars : directory.toList with
  | nil => exact absurd (String.toList_eq_nil_iff.mp chars) stated
  | cons char rest => rfl

/-- Behind a slash, the first segment of a path is one like the others. -/
theorem components_slash {directory : String} (stated : directory ≠ "") (path : String) :
    components (directory ++ "/" ++ path) =
      components directory ++ (segments path).filterMap innerComponent := by
  obtain ⟨first, others, cut⟩ := List.exists_cons_of_ne_nil (segments_ne_nil directory)
  rw [components, components, segments_slash, cut]
  dsimp only [List.cons_append]
  rw [firstComponent, firstComponent, String.append_assoc, isAbsolute_append stated,
    List.filterMap_append, List.append_assoc]

theorem components_trailing (directory path : String) :
    components (directory ++ "/" ++ path) =
      components (directory ++ "/") ++ (segments path).filterMap innerComponent := by
  obtain ⟨first, others, cut⟩ := List.exists_cons_of_ne_nil (segments_ne_nil directory)
  have bare := segments_slash directory ""
  rw [String.append_empty] at bare
  have stated : directory ++ "/" ≠ "" := by
    rw [ne_eq, String.append_eq_empty_iff]
    exact fun empty => absurd empty.2 (by decide)
  rw [components, components, segments_slash, bare, cut]
  dsimp only [List.cons_append]
  rw [firstComponent, firstComponent, isAbsolute_append stated, List.filterMap_append,
    List.filterMap_append, List.append_assoc, List.append_assoc]
  rfl

theorem join_empty (path : String) : join "" path = path := by
  rw [join]
  split
  · rfl
  · exact String.empty_append

/-- Behind a directory, a relative path is its segments. -/
theorem components_join {directory path : String} (stated : directory ≠ "")
    (relative : isAbsolute path = false) :
    components (join directory path) =
      components directory ++ (segments path).filterMap innerComponent := by
  rw [join, if_neg (by rw [relative]; exact Bool.false_ne_true)]
  split
  · rename_i slashed
    rw [Bool.or_eq_true, String.isEmpty_iff, beq_iff_eq, List.getLast?_eq_some_iff] at slashed
    obtain ⟨front, cut⟩ := slashed.resolve_left stated
    have whole : directory = String.ofList front ++ "/" := by
      rw [← String.toList_inj, cut, String.toList_append, String.toList_ofList]
      rfl
    rw [whole]
    exact components_trailing _ path
  · exact components_slash stated path

/-! ## Ordinary paths -/

/-- A name that stands for itself in a path. -/
structure Ordinary (name : String) : Prop where
  plain : '/' ∉ name.toList
  stated : name ≠ ""
  notCurrent : name ≠ "."
  notParent : name ≠ ".."

/-- Whether a path leads inside a directory, by its text: it is not empty, does not start with a
slash or with a dot as its first segment, and no segment leads out of a directory. -/
def Inward (path : String) : Prop :=
  path ≠ "" ∧ path.toList.head? ≠ some '/' ∧ (segments path).head? ≠ some "." ∧
    ".." ∉ segments path

instance : DecidablePred Inward := fun _ => inferInstanceAs (Decidable (_ ∧ _ ∧ _ ∧ _))

/-- A path that leads inside whatever directory it is joined to: what is added to the components of
the directory is one name or more. -/
structure Inside (path : String) (names : List String) : Prop where
  somewhere : names ≠ []
  ordinary : ∀ name ∈ names, Ordinary name
  joined : ∀ directory, components (join directory path) = components directory ++ names.map .name

theorem isAbsolute_eq_false_iff {path : String} :
    isAbsolute path = false ↔ path.toList.head? ≠ some '/' := by
  rw [isAbsolute, beq_eq_false_iff_ne]

/-- The segments of an inward path that make a difference lead below a directory. -/
theorem below?_eq (path : String) :
    below? path = if Inward path then some ((segments path).filter isName) else none := by
  split
  · rename_i inward
    obtain ⟨stated, relative, notCurrent, notParent⟩ := inward
    exact below?_eq_some_iff.mpr
      ⟨stated, isAbsolute_eq_false_iff.mpr relative, notCurrent, notParent, rfl⟩
  · rename_i outward
    rw [Option.eq_none_iff_forall_ne_some]
    intro names below
    obtain ⟨stated, relative, notCurrent, notParent, -⟩ := below?_eq_some_iff.mp below
    exact outward ⟨stated, isAbsolute_eq_false_iff.mp relative, notCurrent, notParent⟩

theorem filterMap_innerComponent {others : List String} (inward : ".." ∉ others) :
    others.filterMap innerComponent = (others.filter isName).map .name := by
  induction others with
  | nil => rfl
  | cons segment others ih =>
      rw [List.mem_cons, not_or] at inward
      rw [List.filterMap_cons, innerComponent_name (Ne.symm inward.1), List.filter_cons,
        ih inward.2]
      cases isName segment <;> rfl

theorem components_relative {path : String} (relative : isAbsolute path = false)
    (notCurrent : (segments path).head? ≠ some ".") :
    components path = (segments path).filterMap innerComponent := by
  obtain ⟨first, others, cut⟩ := List.exists_cons_of_ne_nil (segments_ne_nil path)
  rw [cut, List.head?_cons, ne_eq, Option.some.injEq] at notCurrent
  rw [components, cut]
  dsimp only
  rw [firstComponent, relative, List.filterMap_cons]
  simp only [Bool.false_eq_true, if_false, beq_iff_eq, notCurrent]
  cases innerComponent first <;> rfl

/-- A relative path that is not empty starts with a segment that is not empty. -/
theorem head_segments {path : String} (stated : path ≠ "") (relative : isAbsolute path = false) :
    (segments path).head? ≠ some "" := by
  rw [isAbsolute_eq_false_iff] at relative
  rw [segments_eq]
  cases chars : path.toList with
  | nil => exact absurd (String.toList_eq_nil_iff.mp chars) stated
  | cons char rest =>
      rw [chars, List.head?_cons, ne_eq, Option.some.injEq] at relative
      rw [pieces_other relative rfl, List.map_cons, List.head?_cons, ne_eq, Option.some.injEq,
        ← String.toList_inj, String.toList_ofList]
      exact List.cons_ne_nil _ _

theorem isName_iff {segment : String} : isName segment = true ↔ segment ≠ "" ∧ segment ≠ "." := by
  simp [isName]

theorem inside_of_below? {path : String} {names : List String} (below : below? path = some names) :
    Inside path names := by
  obtain ⟨stated, relative, notCurrent, notParent, rfl⟩ := below?_eq_some_iff.mp below
  refine ⟨?_, ?_, ?_⟩
  · have notEmpty := head_segments stated relative
    obtain ⟨first, others, cut⟩ := List.exists_cons_of_ne_nil (segments_ne_nil path)
    rw [cut, List.head?_cons, ne_eq, Option.some.injEq] at notEmpty notCurrent
    rw [cut, List.filter_cons_of_pos (isName_iff.mpr ⟨notEmpty, notCurrent⟩)]
    exact List.cons_ne_nil _ _
  · intro name member
    rw [List.mem_filter, isName_iff] at member
    obtain ⟨member, notEmpty, notDot⟩ := member
    refine ⟨not_mem_of_mem_segments member, notEmpty, notDot, ?_⟩
    rintro rfl
    exact notParent member
  · intro directory
    rw [← filterMap_innerComponent notParent]
    by_cases nowhere : directory = ""
    · rw [nowhere, join_empty, components_relative relative notCurrent]
      rfl
    · exact components_join nowhere relative

theorem mapM_name? (names : List String) :
    (names.map Component.name).mapM Component.name? = some names := by
  induction names with
  | nil => rfl
  | cons name names ih =>
      rw [List.map_cons, List.mapM_cons, ih]
      rfl

/-- A path leads below a directory just when it leads inside every directory. -/
theorem below?_eq_some_iff_inside {path : String} {names : List String} :
    below? path = some names ↔ Inside path names := by
  refine ⟨inside_of_below?, ?_⟩
  intro inside
  have own : components path = names.map .name := by
    have joined := inside.joined ""
    rw [join_empty] at joined
    exact joined
  have stated : path ≠ "" := by
    rintro rfl
    exact inside.somewhere (List.map_eq_nil_iff.mp own.symm)
  rw [below?, if_neg (String.isEmpty_iff.not.mpr stated), own, mapM_name?]

end DspBridge.Files
