import DspBridge.Files.Path
import Mathlib.Data.List.Basic

/-!
# Names on a path

The names that a path stands for are those of its segments that make a difference.  An ending that
is put behind a path changes its last segment and nothing else, so whether a path leads below a
directory does not depend on its ending.
-/

namespace DspBridge.Files

/-! ## Cutting at slashes -/

/-- The runs of characters between slashes. -/
def pieces (chars : List Char) : List (List Char) := (cutSlashes chars).1 :: (cutSlashes chars).2

theorem pieces_slash (rest : List Char) : pieces ('/' :: rest) = [] :: pieces rest := rfl

theorem pieces_other {char : Char} (other : char ≠ '/') {rest first : List Char}
    {others : List (List Char)} (cut : pieces rest = first :: others) :
    pieces (char :: rest) = (char :: first) :: others := by
  rw [pieces, List.cons.injEq] at cut
  simp only [pieces, cutSlashes, beq_iff_eq, other, if_false, cut]

theorem pieces_plain {chars : List Char} (plain : '/' ∉ chars) : pieces chars = [chars] := by
  induction chars with
  | nil => rfl
  | cons char rest ih =>
      rw [List.mem_cons, not_or] at plain
      exact pieces_other (Ne.symm plain.1) (ih plain.2)

/-- Text without slashes goes to the last piece. -/
theorem pieces_append (chars : List Char) :
    ∃ front last, pieces chars = front ++ [last] ∧
      ∀ plain : List Char, '/' ∉ plain → pieces (chars ++ plain) = front ++ [last ++ plain] := by
  induction chars with
  | nil =>
      refine ⟨[], [], rfl, ?_⟩
      intro plain free
      exact pieces_plain free
  | cons char rest ih =>
      obtain ⟨front, last, whole, appended⟩ := ih
      by_cases slash : char = '/'
      · rw [slash]
        refine ⟨[] :: front, last, ?_, ?_⟩
        · rw [pieces_slash, whole, List.cons_append]
        · intro plain free
          rw [List.cons_append, pieces_slash, appended plain free, List.cons_append]
      · cases front with
        | nil =>
            refine ⟨[], char :: last, pieces_other slash whole, ?_⟩
            intro plain free
            exact pieces_other slash (appended plain free)
        | cons first front =>
            refine ⟨(char :: first) :: front, last, pieces_other slash whole, ?_⟩
            intro plain free
            exact pieces_other slash (appended plain free)

/-- No piece has a slash in it. -/
theorem not_mem_of_mem_pieces {chars piece : List Char} (member : piece ∈ pieces chars) :
    '/' ∉ piece := by
  induction chars generalizing piece with
  | nil =>
      rw [List.mem_singleton.mp member]
      exact List.not_mem_nil
  | cons char rest ih =>
      by_cases slash : char = '/'
      · rw [slash, pieces_slash] at member
        rcases List.mem_cons.mp member with rfl | member
        · exact List.not_mem_nil
        · exact ih member
      · rw [pieces_other slash rfl] at member
        rcases List.mem_cons.mp member with rfl | member
        · rw [List.mem_cons, not_or]
          exact ⟨Ne.symm slash, ih List.mem_cons_self⟩
        · exact ih (List.mem_cons_of_mem _ member)

theorem subset_of_mem_pieces {chars piece : List Char} (member : piece ∈ pieces chars) :
    piece ⊆ chars := by
  induction chars generalizing piece with
  | nil =>
      rw [List.mem_singleton.mp member]
      exact List.nil_subset _
  | cons char rest ih =>
      by_cases slash : char = '/'
      · rw [slash, pieces_slash] at member
        rcases List.mem_cons.mp member with rfl | member
        · exact List.nil_subset _
        · exact List.subset_cons_of_subset _ (ih member)
      · rw [pieces_other slash rfl] at member
        rcases List.mem_cons.mp member with rfl | member
        · exact List.cons_subset_cons char (ih List.mem_cons_self)
        · exact List.subset_cons_of_subset _ (ih (List.mem_cons_of_mem _ member))

theorem pieces_eq_splitOn (chars : List Char) : pieces chars = chars.splitOn '/' := by
  rw [List.splitOn_eq_splitOnP]
  induction chars with
  | nil => rfl
  | cons char rest ih =>
      rw [List.splitOnP_cons_eq_if_modifyHead]
      by_cases slash : char = '/'
      · rw [slash, pieces_slash, ih]
        rfl
      · rw [pieces_other slash rfl, ← ih, if_neg (by simpa using slash)]
        rfl

/-! ## Segments -/

/-- Whether a segment makes a difference. -/
def isName (segment : String) : Bool := !(segment.isEmpty || segment == ".")

theorem segments_eq (path : String) : segments path = (pieces path.toList).map String.ofList := rfl

theorem segments_plain {path : String} (plain : '/' ∉ path.toList) : segments path = [path] := by
  rw [segments_eq, pieces_plain plain, List.map_singleton, String.ofList_toList]

theorem not_mem_of_mem_segments {path segment : String} (member : segment ∈ segments path) :
    '/' ∉ segment.toList := by
  rw [segments_eq, List.mem_map] at member
  obtain ⟨piece, inside, rfl⟩ := member
  rw [String.toList_ofList]
  exact not_mem_of_mem_pieces inside

theorem subset_of_mem_segments {path segment : String} (member : segment ∈ segments path) :
    segment.toList ⊆ path.toList := by
  rw [segments_eq, List.mem_map] at member
  obtain ⟨piece, inside, rfl⟩ := member
  rw [String.toList_ofList]
  exact subset_of_mem_pieces inside

theorem segments_append (path : String) :
    ∃ front last, segments path = front ++ [last] ∧
      ∀ suffix : String, '/' ∉ suffix.toList →
        segments (path ++ suffix) = front ++ [last ++ suffix] := by
  obtain ⟨front, last, whole, appended⟩ := pieces_append path.toList
  refine ⟨front.map String.ofList, String.ofList last, ?_, ?_⟩
  · rw [segments_eq, whole, List.map_append, List.map_singleton]
  · intro suffix plain
    rw [segments_eq, String.toList_append, appended suffix.toList plain, List.map_append,
      List.map_singleton, String.ofList_append, String.ofList_toList]

theorem segments_ne_nil (path : String) : segments path ≠ [] := List.cons_ne_nil _ _

/-! ## The directory around a path -/

theorem intercalate_begins {α : Type} (separator : List α) {front whole : List (List α)}
    (ahead : front <+: whole) : separator.intercalate front <+: separator.intercalate whole := by
  obtain ⟨behind, rfl⟩ := ahead
  induction front with
  | nil => exact List.nil_prefix
  | cons first front ih =>
      cases front with
      | nil =>
          cases behind with
          | nil => exact List.prefix_refl _
          | cons next behind =>
              rw [List.intercalate_singleton, List.singleton_append, List.intercalate_cons_cons,
                List.append_assoc]
              exact List.prefix_append _ _
      | cons second front =>
          rw [List.cons_append, List.cons_append, List.intercalate_cons_cons,
            List.intercalate_cons_cons, List.prefix_append_right_inj]
          exact ih

theorem around_begins (path : String) : (around path).toList <+: path.toList := by
  have whole : ['/'].intercalate ((segments path).map String.toList) = path.toList := by
    rw [segments_eq, List.map_map, pieces_eq_splitOn]
    refine Eq.trans (congrArg _ ?_) (List.intercalate_splitOn '/')
    exact (List.map_congr_left fun _ _ => String.toList_ofList).trans (List.map_id _)
  have front : ((segments path).dropLast.reverse.dropWhile fun segment =>
      (innerComponent segment).isNone).reverse <+: segments path := by
    refine List.IsPrefix.trans ?_ (List.dropLast_prefix _)
    rw [← List.reverse_suffix, List.reverse_reverse]
    exact List.dropWhile_suffix _
  rw [around, String.toList_intercalate, ← whole]
  exact intercalate_begins _ (front.map _)

/-- The path of the directory around a path is no longer. -/
theorem utf8ByteSize_around_le (path : String) :
    (around path).utf8ByteSize ≤ path.utf8ByteSize := by
  obtain ⟨behind, cut⟩ := around_begins path
  have whole : path = around path ++ String.ofList behind := by
    rw [← String.toList_inj, String.toList_append, String.toList_ofList, cut]
  rw [congrArg String.utf8ByteSize whole, String.utf8ByteSize_append]
  exact Nat.le_add_right _ _

/-! ## Paths below a directory -/

theorem innerComponent_name {segment : String} (inward : segment ≠ "..") :
    innerComponent segment = if isName segment then some (.name segment) else none := by
  rw [innerComponent, isName]
  cases segment.isEmpty || segment == "." with
  | true => rfl
  | false => simp [inward]

/-- The segments behind the first lead below a directory unless one of them leads out of it. -/
theorem mapM_innerComponent (others : List String) :
    (others.filterMap innerComponent).mapM Component.name? =
      if ".." ∈ others then none else some (others.filter isName) := by
  induction others with
  | nil => rfl
  | cons segment others ih =>
      by_cases outward : segment = ".."
      · rw [outward]
        rfl
      · have same : ".." ∈ segment :: others ↔ ".." ∈ others := by
          simp [Ne.symm outward]
        rw [List.filterMap_cons, innerComponent_name outward, List.filter_cons]
        simp only [same]
        cases isName segment with
        | false => exact ih
        | true =>
            simp only [if_true, List.mapM_cons, ih, Component.name?]
            split <;> rfl

/-- A path leads below a directory unless it is empty, starts from the root or from a dot, or leads
out of the directory again. -/
theorem below?_eq_some_iff {path : String} {names : List String} :
    below? path = some names ↔
      path ≠ "" ∧ isAbsolute path = false ∧ (segments path).head? ≠ some "." ∧
        ".." ∉ segments path ∧ (segments path).filter isName = names := by
  by_cases empty : path = ""
  · simp [below?, empty]
  obtain ⟨first, others, cut⟩ := List.exists_cons_of_ne_nil (segments_ne_nil path)
  rw [below?, if_neg (String.isEmpty_iff.not.mpr empty), components, cut]
  dsimp only
  by_cases absolute : isAbsolute path = true
  · simp [firstComponent, absolute, Component.name?]
  by_cases dotted : first = "."
  · simp [firstComponent, absolute, dotted, Component.name?]
  have inner : firstComponent path first = innerComponent first := by
    simp [firstComponent, absolute, dotted]
  have whole : (innerComponent first).toList ++ others.filterMap innerComponent =
      (first :: others).filterMap innerComponent := by
    rw [List.filterMap_cons]
    cases innerComponent first <;> rfl
  rw [inner, whole, mapM_innerComponent]
  simp [empty, absolute, dotted]

theorem isAbsolute_plain {path : String} (plain : '/' ∉ path.toList) : isAbsolute path = false := by
  rw [isAbsolute]
  cases chars : path.toList with
  | nil => rfl
  | cons char rest =>
      rw [chars, List.mem_cons, not_or] at plain
      rw [List.head?_cons]
      simpa using Ne.symm plain.1

/-! ## Endings -/

/-- An ending that makes a name of whatever it stands behind. -/
structure Ending (suffix : String) : Prop where
  plain : '/' ∉ suffix.toList
  long : 2 < suffix.length

namespace Ending

variable {suffix : String} (ending : Ending suffix) (path : String)
include ending

theorem append_ne {short : String} (fits : short.length ≤ 2) : path ++ suffix ≠ short := by
  intro same
  have lengths := congrArg String.length same
  rw [String.length_append] at lengths
  have long := ending.long
  omega

theorem isName_append : isName (path ++ suffix) = true := by
  have notEmpty : path ++ suffix ≠ "" := ending.append_ne path (by decide)
  have notDot : path ++ suffix ≠ "." := ending.append_ne path (by decide)
  simp [isName, notEmpty, notDot]

theorem isAbsolute_append : isAbsolute (path ++ suffix) = isAbsolute path := by
  cases chars : path.toList with
  | cons char rest => rw [isAbsolute, isAbsolute, String.toList_append, chars]; rfl
  | nil =>
      rw [String.toList_eq_nil_iff.mp chars, String.empty_append]
      exact isAbsolute_plain ending.plain

end Ending

/-- Whether a path with an ending leads below a directory depends on the rest of the path, and so do
all the names but the last. -/
theorem below?_append (path : String) :
    (∃ parents last, ∀ suffix, Ending suffix →
      below? (path ++ suffix) = some (parents ++ [last ++ suffix])) ∨
    ∀ suffix, Ending suffix → below? (path ++ suffix) = none := by
  obtain ⟨front, last, -, appended⟩ := segments_append path
  have iff : ∀ suffix, Ending suffix → ∀ names, below? (path ++ suffix) = some names ↔
      (isAbsolute path = false ∧ front.head? ≠ some "." ∧ ".." ∉ front) ∧
        front.filter isName ++ [last ++ suffix] = names := by
    intro suffix ending names
    have notEmpty : path ++ suffix ≠ "" := ending.append_ne path (by decide)
    have notDot : last ++ suffix ≠ "." := ending.append_ne last (by decide)
    have notOut : last ++ suffix ≠ ".." := ending.append_ne last (by decide)
    have head : (front ++ [last ++ suffix]).head? ≠ some "." ↔ front.head? ≠ some "." := by
      cases front with
      | nil => simpa using notDot
      | cons first front => rfl
    rw [below?_eq_some_iff, ending.isAbsolute_append, appended suffix ending.plain, head,
      List.filter_append, List.mem_append, List.mem_singleton]
    simp [notEmpty, Ne.symm notOut, ending.isName_append last, and_assoc]
  by_cases inside : isAbsolute path = false ∧ front.head? ≠ some "." ∧ ".." ∉ front
  · left
    refine ⟨front.filter isName, last, ?_⟩
    intro suffix ending
    exact (iff suffix ending _).mpr ⟨inside, rfl⟩
  · right
    intro suffix ending
    rw [Option.eq_none_iff_forall_ne_some]
    intro names below
    exact inside ((iff suffix ending names).mp below).1

/-! ## Following a path -/

/-- A path whose names lead from one directory to the others, and that ends in a name. -/
structure LeadsTo (start : List String) (path : String) (names : List String) : Prop where
  relative : isAbsolute path = false
  inward : ".." ∉ segments path
  names : start ++ (segments path).filter isName = names
  ends : ∀ last ∈ (segments path).getLast?, isName last = true

theorem leadsTo_of_below? {path suffix : String} {names : List String} (ending : Ending suffix)
    (below : below? (path ++ suffix) = some names) : LeadsTo [] (path ++ suffix) names := by
  obtain ⟨front, last, -, appended⟩ := segments_append path
  obtain ⟨-, relative, -, inward, named⟩ := below?_eq_some_iff.mp below
  refine ⟨relative, inward, named, ?_⟩
  rw [appended suffix ending.plain]
  intro final member
  rw [List.getLast?_concat, Option.mem_some] at member
  rw [← member]
  exact ending.isName_append last

/-- The names that a path stands for are segments of it. -/
theorem mem_segments_of_below? {path name : String} {names : List String}
    (below : below? path = some names) (member : name ∈ names) : name ∈ segments path := by
  obtain ⟨-, -, -, -, named⟩ := below?_eq_some_iff.mp below
  rw [← named] at member
  exact List.mem_of_mem_filter member

/-- The names that a path stands for can be followed one by one. -/
theorem leadsTo_of_mem {path name : String} {names : List String} (below : below? path = some names)
    (member : name ∈ names) (start : List String) : LeadsTo start name (start ++ [name]) := by
  obtain ⟨-, -, -, inward, named⟩ := below?_eq_some_iff.mp below
  rw [← named, List.mem_filter] at member
  obtain ⟨inside, named⟩ := member
  have plain := not_mem_of_mem_segments inside
  have single := segments_plain plain
  refine ⟨isAbsolute_plain plain, ?_, ?_, ?_⟩
  · rw [single, List.mem_singleton]
    intro outward
    rw [outward] at inward
    exact inward inside
  · rw [single, List.filter_singleton, named]
    rfl
  · rw [single]
    intro last member
    rw [List.getLast?_singleton, Option.mem_some] at member
    rw [← member]
    exact named

end DspBridge.Files
