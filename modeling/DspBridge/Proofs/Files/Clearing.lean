import DspBridge.Files.Folder
import Mathlib.Data.List.Infix
import Mathlib.Data.List.Nodup

/-!
# Clearing directories

Clearing takes one thing after another out of a directory, and stops at the first that cannot be
taken out.  A directory can be cleared if it lists what it holds and everything in it, at any depth,
can be taken out; nothing is left in it then.  A directory that cannot be cleared keeps what was in
the way, so clearing it again fails in the same way and changes nothing.
-/

namespace DspBridge.Files

/-! ## Taking directories apart -/

theorem nodup_eraseDups {α : Type} [BEq α] [LawfulBEq α] (values : List α) :
    values.eraseDups.Nodup := by
  cases values with
  | nil => exact List.nodup_nil
  | cons value values =>
      rw [List.eraseDups_cons, List.nodup_cons]
      refine ⟨?_, nodup_eraseDups _⟩
      simp
termination_by values.length
decreasing_by exact Nat.lt_succ_of_le (List.length_filter_le _ _)

namespace Folder

/-- Something whose own entry is there. -/
def Stated (thing : Folder) : Prop := ∃ entry, ([], entry) ∈ thing.entries

/-- Things under different names, all of them there. -/
structure Proper (parts : List (String × Folder)) : Prop where
  names : (parts.map Prod.fst).Nodup
  stated : ∀ part ∈ parts, part.2.Stated

@[simp] theorem own_bare (own : Entry) : (bare own).own = own := rfl

@[simp] theorem own_assembled (own : Entry) (parts : List (String × Folder)) :
    (assembled own parts).own = own := rfl

@[simp] theorem assembled_nil (own : Entry) : assembled own [] = bare own := rfl

theorem stated_assembled (own : Entry) (parts : List (String × Folder)) :
    (assembled own parts).Stated := ⟨own, List.mem_cons_self⟩

theorem mem_namesIn_nil {folder : Folder} {name : String} :
    name ∈ folder.namesIn [] ↔ ∃ entry, ([name], entry) ∈ folder.entries := by
  rw [namesIn, List.mem_filterMap]
  constructor
  · rintro ⟨⟨names, entry⟩, member, single⟩
    match names, single with
    | [other], single =>
        obtain rfl : other = name := by simpa using single
        exact ⟨entry, member⟩
  · rintro ⟨entry, member⟩
    exact ⟨_, member, by simp⟩

theorem stated_subtree {folder : Folder} {name : String} (member : name ∈ folder.namesIn []) :
    (folder.subtree [name]).Stated := by
  obtain ⟨entry, member⟩ := mem_namesIn_nil.mp member
  refine ⟨entry, List.mem_filterMap.mpr ⟨_, member, ?_⟩⟩
  simp

theorem proper_parts (folder : Folder) : Proper folder.parts := by
  constructor
  · have names : folder.parts.map Prod.fst = (folder.namesIn []).eraseDups := by
      rw [parts, List.map_map]
      exact List.map_id _
    rw [names]
    exact nodup_eraseDups _
  · intro part member
    rw [parts, List.mem_map] at member
    obtain ⟨name, member, rfl⟩ := member
    exact stated_subtree (List.mem_eraseDups.mp member)

theorem namesIn_assembled (own : Entry) (parts : List (String × Folder)) :
    (assembled own parts).namesIn [] =
      parts.flatMap fun part => part.2.entries.filterMap fun entry =>
        if entry.1 = [] then some part.1 else none := by
  rw [namesIn, assembled, List.filterMap_cons_none rfl, List.filterMap_flatMap]
  congr 1
  funext part
  rw [List.filterMap_map]
  congr 1
  funext entry
  cases names : entry.1 <;> simp [names]

theorem subtree_assembled (own : Entry) (parts : List (String × Folder)) (name : String) :
    (assembled own parts).subtree [name] =
      ⟨parts.flatMap fun part => if part.1 = name then part.2.entries else []⟩ := by
  rw [subtree, assembled, mk.injEq, List.filterMap_cons_none rfl, List.filterMap_flatMap]
  congr 1
  funext part
  rw [List.filterMap_map, Function.comp_def]
  by_cases same : part.1 = name
  · simp [same]
  · simp [same, Ne.symm same]

theorem flatMap_of_not_mem {parts : List (String × Folder)} {name : String}
    (absent : name ∉ parts.map Prod.fst) :
    (parts.flatMap fun part => if part.1 = name then part.2.entries else []) = [] := by
  rw [List.flatMap_eq_nil_iff]
  intro part member
  rw [if_neg]
  rintro rfl
  exact absent (List.mem_map_of_mem member)

/-- Among proper things, the entries under a name are those of the thing of that name. -/
theorem Proper.flatMap_eq {parts : List (String × Folder)} (proper : Proper parts)
    {part : String × Folder} (member : part ∈ parts) :
    (parts.flatMap fun other => if other.1 = part.1 then other.2.entries else []) =
      part.2.entries := by
  induction parts with
  | nil => cases member
  | cons first parts ih =>
      have names := proper.names
      rw [List.map_cons, List.nodup_cons] at names
      rw [List.flatMap_cons]
      rcases List.mem_cons.mp member with rfl | later
      · rw [if_pos rfl, flatMap_of_not_mem names.1, List.append_nil]
      · have apart : first.1 ≠ part.1 := by
          intro same
          rw [same] at names
          exact names.1 (List.mem_map_of_mem later)
        rw [if_neg apart, List.nil_append]
        exact ih ⟨names.2, fun other inside => proper.stated other (List.mem_cons_of_mem _ inside)⟩
          later

theorem eraseDups_append_of_subset {names others : List String} {name : String}
    (nonempty : names ≠ []) (alike : ∀ other ∈ names, other = name) (absent : name ∉ others) :
    (names ++ others).eraseDups = name :: others.eraseDups := by
  obtain ⟨first, rest, rfl⟩ := List.exists_cons_of_ne_nil nonempty
  obtain rfl := alike first List.mem_cons_self
  rw [List.cons_append, List.eraseDups_cons, List.filter_append, List.filter_eq_nil_iff.mpr,
    List.filter_eq_self.mpr, List.nil_append]
  · intro other member
    simpa using fun same : other = first => absent (same ▸ member)
  · intro other member
    simp [alike other (List.mem_cons_of_mem _ member)]

/-- Where a thing is put into a directory, its own entry gives it its name. -/
theorem mem_ownNames {part : String × Folder} {name : String} :
    (name ∈ part.2.entries.filterMap fun entry => if entry.1 = [] then some part.1 else none) ↔
      part.2.Stated ∧ name = part.1 := by
  rw [List.mem_filterMap]
  constructor
  · rintro ⟨⟨names, entry⟩, member, same⟩
    split at same
    · next own =>
        obtain rfl : names = [] := own
        exact ⟨⟨entry, member⟩, (Option.some.inj same).symm⟩
    · cases same
  · rintro ⟨⟨entry, member⟩, rfl⟩
    exact ⟨_, member, if_pos rfl⟩

/-- The names in a directory that is put together are those of the things put into it. -/
theorem Proper.names_assembled {parts : List (String × Folder)} (proper : Proper parts)
    (own : Entry) : ((assembled own parts).namesIn []).eraseDups = parts.map Prod.fst := by
  rw [namesIn_assembled]
  induction parts with
  | nil => rfl
  | cons part parts ih =>
      have names := proper.names
      rw [List.map_cons, List.nodup_cons] at names
      have rest := ih ⟨names.2, fun other inside =>
        proper.stated other (List.mem_cons_of_mem _ inside)⟩
      have stated := proper.stated part List.mem_cons_self
      have nonempty := List.ne_nil_of_mem (mem_ownNames.mpr ⟨stated, rfl⟩)
      rw [List.flatMap_cons, eraseDups_append_of_subset nonempty ?_ ?_, rest, List.map_cons]
      · intro other inside
        exact (mem_ownNames.mp inside).2
      · intro inside
        obtain ⟨other, later, found⟩ := List.mem_flatMap.mp inside
        rw [(mem_ownNames.mp found).2] at names
        exact names.1 (List.mem_map_of_mem later)

/-- A directory that is put together of things is taken apart into them. -/
theorem Proper.parts_assembled {parts : List (String × Folder)} (proper : Proper parts)
    (own : Entry) : (assembled own parts).parts = parts := by
  rw [Folder.parts, proper.names_assembled own, List.map_map]
  refine (List.map_congr_left ?_).trans (List.map_id parts)
  intro part member
  rw [Function.comp_apply, subtree_assembled, proper.flatMap_eq member]
  rfl

/-! ## Taking things out in turn -/

section Parts

variable {take : Folder → Except FileError Unit × Folder} {parts left : List (String × Folder)}
  {error : FileError}

theorem takeParts_of_forall (taken : ∀ part ∈ parts, (take part.2).1 = .ok ()) :
    takeParts take parts = (.ok (), []) := by
  induction parts with
  | nil => rfl
  | cons part parts ih =>
      have first := taken part List.mem_cons_self
      rw [takeParts]
      rcases one : take part.2 with ⟨_ | _, rest⟩
      · rw [one] at first
        cases first
      · exact ih fun other member => taken other (List.mem_cons_of_mem _ member)

/-- Things that are not all taken out end with what is left of one of them. -/
theorem takeParts_error (stopped : takeParts take parts = (.error error, left)) :
    ∃ before name thing rest behind, parts = before ++ (name, thing) :: behind ∧
      take thing = (.error error, rest) ∧ left = (name, rest) :: behind := by
  induction parts with
  | nil => cases stopped
  | cons part parts ih =>
      obtain ⟨name, thing⟩ := part
      rw [takeParts] at stopped
      rcases taken : take thing with ⟨raised | _, rest⟩
      · rw [taken] at stopped
        cases stopped
        exact ⟨[], name, thing, rest, parts, rfl, taken, rfl⟩
      · rw [taken] at stopped
        obtain ⟨before, other, cause, kept, behind, rfl, fails, rfl⟩ := ih stopped
        exact ⟨(name, thing) :: before, other, cause, kept, behind, rfl, fails, rfl⟩

theorem takeParts_ok_iff :
    (takeParts take parts).1 = .ok () ↔ ∀ part ∈ parts, (take part.2).1 = .ok () := by
  constructor
  · intro taken part member
    induction parts with
    | nil => cases member
    | cons first parts ih =>
        rw [takeParts] at taken
        rcases one : take first.2 with ⟨raised | _, rest⟩
        · rw [one] at taken
          cases taken
        · rw [one] at taken
          rcases List.mem_cons.mp member with rfl | later
          · rw [one]
          · exact ih taken later
  · intro taken
    rw [takeParts_of_forall taken]

/-- What cannot be taken out in turn cannot be taken out again. -/
theorem takeParts_again (proper : Proper parts)
    (stopped : takeParts take parts = (.error error, left))
    (again : ∀ thing rest, thing.Stated → take thing = (.error error, rest) →
      rest.Stated ∧ take rest = (.error error, rest)) :
    Proper left ∧ takeParts take left = (.error error, left) := by
  obtain ⟨before, name, thing, rest, behind, rfl, fails, rfl⟩ := takeParts_error stopped
  have stated := proper.stated (name, thing) (by simp)
  obtain ⟨kept, same⟩ := again thing rest stated fails
  have names := proper.names
  rw [List.map_append, List.map_cons] at names
  refine ⟨⟨(List.nodup_append.mp names).2.1, ?_⟩, ?_⟩
  · intro part member
    rcases List.mem_cons.mp member with rfl | later
    · exact kept
    · exact proper.stated part (List.mem_append_right _ (List.mem_cons_of_mem _ later))
  · rw [takeParts, same]

end Parts

/-! ## What can be taken out -/

/-- What can be taken out of a directory that stands `around` it, if so many directories can be held
open: it may leave that directory, and if it is itself a directory of the tree then this can be
listed, and all that it holds can be taken out of it. -/
inductive Removable : (nesting : Nat) → (around : Standing) → Folder → Prop where
  | leaf {nesting : Nat} {around : Standing} {thing : Folder} : thing.own.directory? = none →
      thing.own.keptBy around = none → Removable nesting around thing
  | directory {nesting : Nat} {around standing : Standing} {thing : Folder} :
      thing.own.directory? = some standing → standing.reading = none →
      (∀ part ∈ thing.parts, Removable nesting standing part.2) →
      thing.own.keptBy around = none → Removable (nesting + 1) around thing

theorem unlink_ok_iff {around : Standing} {thing : Folder} :
    (unlink around thing).1 = .ok () ↔ thing.own.keptBy around = none := by
  rw [unlink]
  cases thing.own.keptBy around <;> simp

theorem unlink_error {around : Standing} {thing left : Folder} {error : FileError}
    (stopped : unlink around thing = (.error error, left)) : left = thing := by
  rw [unlink] at stopped
  cases kept : thing.own.keptBy around with
  | none =>
      rw [kept] at stopped
      cases stopped
  | some refusal =>
      rw [kept] at stopped
      exact (Prod.mk.inj stopped).2.symm

section Directories

variable {nesting : Nat} {around standing : Standing} {thing left : Folder} {error : FileError}

theorem takeOut_leaf (leaf : thing.own.directory? = none) (nesting : Nat) :
    takeOut nesting around thing = unlink around thing := by
  rw [takeOut, leaf]

theorem takeOut_shut (kind : thing.own.directory? = some standing) {refusal : Refusal}
    (shut : around.passing.or standing.reading = some refusal) :
    takeOut (nesting + 1) around thing = (.error refusal.error, thing) := by
  rw [takeOut, kind]
  dsimp only
  rw [shut]

/-- A directory that can be opened is taken out behind all that it holds. -/
theorem takeOut_directory (kind : thing.own.directory? = some standing)
    (shown : around.passing.or standing.reading = none) :
    takeOut (nesting + 1) around thing =
      match takeParts (takeOut nesting standing) thing.parts with
      | (.error error, left) => (.error error, assembled thing.own left)
      | (.ok (), left) => unlink around (assembled thing.own left) := by
  rw [takeOut, kind]
  dsimp only
  generalize around.passing.or standing.reading = shut at shown ⊢
  cases shown
  rfl

theorem passing_of_keptBy {entry : Entry} (free : entry.keptBy around = none) :
    around.passing = none := by
  rw [Entry.keptBy, Option.or_eq_none_iff, Option.or_eq_none_iff] at free
  exact free.1.1

theorem Removable.leaf_iff (leaf : thing.own.directory? = none) :
    Removable nesting around thing ↔ thing.own.keptBy around = none := by
  constructor
  · rintro (⟨-, free⟩ | ⟨-, -, -, free⟩) <;> exact free
  · exact .leaf leaf

theorem Removable.directory_iff (kind : thing.own.directory? = some standing) :
    Removable (nesting + 1) around thing ↔ standing.reading = none ∧
      (∀ part ∈ thing.parts, Removable nesting standing part.2) ∧
      thing.own.keptBy around = none := by
  constructor
  · rintro (⟨leaf, -⟩ | ⟨found, shown, parts, free⟩)
    · rw [kind] at leaf
      cases leaf
    · rw [kind, Option.some.injEq] at found
      rw [← found] at shown parts
      exact ⟨shown, parts, free⟩
  · rintro ⟨shown, parts, free⟩
    exact .directory kind shown parts free

theorem not_removable_zero (kind : thing.own.directory? = some standing) :
    ¬ Removable 0 around thing := by
  rintro (⟨leaf, -⟩ | _)
  rw [kind] at leaf
  cases leaf

/-- Just what is removable is taken out. -/
theorem takeOut_ok_iff : (takeOut nesting around thing).1 = .ok () ↔
    Removable nesting around thing := by
  induction nesting generalizing around thing with
  | zero =>
      cases kind : thing.own.directory? with
      | none => rw [takeOut_leaf kind, Removable.leaf_iff kind, unlink_ok_iff]
      | some standing =>
          rw [takeOut, kind]
          exact iff_of_false nofun (not_removable_zero kind)
  | succ nesting ih =>
      cases kind : thing.own.directory? with
      | none => rw [takeOut_leaf kind, Removable.leaf_iff kind, unlink_ok_iff]
      | some standing =>
          have inside : (takeParts (takeOut nesting standing) thing.parts).1 = .ok () ↔
              ∀ part ∈ thing.parts, Removable nesting standing part.2 := by
            rw [takeParts_ok_iff]
            exact forall₂_congr fun part _ => ih
          rw [Removable.directory_iff kind, ← inside]
          cases shut : around.passing.or standing.reading with
          | some refusal =>
              rw [takeOut_shut kind shut]
              refine iff_of_false nofun ?_
              rintro ⟨shown, -, free⟩
              rw [passing_of_keptBy free, shown] at shut
              cases shut
          | none =>
              have shown := (Option.or_eq_none_iff.mp shut).2
              rw [takeOut_directory kind shut, and_iff_right shown]
              rcases takeParts (takeOut nesting standing) thing.parts with ⟨_ | _, rest⟩
              · exact iff_of_false nofun fun taken => nomatch taken.1
              · rw [unlink_ok_iff, own_assembled]
                exact (and_iff_right rfl).symm

theorem again_of_same (same : left = thing) (stated : thing.Stated)
    (stopped : takeOut nesting around thing = (.error error, left)) :
    left.Stated ∧ takeOut nesting around left = (.error error, left) := by
  rw [same] at stopped ⊢
  exact ⟨stated, stopped⟩

/-- What is left of a directory that can be opened and not taken out cannot be taken out either, if
this is so for all that it holds. -/
theorem takeOut_directory_again (kind : thing.own.directory? = some standing)
    (shown : around.passing.or standing.reading = none)
    (inner : ∀ part rest, part.Stated → takeOut nesting standing part = (.error error, rest) →
      rest.Stated ∧ takeOut nesting standing rest = (.error error, rest))
    (stopped : takeOut (nesting + 1) around thing = (.error error, left)) :
    left.Stated ∧ takeOut (nesting + 1) around left = (.error error, left) := by
  have opened (parts : List (String × Folder)) :
      takeOut (nesting + 1) around (assembled thing.own parts) = _ :=
    takeOut_directory kind shown
  rw [takeOut_directory kind shown] at stopped
  rcases inside : takeParts (takeOut nesting standing) thing.parts with ⟨raised | _, rest⟩
  · rw [inside] at stopped
    cases stopped
    obtain ⟨proper, again⟩ := takeParts_again (proper_parts thing) inside inner
    refine ⟨stated_assembled _ _, ?_⟩
    rw [opened, proper.parts_assembled, again]
    rfl
  · have none : rest = [] := by
      have taken := takeParts_ok_iff.mp (congrArg Prod.fst inside)
      rw [takeParts_of_forall taken] at inside
      exact (Prod.mk.inj inside).2.symm
    rw [inside, none] at stopped
    have same := unlink_error stopped
    rw [same] at stopped ⊢
    refine ⟨stated_assembled _ _, ?_⟩
    rw [opened]
    exact stopped

/-- What is left of something that cannot be taken out cannot be taken out either. -/
theorem takeOut_again (stated : thing.Stated)
    (stopped : takeOut nesting around thing = (.error error, left)) :
    left.Stated ∧ takeOut nesting around left = (.error error, left) := by
  induction nesting generalizing around thing left with
  | zero =>
      refine again_of_same ?_ stated stopped
      cases kind : thing.own.directory? with
      | none => exact unlink_error ((takeOut_leaf kind 0).symm.trans stopped)
      | some standing =>
          rw [takeOut, kind] at stopped
          exact (Prod.mk.inj stopped).2.symm
  | succ nesting ih =>
      cases kind : thing.own.directory? with
      | none =>
          exact again_of_same (unlink_error ((takeOut_leaf kind _).symm.trans stopped)) stated
            stopped
      | some standing =>
          cases shut : around.passing.or standing.reading with
          | some refusal =>
              have same := (Prod.mk.inj ((takeOut_shut kind shut).symm.trans stopped)).2.symm
              exact again_of_same same stated stopped
          | none =>
              exact takeOut_directory_again kind shut (fun _ _ stated fails => ih stated fails)
                stopped

end Directories

/-! ## What can be cleared -/

/-- A directory that can be cleared if so many directories can be held open in it: it can be listed,
and all that it holds can be taken out of it. -/
inductive Clearable (nesting : Nat) (folder : Folder) : Prop where
  | directory {standing : Standing} : folder.own = .folder standing → standing.reading = none →
      (∀ part ∈ folder.parts, Removable nesting standing part.2) → Clearable nesting folder

section Clearing

variable {nesting : Nat} {folder : Folder}

theorem clear_directory {standing : Standing} (own : folder.own = .folder standing)
    (shown : standing.reading = none) :
    folder.clear nesting =
      ((takeParts (takeOut nesting standing) folder.parts).1,
        assembled folder.own (takeParts (takeOut nesting standing) folder.parts).2) := by
  rw [clear, own]
  dsimp only
  rw [shown]

theorem clearable_bare {standing : Standing} (shown : standing.reading = none) :
    Clearable nesting (bare (.folder standing)) := by
  refine .directory (own_bare _) shown ?_
  intro part member
  cases member

/-- Nothing is left in a directory that can be cleared. -/
theorem clear_of_clearable (clearable : Clearable nesting folder) :
    folder.clear nesting = (.ok (), bare folder.own) := by
  obtain ⟨own, shown, parts⟩ := clearable
  rw [clear_directory own shown, takeParts_of_forall fun part member =>
    takeOut_ok_iff.mpr (parts part member), assembled_nil]

/-- What is left in a directory that cannot be cleared is in the way again. -/
theorem clear_of_not_clearable (stuck : ¬ Clearable nesting folder) :
    ∃ error left, folder.clear nesting = (.error error, left) ∧
      left.clear nesting = (.error error, left) := by
  cases own : folder.own with
  | file content standing =>
      have whole : folder.clear nesting = (.error .notFolder, folder) := by rw [clear, own]
      exact ⟨_, _, whole, whole⟩
  | link target standing =>
      have whole : folder.clear nesting = (.error .notFound, folder) := by rw [clear, own]
      exact ⟨_, _, whole, whole⟩
  | folder standing =>
      cases shown : standing.reading with
      | some refusal =>
          have whole : folder.clear nesting = (.error refusal.error, folder) := by
            rw [clear, own]
            dsimp only
            rw [shown]
          exact ⟨_, _, whole, whole⟩
      | none =>
          rcases inside : takeParts (takeOut nesting standing) folder.parts with ⟨error | _, left⟩
          · obtain ⟨proper, again⟩ := takeParts_again (proper_parts folder) inside
              fun thing rest stated fails => takeOut_again stated fails
            refine ⟨error, assembled folder.own left, ?_, ?_⟩
            · rw [clear_directory own shown, inside]
            · rw [clear_directory ((own_assembled _ _).trans own) shown, own_assembled,
                proper.parts_assembled, again]
          · have taken := takeParts_ok_iff.mp (congrArg Prod.fst inside)
            exact absurd (.directory own shown fun part member =>
              takeOut_ok_iff.mp (taken part member)) stuck

theorem clear_ok_iff : (folder.clear nesting).1 = .ok () ↔ Clearable nesting folder := by
  constructor
  · intro cleared
    by_contra stuck
    obtain ⟨error, left, stopped, -⟩ := clear_of_not_clearable stuck
    rw [stopped] at cleared
    cases cleared
  · intro clearable
    rw [clear_of_clearable clearable]

/-- Clearing a directory does not change whether it can be cleared. -/
theorem clearable_clear_iff :
    Clearable nesting (folder.clear nesting).2 ↔ Clearable nesting folder := by
  constructor
  · intro clearable
    by_contra stuck
    obtain ⟨error, left, stopped, again⟩ := clear_of_not_clearable stuck
    rw [stopped] at clearable
    rw [clear_of_clearable clearable] at again
    cases again
  · intro clearable
    rw [clear_of_clearable clearable]
    obtain ⟨own, shown, -⟩ := clearable
    rw [own]
    exact clearable_bare shown

end Clearing

end Folder

/-! ## Trees in which nothing is refused -/

/-- Nothing is refused to the process. -/
structure Standing.Unrefused (standing : Standing) : Prop where
  reading : standing.reading = none
  writing : standing.writing = none
  passing : standing.passing = none
  removing : standing.removing = none

theorem Standing.Unrefused.default : Standing.Unrefused {} := ⟨rfl, rfl, rfl, rfl⟩

theorem Entry.standing_of_directory? {entry : Entry} {standing : Standing}
    (kind : entry.directory? = some standing) : entry.standing = standing := by
  cases entry with
  | folder own =>
      rw [directory?] at kind
      split at kind
      · cases kind
      · exact Option.some.inj kind
  | file _ _ => cases kind
  | link _ _ => cases kind

theorem Entry.keptBy_of_unrefused {around : Standing} {entry : Entry} (free : around.Unrefused)
    (unrefused : entry.standing.Unrefused) : entry.keptBy around = none := by
  rw [keptBy, free.passing, free.writing, unrefused.removing]
  rfl

namespace Folder

/-- Nothing in a tree is refused, and fewer names than so many lead to each of its directories. -/
structure Plain (nesting : Nat) (tree : Folder) : Prop where
  unrefused : ∀ names entry, (names, entry) ∈ tree.entries → entry.standing.Unrefused
  shallow : ∀ names entry, (names, entry) ∈ tree.entries → entry.directory? ≠ none →
    names.length < nesting

theorem own_mem {thing : Folder} (stated : thing.Stated) : ([], thing.own) ∈ thing.entries := by
  obtain ⟨entry, member⟩ := stated
  cases found : thing.entries.lookup [] with
  | none => simpa using List.lookup_eq_none_iff.mp found _ member
  | some own =>
      rw [Folder.own, found]
      obtain ⟨before, after, split, -⟩ := List.lookup_eq_some_iff.mp found
      rw [split]
      simp

theorem mem_subtree {tree : Folder} {name : String} {names : List String} {entry : Entry}
    (member : (names, entry) ∈ (tree.subtree [name]).entries) :
    (name :: names, entry) ∈ tree.entries := by
  obtain ⟨⟨whole, found⟩, present, same⟩ := List.mem_filterMap.mp member
  split at same
  · next leads =>
      obtain ⟨rest, rfl⟩ := List.isPrefixOf_iff_prefix.mp leads
      cases same
      exact present
  · cases same

theorem Plain.subtree {nesting : Nat} {tree : Folder} (plain : tree.Plain (nesting + 1))
    (name : String) : (tree.subtree [name]).Plain nesting := by
  constructor
  · intro names entry member
    exact plain.unrefused _ _ (mem_subtree member)
  · intro names entry member directory
    have := plain.shallow _ _ (mem_subtree member) directory
    exact Nat.lt_of_succ_lt_succ this

theorem removable_of_plain {nesting : Nat} {around : Standing} {thing : Folder}
    (stated : thing.Stated) (free : around.Unrefused) (plain : thing.Plain nesting) :
    Removable nesting around thing := by
  have own := own_mem stated
  have unrefused := plain.unrefused _ _ own
  have leaves := Entry.keptBy_of_unrefused free unrefused
  induction nesting generalizing around thing with
  | zero =>
      refine .leaf ?_ leaves
      by_contra directory
      exact absurd (plain.shallow _ _ own directory) (Nat.not_lt_zero _)
  | succ nesting ih =>
      cases kind : thing.own.directory? with
      | none => exact .leaf kind leaves
      | some standing =>
          have same := Entry.standing_of_directory? kind
          rw [same] at unrefused
          refine .directory kind unrefused.reading ?_ leaves
          intro part member
          have inside := (proper_parts thing).stated part member
          rw [parts, List.mem_map] at member
          obtain ⟨name, -, rfl⟩ := member
          have deeper := plain.subtree name
          have below := deeper.unrefused _ _ (own_mem inside)
          exact ih inside unrefused deeper (own_mem inside) below
            (Entry.keptBy_of_unrefused unrefused below)

/-- A directory can be cleared if nothing in it is refused and it is not nested too deep. -/
theorem clearable_of_plain {nesting : Nat} {tree : Folder} {standing : Standing}
    (own : tree.own = .folder standing) (free : standing.Unrefused)
    (plain : tree.Plain (nesting + 1)) : Clearable nesting tree := by
  refine .directory own free.reading ?_
  intro part member
  have inside := (proper_parts tree).stated part member
  rw [parts, List.mem_map] at member
  obtain ⟨name, -, rfl⟩ := member
  exact removable_of_plain inside free (plain.subtree name)

/-- A directory that may not be changed keeps what it holds, and so does the one around it. -/
example : (⟨[(["a"], .file []), (["lib"], .folder { writing := some .denied }),
      (["lib", "b"], .file []), (["c"], .file [])]⟩ : Folder).clear 8 =
    (.error .denied, ⟨[([], .folder), (["lib"], .folder { writing := some .denied }),
      (["lib", "b"], .file []), (["c"], .file [])]⟩) := by
  decide

end Folder

end DspBridge.Files
