import DspBridge.Json.Value
import Mathlib.Data.List.Nodup
import Mathlib.Data.String.Basic

/-!
# Members in any order

Sorting the members of an object forgets the order in which they were, as long as no two of them
have one name.
-/

namespace DspBridge.Json

section Sorting

variable {name other : String}

theorem insertMember_lt {members : List (String × Json)} (value : Json)
    (front : ∀ member ∈ members.head?, name < member.1) :
    insertMember name value members = (name, value) :: members := by
  cases members with
  | nil => rfl
  | cons member rest =>
      rw [insertMember, if_pos (front member rfl)]

theorem insertMember_gt {held : Json} {rest : List (String × Json)} (value : Json)
    (behind : other < name) :
    insertMember name value ((other, held) :: rest) =
      (other, held) :: insertMember name value rest := by
  have different : name ≠ other := by
    rintro rfl
    exact String.lt_irrefl _ behind
  rw [insertMember, if_neg (String.lt_asymm behind), if_neg different]

theorem insertMember_self {held : Json} {rest : List (String × Json)} (value : Json) :
    insertMember name value ((name, held) :: rest) = (name, value) :: rest := by
  rw [insertMember, if_neg (String.lt_irrefl name), if_pos rfl]

/-- A member that comes behind another one can be inserted first. -/
theorem insertMember_comm_of_lt (before : name < other) (value held : Json)
    (members : List (String × Json)) :
    insertMember name value (insertMember other held members) =
      insertMember other held (insertMember name value members) := by
  induction members with
  | nil =>
      have alone : insertMember name value [(other, held)] = [(name, value), (other, held)] :=
        insertMember_lt value fun member head => Option.some.inj head ▸ before
      have behind : insertMember other held [(name, value)] = [(name, value), (other, held)] :=
        insertMember_gt held before
      exact alone.trans behind.symm
  | cons member rest ih =>
      obtain ⟨key, kept⟩ := member
      have order : name < key ∨ name = key ∨ key < name := lt_trichotomy name key
      rcases order with front | rfl | behind
      · have first : insertMember name value ((key, kept) :: rest) =
            (name, value) :: (key, kept) :: rest :=
          insertMember_lt value fun member head => Option.some.inj head ▸ front
        rw [first, insertMember_gt _ before]
        refine insertMember_lt value fun member head => ?_
        rw [insertMember] at head
        split at head
        · exact Option.some.inj head ▸ before
        · split at head
          · exact Option.some.inj head ▸ before
          · exact Option.some.inj head ▸ front
      · rw [insertMember_gt _ before, insertMember_self, insertMember_self, insertMember_gt _ before]
      · have far : key < other := String.lt_trans behind before
        rw [insertMember_gt _ far, insertMember_gt _ behind, insertMember_gt _ behind,
          insertMember_gt _ far, ih]

theorem insertMember_comm (different : name ≠ other) (value held : Json)
    (members : List (String × Json)) :
    insertMember name value (insertMember other held members) =
      insertMember other held (insertMember name value members) := by
  have order : name < other ∨ other < name := lt_or_gt_of_ne different
  rcases order with before | behind
  · exact insertMember_comm_of_lt before value held members
  · exact (insertMember_comm_of_lt behind held value members).symm

/-- The order of members with different names does not matter. -/
theorem sortMembers_perm {members others : List (String × Json)} (perm : members.Perm others)
    (distinct : (members.map Prod.fst).Nodup) : sortMembers members = sortMembers others := by
  refine perm.foldl_eq' ?_ []
  intro first firstIn second secondIn sorted
  by_cases same : first.1 = second.1
  · rw [List.inj_on_of_nodup_map distinct firstIn secondIn same]
  · exact insertMember_comm (Ne.symm same) _ _ _

end Sorting
end DspBridge.Json
