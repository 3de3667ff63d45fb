import DspBridge.Json.Document
import DspBridge.Proofs.Json.Numbers
import DspBridge.Proofs.Json.Strings
import Mathlib.Data.List.Forall2

/-!
# Reading typed values

A reader of typed values is told by a relation between trees and values: it is done exactly if a
tree that means the value leads the text.  The readers of records, lists and optional values are
built from the readers of their parts, and their relations are built from those of the parts.
-/

namespace DspBridge.Json

open Reader

/-- A reader takes the trees that mean something and gives what they mean. -/
def Reads {α : Type} (reader : Reader α) (Means : Tree → α → Prop) : Prop :=
  ∀ text value rest, Stops rest →
    (reader text = .done value rest ↔ ∃ tree, tree.Leads text rest ∧ Means tree value)

/-! ## What trees mean -/

/-- A string means the text that it stands for. -/
inductive IsText : Tree → String → Prop where
  | string {body : List Char} {text : String} :
      Denotes body text.toList → IsText (.string body) text

/-- A null means nothing, and any other tree what it means otherwise. -/
inductive Optionally {α : Type} (Means : Tree → α → Prop) : Tree → Option α → Prop where
  | null : Optionally Means .null none
  | present {tree : Tree} {value : α} :
      tree ≠ .null → Means tree value → Optionally Means tree (some value)

/-- An array means what its items mean together. -/
inductive IsArray {α : Type} (Elements : List Tree → α → Prop) : Tree → α → Prop where
  | array {items : List Tree} {value : α} :
      Elements items value → IsArray Elements (.array items) value

/-- An array means what its items mean together, an object what its members do. -/
inductive IsRecord {α : Type} (Elements : List Tree → α → Prop)
    (Fields : List (List Char × Tree) → α → Prop) : Tree → α → Prop where
  | array {items : List Tree} {value : α} :
      Elements items value → IsRecord Elements Fields (.array items) value
  | object {members : List (List Char × Tree)} {value : α} :
      Fields members value → IsRecord Elements Fields (.object members) value

/-! ## Readers of scalars -/

section Scalars

variable {α β : Type} {text rest : List Char}

theorem bind_failHere_ne_done {first : Reader β} {cause : β → Cause} {value : α} :
    first.bind (fun found => failHere (cause found)) text ≠ .done value rest := by
  intro done
  obtain ⟨_, _, _, failed⟩ := bind_eq_done_iff.mp done
  cases failed

/-- A reader that only looks for what stands in its place gives no value. -/
theorem wrongKind_ne_done (expected : String) (value : α) :
    wrongKind expected text ≠ .done value rest := by
  intro done
  simp only [wrongKind, bind_apply, peekSolid_bind] at done
  generalize (text.dropWhile isSpace).head? = first at done
  cases first with
  | none => cases done
  | some c =>
      simp only [if_apply, bind_apply, advance_bind, failHere_apply, failNext_apply] at done
      repeat' split at done
      all_goals first
        | exact bind_failHere_ne_done done
        | cases done

theorem string_quoted (expected : String) (quoted : text.dropWhile isSpace = '"' :: rest) :
    Reader.string expected text = (stringBody rest).map String.ofList := by
  simp only [Reader.string, bind_apply, peekSolid_bind, quoted]
  rfl

theorem string_other (expected : String) (other : (text.dropWhile isSpace).head? ≠ some '"') :
    Reader.string expected text = wrongKind expected (text.dropWhile isSpace) := by
  simp only [Reader.string, bind_apply, peekSolid_bind]

theorem reads_string (expected : String) : Reads (Reader.string expected) IsText := by
  intro text value rest _
  constructor
  · intro done
    by_cases quoted : (text.dropWhile isSpace).head? = some '"'
    · obtain ⟨tail, split⟩ := List.head?_eq_some_iff.mp quoted
      rw [string_quoted expected split] at done
      obtain ⟨chars, read, rfl⟩ := Outcome.map_eq_done_iff.mp done
      obtain ⟨body, denotes, rfl⟩ := stringBody_eq_done_iff.mp read
      refine ⟨.string body, Tree.leads_string_iff.mpr ⟨denotes.isBody, split⟩, .string ?_⟩
      rwa [String.toList_ofList]
    · rw [string_other expected quoted] at done
      exact absurd done (wrongKind_ne_done expected value)
  · rintro ⟨_, leads, ⟨denotes⟩⟩
    obtain ⟨-, split⟩ := Tree.leads_string_iff.mp leads
    rw [string_quoted expected split, denotes.read, Outcome.map, String.ofList_toList]

theorem optional_null (reader : Reader α) (null : text.dropWhile isSpace = 'n' :: rest) :
    Reader.optional reader text = (word "ull".toList >>= fun _ => pure none) rest := by
  simp only [Reader.optional, bind_apply, peekSolid_bind, null]
  rfl

theorem optional_other (reader : Reader α) (other : (text.dropWhile isSpace).head? ≠ some 'n') :
    Reader.optional reader text = (reader (text.dropWhile isSpace)).map some := by
  simp only [Reader.optional, bind_apply, peekSolid_bind]
  exact map_apply _ _ _

theorem reads_optional {reader : Reader α} {Means : Tree → α → Prop} (reads : Reads reader Means) :
    Reads (Reader.optional reader) (Optionally Means) := by
  intro text value rest stops
  by_cases null : (text.dropWhile isSpace).head? = some 'n'
  · obtain ⟨tail, split⟩ := List.head?_eq_some_iff.mp null
    rw [optional_null reader split, bind_apply, bind_eq_done_iff]
    constructor
    · rintro ⟨_, left, passed, done⟩
      cases done
      rw [word_eq_done_iff.mp passed] at split
      exact ⟨.null, Tree.IsWord.null.leads_iff.mpr split, .null⟩
    · rintro ⟨tree, leads, meant⟩
      obtain ⟨c, _, whole, opens⟩ := leads.opens
      obtain ⟨rfl, -⟩ := List.cons.inj (split.symm.trans whole)
      obtain rfl := opens.null
      cases meant with
      | null =>
          have whole := Tree.IsWord.null.leads_iff.mp leads
          obtain ⟨-, rfl⟩ := List.cons.inj (split.symm.trans whole)
          exact ⟨(), rest, word_eq_done_iff.mpr rfl, rfl⟩
      | present other _ => exact absurd rfl other
  · rw [optional_other reader null, Outcome.map_eq_done_iff]
    constructor
    · rintro ⟨before, done, rfl⟩
      obtain ⟨tree, leads, meant⟩ := (reads _ _ _ stops).mp done
      rw [Tree.leads_solid] at leads
      refine ⟨tree, leads, .present ?_ meant⟩
      rintro rfl
      rw [Tree.IsWord.null.leads_iff.mp leads] at null
      exact null rfl
    · rintro ⟨tree, leads, meant⟩
      cases meant with
      | null =>
          rw [Tree.IsWord.null.leads_iff.mp leads] at null
          exact absurd rfl null
      | present _ meant =>
          exact ⟨_, (reads _ _ _ stops).mpr ⟨tree, Tree.leads_solid.mpr leads, meant⟩, rfl⟩

end Scalars

/-! ## Readers from readers -/

section Readers

variable {α β : Type} {reader : Reader α} {Means Others : Tree → α → Prop}

theorem Reads.congr (reads : Reads reader Means)
    (same : ∀ tree value, Means tree value ↔ Others tree value) : Reads reader Others := by
  intro text value rest stops
  rw [reads text value rest stops]
  simp only [same]

/-- What has been read may be changed. -/
theorem Reads.bind_pure (reads : Reads reader Means) (change : α → β) :
    Reads (reader >>= fun value => pure (change value)) fun tree result =>
      ∃ value, Means tree value ∧ result = change value := by
  intro text result rest stops
  constructor
  · intro done
    obtain ⟨value, _, read, last⟩ := bind_eq_done_iff.mp done
    cases last
    obtain ⟨tree, leads, meant⟩ := (reads _ _ _ stops).mp read
    exact ⟨tree, leads, value, meant, rfl⟩
  · rintro ⟨tree, leads, value, meant, rfl⟩
    exact bind_done ((reads _ _ _ stops).mpr ⟨tree, leads, meant⟩)

theorem dropWhile_eq_nil_iff {rest : List Char} : rest.dropWhile isSpace = [] ↔ Blanks rest :=
  List.dropWhile_eq_nil_iff

theorem run_eq_ok_iff_done {text : String} {value : α} :
    reader.run text = .ok value ↔ ∃ rest, reader text.toList = .done value rest ∧ Blanks rest := by
  simp only [Reader.run, bind_apply, Reader.bind]
  cases reader text.toList with
  | done found rest =>
      simp only [peekSolid, Outcome.done.injEq]
      cases split : rest.dropWhile isSpace with
      | nil =>
          constructor
          · rintro ⟨rfl⟩
            exact ⟨rest, ⟨rfl, rfl⟩, dropWhile_eq_nil_iff.mp split⟩
          · rintro ⟨_, ⟨rfl, -⟩, -⟩
            rfl
      | cons c left =>
          constructor
          · rintro ⟨⟩
          · rintro ⟨_, ⟨-, rfl⟩, blank⟩
            rw [dropWhile_eq_nil_iff.mpr blank] at split
            cases split
  | failed failure => simp
  | refused cause rest => simp

/-- A whole text is read if a tree that means something stands in it with nothing but blanks
around. -/
theorem run_eq_ok_iff (reads : Reads reader Means) {text : String} {value : α} :
    reader.run text = .ok value ↔
      ∃ tree rest, tree.Leads text.toList rest ∧ Blanks rest ∧ Means tree value := by
  rw [run_eq_ok_iff_done]
  constructor
  · rintro ⟨rest, done, blank⟩
    have stops : Stops rest := by simpa using stops_gap blank stops_nil
    obtain ⟨tree, leads, meant⟩ := (reads _ _ _ stops).mp done
    exact ⟨tree, rest, leads, blank, meant⟩
  · rintro ⟨tree, rest, leads, blank, meant⟩
    have stops : Stops rest := by simpa using stops_gap blank stops_nil
    exact ⟨rest, (reads _ _ _ stops).mpr ⟨tree, leads, meant⟩, blank⟩

end Readers

end DspBridge.Json
