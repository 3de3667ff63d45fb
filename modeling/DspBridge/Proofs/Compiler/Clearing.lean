import DspBridge.Compiler.Scratch
import DspBridge.Proofs.Files.Clearing
import DspBridge.Proofs.Log.Actions

/-!
# Clearing the scratch directory

What is left of the scratch directory once it has been cleared, and what a reset makes of it.  A
directory that can be cleared is empty afterwards, and all that is left of what was there before is
how the directory itself stands.  If it cannot be cleared, because it is gone or because something
in it cannot be removed, then it never can be again unless something other than the backend changes
it.
-/

namespace DspBridge

open Files (FileError Folder Standing Limits)

namespace Scratch

/-! ## Grounds -/

/-- What clearing the directory does not change: how the directory itself stands, and what limits
the process. -/
structure Ground where
  standing : Standing
  limits : Limits

/-- The ground of a directory that has just been made. -/
def Ground.fresh (limits : Limits) : Ground := ⟨{}, limits⟩

/-- A backend whose directory has been cleared. -/
def Ground.cleared (ground : Ground) (lastError : String) : Scratch :=
  ⟨some (.bare (.folder ground.standing)), lastError, ground.limits⟩

/-- The directory exists, and all that it holds can be removed; this is its ground. -/
inductive Clears (scratch : Scratch) (ground : Ground) : Prop where
  | directory {tree : Folder} : scratch.folder = some tree → tree.own = .folder ground.standing →
      tree.Clearable ground.limits.nesting → scratch.limits = ground.limits → Clears scratch ground

/-- The directory exists, and all that it holds can be removed. -/
def Clearable (scratch : Scratch) : Prop := ∃ ground, scratch.Clears ground

theorem new_eq_cleared (limits : Limits) : new limits = (Ground.fresh limits).cleared "" := rfl

theorem clearable_iff {scratch : Scratch} : scratch.Clearable ↔
    ∃ tree, scratch.folder = some tree ∧ tree.Clearable scratch.limits.nesting := by
  constructor
  · rintro ⟨ground, stands, -, clearable, limits⟩
    rw [← limits] at clearable
    exact ⟨_, stands, clearable⟩
  · rintro ⟨tree, stands, clearable⟩
    obtain ⟨own, -, -⟩ := id clearable
    exact ⟨⟨_, scratch.limits⟩, .directory stands own clearable rfl⟩

theorem not_clearable_of_gone {scratch : Scratch} (gone : scratch.folder = none) :
    ¬ scratch.Clearable := by
  rw [clearable_iff, gone]
  rintro ⟨tree, stands, -⟩
  cases stands

theorem Clears.unique {scratch : Scratch} {ground other : Ground} (clears : scratch.Clears ground)
    (clearsToo : scratch.Clears other) : ground = other := by
  obtain ⟨stands, own, -, limits⟩ := clears
  obtain ⟨stands', own', -, limits'⟩ := clearsToo
  obtain ⟨standing, before⟩ := ground
  obtain ⟨standing', before'⟩ := other
  rw [stands, Option.some.injEq] at stands'
  rw [← stands', own, Files.Entry.folder.injEq] at own'
  rw [Ground.mk.injEq]
  exact ⟨own', limits.symm.trans limits'⟩

theorem clears_cleared {ground : Ground} (shown : ground.standing.reading = none)
    (lastError : String) : (ground.cleared lastError).Clears ground :=
  .directory rfl rfl (Folder.clearable_bare shown) rfl

theorem clears_new (limits : Limits) : (new limits).Clears (.fresh limits) :=
  show (Ground.cleared (.fresh limits) "").Clears (.fresh limits) from clears_cleared rfl ""

/-! ## Clearing -/

section Clearing

variable {scratch : Scratch} {ground : Ground}

theorem clear_gone (gone : scratch.folder = none) :
    clear scratch = ⟨(.error .notFound, scratch), []⟩ := by
  obtain ⟨folder, lastError, limits⟩ := scratch
  cases gone
  rfl

theorem clear_some {tree : Folder} (stands : scratch.folder = some tree) :
    clear scratch = ⟨((tree.clear scratch.limits.nesting).1,
      { scratch with folder := some (tree.clear scratch.limits.nesting).2 }), []⟩ := by
  obtain ⟨folder, lastError, limits⟩ := scratch
  cases stands
  rfl

/-- Nothing is left but the ground. -/
theorem clear_of_clears (clears : scratch.Clears ground) :
    clear scratch = ⟨(.ok (), ground.cleared scratch.lastError), []⟩ := by
  obtain ⟨stands, own, clearable, limits⟩ := clears
  rw [clear_some stands, limits, Folder.clear_of_clearable clearable, own, Ground.cleared, ← limits]

/-- What is in the way stays there. -/
theorem clear_of_not_clearable (stuck : ¬ scratch.Clearable) :
    ∃ error next, clear scratch = ⟨(.error error, next), []⟩ ∧
      clear next = ⟨(.error error, next), []⟩ := by
  cases stands : scratch.folder with
  | none => exact ⟨_, _, clear_gone stands, clear_gone stands⟩
  | some tree =>
      have stuckTree : ¬ tree.Clearable scratch.limits.nesting := by
        intro clearable
        exact stuck (clearable_iff.mpr ⟨tree, stands, clearable⟩)
      obtain ⟨error, left, stopped, again⟩ := Folder.clear_of_not_clearable stuckTree
      have kept : ({ scratch with folder := some left } : Scratch).folder = some left := rfl
      refine ⟨error, { scratch with folder := some left }, ?_, ?_⟩
      · rw [clear_some stands, stopped]
      · rw [clear_some kept, again]

theorem clear_events (scratch : Scratch) : (clear scratch).events = [] := by
  cases stands : scratch.folder with
  | none => rw [clear_gone stands]
  | some tree => rw [clear_some stands]

theorem clear_lastError (scratch : Scratch) :
    (clear scratch).value.2.lastError = scratch.lastError := by
  cases stands : scratch.folder with
  | none => rw [clear_gone stands]
  | some tree => rw [clear_some stands]

theorem clear_limits (scratch : Scratch) : (clear scratch).value.2.limits = scratch.limits := by
  cases stands : scratch.folder with
  | none => rw [clear_gone stands]
  | some tree => rw [clear_some stands]

/-- Clearing makes no difference to whether the directory can be cleared. -/
theorem clearable_clear_iff : (clear scratch).value.2.Clearable ↔ scratch.Clearable := by
  cases stands : scratch.folder with
  | none => rw [clear_gone stands]
  | some tree =>
      rw [clear_some stands, clearable_iff, clearable_iff, stands]
      simp only [Option.some.injEq, exists_eq_left', Folder.clearable_clear_iff]

end Clearing

/-! ## Resets -/

/-- A reset clears the directory as far as this can be done, and forgets the diagnostic. -/
theorem reset_value (program : Program) (scratch : Scratch) :
    ((backend program).reset scratch).value.2 =
      (clear { scratch with lastError := "" }).value.2 := by
  rw [backend]
  dsimp only
  rw [reset, Action.value_bind, Action.modify_apply, Action.value_bind]
  cases (clear { scratch with lastError := "" }).value.1 <;> rfl

/-- A reset reports nothing but that the directory cannot be cleared. -/
theorem reset_reports {allowed : Event → Prop}
    (told : ∀ error : FileError, allowed (.scratchNotCleared error.message)) :
    reset.Reports allowed := by
  refine .bind (.of_silent fun _ => rfl) fun _ => ?_
  refine .bind (.of_silent clear_events) fun cleared => ?_
  cases cleared with
  | ok _ => exact .of_silent fun _ => rfl
  | error error => exact .report (told error)

theorem reset_lastError (program : Program) (scratch : Scratch) :
    ((backend program).reset scratch).value.2.lastError = "" := by
  rw [reset_value, clear_lastError]

end Scratch
end DspBridge
