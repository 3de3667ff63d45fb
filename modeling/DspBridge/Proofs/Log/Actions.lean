import DspBridge.Log.Traced
import Mathlib.Control.Basic

/-!
# Running actions

What an action leaves behind, one lemma for each way to build an action.  Doing one thing after
another is lawful, so the list operations of the standard library apply to actions.
-/

namespace DspBridge

instance : LawfulMonad Traced :=
  LawfulMonad.mk' Traced
    (fun traced => congrArg (Traced.mk traced.value) (List.append_nil _))
    (fun _ _ => rfl)
    (fun first _ _ => congrArg (Traced.mk _) (List.append_assoc first.events _ _))

namespace Action

variable {σ α β : Type}

@[simp] theorem pure_apply (value : α) (state : σ) :
    (pure value : Action σ α) state = ⟨(value, state), []⟩ := rfl

@[simp] theorem value_bind (first : Action σ α) (second : α → Action σ β) (state : σ) :
    ((first >>= second) state).value =
      (second (first state).value.1 (first state).value.2).value := rfl

@[simp] theorem events_bind (first : Action σ α) (second : α → Action σ β) (state : σ) :
    ((first >>= second) state).events =
      (first state).events ++ (second (first state).value.1 (first state).value.2).events := rfl

@[simp] theorem report_apply (event : Event) (state : σ) :
    report event state = ⟨((), state), [event]⟩ := rfl

@[simp] theorem get_apply (state : σ) : (get : Action σ σ) state = ⟨(state, state), []⟩ := rfl

@[simp] theorem modify_apply (change : σ → σ) (state : σ) :
    (modify change : Action σ PUnit) state = ⟨((), change state), []⟩ := rfl

@[simp] theorem value_on {τ : Type} (get : τ → σ) (set : σ → τ → τ) (action : Action σ α)
    (state : τ) :
    (action.on get set state).value =
      ((action (get state)).value.1, set (action (get state)).value.2 state) := rfl

@[simp] theorem events_on {τ : Type} (get : τ → σ) (set : σ → τ → τ) (action : Action σ α)
    (state : τ) : (action.on get set state).events = (action (get state)).events := rfl

/-- What an action does first only counts as far as it goes in the state that it begins with. -/
theorem bind_congr_left {first other : Action σ α} {state : σ} (same : first state = other state)
    (next : α → Action σ β) : (first >>= next) state = (other >>= next) state := by
  change (first state >>= fun result => next result.1 result.2) =
    other state >>= fun result => next result.1 result.2
  rw [same]

/-- What an action does next only counts for the value and the state that it then begins with. -/
theorem bind_congr_right {first : Action σ α} {next other : α → Action σ β} {state : σ}
    (same : next (first state).value.1 (first state).value.2 =
      other (first state).value.1 (first state).value.2) :
    (first >>= next) state = (first >>= other) state := by
  change Traced.mk (next _ _).value ((first state).events ++ (next _ _).events) =
    Traced.mk (other _ _).value ((first state).events ++ (other _ _).events)
  rw [same]

section Lists

variable {γ : Type} (action : γ → Action σ α)

@[simp] theorem value_mapM_nil (state : σ) : ([].mapM action state).value = ([], state) := rfl

@[simp] theorem value_mapM_cons (first : γ) (rest : List γ) (state : σ) :
    ((first :: rest).mapM action state).value =
      ((action first state).value.1 :: (rest.mapM action (action first state).value.2).value.1,
        (rest.mapM action (action first state).value.2).value.2) := by
  rw [List.mapM_cons]
  rfl

end Lists

end Action

/-! ## Actions that a failure ends -/

section Attempts

variable {ε σ α β : Type} {state after : σ}

theorem value_bind_ok {first : ExceptT ε (Action σ) α} (second : α → ExceptT ε (Action σ) β)
    {value : α} (done : (first.run state).value = (.ok value, after)) :
    ((first >>= second).run state).value = ((second value).run after).value := by
  rw [ExceptT.run_bind, Action.value_bind, done]

theorem value_bind_error {first : ExceptT ε (Action σ) α} (second : α → ExceptT ε (Action σ) β)
    {failure : ε} (failed : (first.run state).value = (.error failure, after)) :
    ((first >>= second).run state).value = (.error failure, after) := by
  rw [ExceptT.run_bind, Action.value_bind, failed]
  rfl

theorem run_bind_ok {first : ExceptT ε (Action σ) α} (second : α → ExceptT ε (Action σ) β)
    {value : α} {events : List Event} (done : first.run state = ⟨(.ok value, after), events⟩) :
    (first >>= second).run state =
      ⟨((second value).run after).value, events ++ ((second value).run after).events⟩ := by
  have same : (first >>= second).run state =
      ⟨((first >>= second).run state).value, ((first >>= second).run state).events⟩ := rfl
  rw [same, ExceptT.run_bind, Action.value_bind, Action.events_bind, done]

theorem run_bind_error {first : ExceptT ε (Action σ) α} (second : α → ExceptT ε (Action σ) β)
    {failure : ε} {events : List Event}
    (failed : first.run state = ⟨(.error failure, after), events⟩) :
    (first >>= second).run state = ⟨(.error failure, after), events⟩ := by
  have same : (first >>= second).run state =
      ⟨((first >>= second).run state).value, ((first >>= second).run state).events⟩ := rfl
  rw [same, ExceptT.run_bind, Action.value_bind, Action.events_bind, failed]
  simp

theorem run_lift (action : Action σ α) (state : σ) :
    (ExceptT.lift action : ExceptT ε (Action σ) α).run state =
      ⟨(.ok (action state).value.1, (action state).value.2), (action state).events⟩ := by
  have whole : (ExceptT.lift action : ExceptT ε (Action σ) α).run state =
      ⟨(.ok (action state).value.1, (action state).value.2), (action state).events ++ []⟩ := rfl
  rw [whole, List.append_nil]

/-- What is attempted first only counts as far as it gets in the state that it begins with. -/
theorem run_bind_congr {first other : ExceptT ε (Action σ) α}
    (same : first.run state = other.run state) (next : α → ExceptT ε (Action σ) β) :
    (first >>= next).run state = (other >>= next).run state := by
  rw [ExceptT.run_bind, ExceptT.run_bind]
  exact Action.bind_congr_left same _

end Attempts

/-! ## Events of one kind -/

/-- Whatever an action reports is allowed. -/
def Action.Reports {σ α : Type} (allowed : Event → Prop) (action : Action σ α) : Prop :=
  ∀ state, ∀ event ∈ (action state).events, allowed event

namespace Action.Reports

variable {ε σ τ α β : Type} {allowed : Event → Prop}

theorem of_silent {action : Action σ α} (silent : ∀ state, (action state).events = []) :
    Reports allowed action := by
  intro state event member
  rw [silent] at member
  cases member

theorem report {event : Event} (fine : allowed event) :
    Reports allowed (report event : Action σ Unit) := by
  intro state reported member
  rw [List.mem_singleton.mp member]
  exact fine

theorem bind {first : Action σ α} {second : α → Action σ β} (one : Reports allowed first)
    (two : ∀ value, Reports allowed (second value)) : Reports allowed (first >>= second) := by
  intro state event member
  rw [Action.events_bind] at member
  rcases List.mem_append.mp member with member | member
  · exact one state event member
  · exact two _ _ event member

theorem on {action : Action σ α} (reports : Reports allowed action) (get : τ → σ)
    (set : σ → τ → τ) : Reports allowed (action.on get set) :=
  fun state => reports (get state)

theorem attempt {first : ExceptT ε (Action σ) α} {second : α → ExceptT ε (Action σ) β}
    (one : Reports allowed first.run) (two : ∀ value, Reports allowed (second value).run) :
    Reports allowed (first >>= second).run := by
  rw [ExceptT.run_bind]
  refine one.bind fun result => ?_
  cases result with
  | error failure => exact of_silent fun _ => rfl
  | ok value => exact two value

end Action.Reports

end DspBridge
