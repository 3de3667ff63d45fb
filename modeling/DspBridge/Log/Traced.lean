import DspBridge.Log.Event

/-!
# Traced computations

A computation that reports events is a value together with the events, in order. Doing one thing
after another puts the events of the second behind those of the first.
-/

namespace DspBridge

/-- A value and the events reported while it was made. -/
structure Traced (α : Type) where
  value : α
  events : List Event

namespace Traced

instance : Monad Traced where
  pure value := ⟨value, []⟩
  bind first second :=
    ⟨(second first.value).value, first.events ++ (second first.value).events⟩

/-- Report an event. -/
def emit (event : Event) : Traced Unit := ⟨(), [event]⟩

@[simp] theorem value_pure {α : Type} (value : α) : (pure value : Traced α).value = value := rfl

@[simp] theorem events_pure {α : Type} (value : α) : (pure value : Traced α).events = [] := rfl

@[simp] theorem value_bind {α β : Type} (first : Traced α) (second : α → Traced β) :
    (first >>= second).value = (second first.value).value := rfl

@[simp] theorem events_bind {α β : Type} (first : Traced α) (second : α → Traced β) :
    (first >>= second).events = first.events ++ (second first.value).events := rfl

@[simp] theorem events_emit (event : Event) : (emit event).events = [event] := rfl

end Traced

/-- A computation that changes a state and reports events. -/
abbrev Action (σ : Type) := StateT σ Traced

/-- Report an event and leave the state alone. -/
def report {σ : Type} (event : Event) : Action σ Unit := fun state => ⟨((), state), [event]⟩

/-- An action on a part of the state. -/
def Action.on {σ τ α : Type} (get : τ → σ) (set : σ → τ → τ) (action : Action σ α) :
    Action τ α := fun state =>
  let result := action (get state)
  ⟨(result.value.1, set result.value.2 state), result.events⟩

end DspBridge
