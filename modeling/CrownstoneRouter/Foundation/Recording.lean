import CrownstoneRouter.Foundation.Memory

/-!
# Recorded computations

A checked computation that records what it does. A fault ends the record with the event that has run
into it. The events of an instrumented computation are those of the computation itself if forgetting
them leaves its result.
-/

universe u v

namespace CheckedMemory

/-- The events of a computation in their order, and its result. -/
structure Recorded (Event : Type u) (α : Type v) where
  events : List Event
  result : Checked α

namespace Recorded

variable {Event : Type u} {α β : Type v}

instance : Monad (Recorded Event) where
  pure value := ⟨[], .ok value⟩
  bind step next :=
    match step.result with
    | .ok value => ⟨step.events ++ (next value).events, (next value).result⟩
    | .error fault => ⟨step.events, .error fault⟩

def note (event : Event) : Recorded Event PUnit where
  events := [event]
  result := .ok ⟨⟩

def access (event : Event) (outcome : Checked α) : Recorded Event α where
  events := [event]
  result := outcome

@[simp]
theorem result_pure (value : α) : (pure value : Recorded Event α).result = .ok value := rfl

@[simp]
theorem events_pure (value : α) : (pure value : Recorded Event α).events = [] := rfl

@[simp]
theorem result_bind (step : Recorded Event α) (next : α → Recorded Event β) :
    (step >>= next).result = step.result.bind fun value ↦ (next value).result := by
  obtain ⟨events, _ | value⟩ := step <;> rfl

theorem bind_note (event : Event) (next : PUnit → Recorded Event α) :
    note event >>= next = ⟨event :: (next ⟨⟩).events, (next ⟨⟩).result⟩ := rfl

theorem bind_access_ok {event : Event} {outcome : Checked α} {value : α} (h : outcome = .ok value)
    (next : α → Recorded Event β) :
    access event outcome >>= next = ⟨event :: (next value).events, (next value).result⟩ := by
  rw [h]
  rfl

theorem bind_access_error {event : Event} {outcome : Checked α} {fault : Fault}
    (h : outcome = .error fault) (next : α → Recorded Event β) :
    access event outcome >>= next = ⟨[event], .error fault⟩ := by
  rw [h]
  rfl

@[simp]
theorem result_access (event : Event) (outcome : Checked α) :
    (access event outcome).result = outcome := rfl

@[simp]
theorem result_note (event : Event) : (note event).result = .ok ⟨⟩ := rfl

end Recorded

end CheckedMemory
