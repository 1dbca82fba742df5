import Mathlib.Data.Int.Order.Basic
import Mathlib.Data.List.Nodup
import Mathlib.Logic.Function.Basic
import Mathlib.Tactic.SplitIfs

/-!
# Single-slot mailboxes behind a work queue

A sender overwrites the one message of a mailbox and queues the mailbox's work item; a worker takes
the oldest queued item and reads whatever the mailbox holds at that moment. Queueing an item that
is queued already does nothing. The history records every submission and every reading.

Nothing is lost as long as a sender finds the work item idle. In general `deficit` counts, for one
mailbox, the submissions that no reading has answered and that no queued item can still answer; it
never decreases, and it increases exactly when a sender finds the item queued.
-/

universe u v

namespace Mailbox

/-- What happens to a mailbox. -/
inductive Event (Box : Type u) (Message : Type v)
  | submit (box : Box) (message : Message)
  | run (box : Box) (message : Message)
  deriving DecidableEq

/-- All mailboxes, the queued work items from the oldest on, and the history. -/
structure State (Box : Type u) (Message : Type v) where
  content : Box → Message
  queue : List Box
  history : List (Event Box Message)

variable {Box : Type u} {Message : Type v} [DecidableEq Box]

/-- Overwrite a mailbox and queue its work item. -/
def dispatch (state : State Box Message) (box : Box) (message : Message) : State Box Message where
  content := Function.update state.content box message
  queue := if box ∈ state.queue then state.queue else state.queue ++ [box]
  history := state.history ++ [.submit box message]

/-- Run the oldest queued work item. -/
def work (state : State Box Message) : State Box Message :=
  match state.queue with
  | [] => state
  | box :: rest =>
      { state with
        queue := rest
        history := state.history ++ [.run box (state.content box)] }

/-! ## What a history says about one mailbox -/

/-- The messages submitted to a mailbox. -/
def dispatched (history : List (Event Box Message)) (box : Box) : List Message :=
  history.filterMap fun
    | .submit target message => if target = box then some message else none
    | .run _ _ => none

/-- The messages read from a mailbox. -/
def delivered (history : List (Event Box Message)) (box : Box) : List Message :=
  history.filterMap fun
    | .submit _ _ => none
    | .run source message => if source = box then some message else none

/-- The messages submitted to a mailbox since it was last read. -/
def waiting (history : List (Event Box Message)) (box : Box) : List Message :=
  history.foldl (fun pending event ↦
    match event with
    | .submit target message => if target = box then pending ++ [message] else pending
    | .run source _ => if source = box then [] else pending) []

section History

variable (history : List (Event Box Message)) (box target : Box) (message : Message)

@[simp]
theorem dispatched_submit :
    dispatched (history ++ [.submit target message]) box =
      dispatched history box ++ if target = box then [message] else [] := by
  by_cases h : target = box <;> simp [dispatched, h]

@[simp]
theorem dispatched_run :
    dispatched (history ++ [.run target message]) box = dispatched history box := by
  simp [dispatched]

@[simp]
theorem delivered_submit :
    delivered (history ++ [.submit target message]) box = delivered history box := by
  simp [delivered]

@[simp]
theorem delivered_run :
    delivered (history ++ [.run target message]) box =
      delivered history box ++ if target = box then [message] else [] := by
  by_cases h : target = box <;> simp [delivered, h]

@[simp]
theorem waiting_submit :
    waiting (history ++ [.submit target message]) box =
      waiting history box ++ if target = box then [message] else [] := by
  by_cases h : target = box <;> simp [waiting, h]

@[simp]
theorem waiting_run :
    waiting (history ++ [.run target message]) box =
      if target = box then [] else waiting history box := by
  simp [waiting]

end History

/-! ## Loss-free states -/

/-- Every submission has been read in order, except for at most one, which is in the mailbox of a
queued item. -/
structure Lossless (state : State Box Message) : Prop where
  nodup : state.queue.Nodup
  waiting_eq : ∀ box, waiting state.history box =
    if box ∈ state.queue then [state.content box] else []
  dispatched_eq : ∀ box, dispatched state.history box =
    delivered state.history box ++ waiting state.history box

theorem lossless_of_idle {state : State Box Message} (hqueue : state.queue = [])
    (hhistory : state.history = []) : Lossless state where
  nodup := by simp [hqueue]
  waiting_eq := by simp [hqueue, hhistory, waiting]
  dispatched_eq := by simp [hhistory, dispatched, delivered, waiting]

theorem nodup_dispatch {state : State Box Message} (h : state.queue.Nodup) (box : Box)
    (message : Message) : (dispatch state box message).queue.Nodup := by
  simp only [dispatch]
  split_ifs with hmem
  · exact h
  · simpa only [List.concat_eq_append] using h.concat hmem

/-- A submission that finds the item idle keeps the state loss-free. -/
theorem Lossless.dispatch {state : State Box Message} (h : Lossless state) {target : Box}
    (hidle : target ∉ state.queue) (message : Message) :
    Lossless (Mailbox.dispatch state target message) where
  nodup := nodup_dispatch h.nodup target message
  waiting_eq box := by
    by_cases hbox : box = target
    · subst hbox
      simp [Mailbox.dispatch, h.waiting_eq, hidle]
    · simp [Mailbox.dispatch, h.waiting_eq, hidle, hbox, Ne.symm hbox]
  dispatched_eq box := by
    simp [Mailbox.dispatch, h.dispatched_eq]

/-- A reading keeps the state loss-free. -/
theorem Lossless.work {state : State Box Message} (h : Lossless state) :
    Lossless (Mailbox.work state) := by
  unfold Mailbox.work
  split
  · exact h
  · next head rest hqueue =>
    have hnodup := h.nodup
    have hwaiting := h.waiting_eq
    rw [hqueue] at hnodup
    simp only [hqueue] at hwaiting
    have hhead : head ∉ rest := (List.nodup_cons.mp hnodup).1
    refine ⟨hnodup.of_cons, fun box ↦ ?_, fun box ↦ ?_⟩
    · by_cases hbox : head = box
      · subst hbox
        simp [hhead]
      · simp [hwaiting, hbox, Ne.symm hbox]
    · by_cases hbox : head = box
      · subst hbox
        simp [h.dispatched_eq, hwaiting]
      · simp [h.dispatched_eq, hbox]

/-! ## Order of delivery -/

open scoped List

/-- The messages read from a mailbox, followed by the one that a queued item is going to read, are
messages submitted to it, in order and each at most once. -/
structure InOrder (state : State Box Message) : Prop where
  nodup : state.queue.Nodup
  sublist : ∀ box, delivered state.history box ++
    (if box ∈ state.queue then [state.content box] else []) <+ dispatched state.history box

theorem inOrder_of_idle {state : State Box Message} (hqueue : state.queue = [])
    (hhistory : state.history = []) : InOrder state where
  nodup := by simp [hqueue]
  sublist := by simp [hqueue, hhistory, delivered, dispatched]

theorem InOrder.delivered_sublist {state : State Box Message} (h : InOrder state) (box : Box) :
    delivered state.history box <+ dispatched state.history box :=
  (List.sublist_append_left _ _).trans (h.sublist box)

/-- What is in the mailboxes of idle items does not matter. -/
theorem InOrder.of_content {state other : State Box Message} (h : InOrder state)
    (hqueue : other.queue = state.queue) (hhistory : other.history = state.history)
    (hcontent : ∀ box ∈ state.queue, other.content box = state.content box) : InOrder other where
  nodup := by rw [hqueue]; exact h.nodup
  sublist box := by
    have hsublist := h.sublist box
    rw [hqueue, hhistory]
    split_ifs at hsublist ⊢ with hmem
    · rwa [hcontent box hmem]
    · exact hsublist

/-- A submission goes behind what has been read, whether or not it replaces another one. -/
theorem InOrder.dispatch {state : State Box Message} (h : InOrder state) (target : Box)
    (message : Message) : InOrder (Mailbox.dispatch state target message) where
  nodup := nodup_dispatch h.nodup target message
  sublist box := by
    simp only [Mailbox.dispatch, delivered_submit, dispatched_submit, Function.update_apply]
    by_cases hbox : target = box
    · subst hbox
      have hmem : target ∈ if target ∈ state.queue then state.queue else state.queue ++ [target] := by
        split_ifs with hqueue
        · exact hqueue
        · simp
      rw [if_pos hmem, if_pos rfl, if_pos rfl]
      exact (h.delivered_sublist target).append_right [message]
    · have hiff : (box ∈ if target ∈ state.queue then state.queue else state.queue ++ [target]) ↔
          box ∈ state.queue := by
        split_ifs
        · rfl
        · simp [Ne.symm hbox]
      simp only [hiff, if_neg hbox, if_neg (Ne.symm hbox), List.append_nil]
      exact h.sublist box

/-- A reading takes the message that its item has been queued for. -/
theorem InOrder.work {state : State Box Message} (h : InOrder state) :
    InOrder (Mailbox.work state) := by
  unfold Mailbox.work
  split
  · exact h
  · next head rest hqueue =>
    have hnodup := h.nodup
    rw [hqueue] at hnodup
    have hhead : head ∉ rest := (List.nodup_cons.mp hnodup).1
    refine ⟨hnodup.of_cons, fun box ↦ ?_⟩
    have hsublist := h.sublist box
    simp only [hqueue, List.mem_cons] at hsublist
    simp only [delivered_run, dispatched_run]
    by_cases hbox : head = box
    · subst hbox
      simpa [hhead] using hsublist
    · simpa [hbox, Ne.symm hbox] using hsublist

/-! ## The deficit of a mailbox -/

/-- The submissions to a mailbox that no reading has answered or can still answer. -/
def deficit (state : State Box Message) (box : Box) : ℤ :=
  (dispatched state.history box).length - (delivered state.history box).length -
    if box ∈ state.queue then 1 else 0

/-- A submission raises the deficit of its mailbox by one if it finds the item queued. -/
theorem deficit_dispatch (state : State Box Message) (box target : Box) (message : Message) :
    deficit (dispatch state target message) box =
      deficit state box + if target = box ∧ target ∈ state.queue then 1 else 0 := by
  by_cases hqueue : target ∈ state.queue
  · by_cases hbox : target = box
    · subst hbox
      simp [deficit, dispatch, hqueue]
      omega
    · simp [deficit, dispatch, hqueue, hbox]
  · by_cases hbox : target = box
    · subst hbox
      simp [deficit, dispatch, hqueue]
      omega
    · simp [deficit, dispatch, hqueue, hbox, Ne.symm hbox]

/-- A reading leaves every deficit as it is. -/
theorem deficit_work {state : State Box Message} (hnodup : state.queue.Nodup) (box : Box) :
    deficit (work state) box = deficit state box := by
  unfold work
  split
  · rfl
  · next head rest hqueue =>
    rw [hqueue] at hnodup
    have hhead : head ∉ rest := (List.nodup_cons.mp hnodup).1
    by_cases hbox : head = box
    · subst hbox
      simp [deficit, hqueue, hhead]
      omega
    · simp [deficit, hqueue, hbox, Ne.symm hbox]

end Mailbox
