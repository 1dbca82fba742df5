import Mathlib.Data.Nat.ModEq
import Mathlib.Logic.Function.Basic
import CrownstoneRouter.Foundation.Memory

/-!
# Message queues on a ring of slots

A ring of `maxMsgs` message slots laid out consecutively in a given storage, with a read and a write
position and the number of queued messages. A put into a full ring is refused; a slot that does not
lie wholly inside the storage is out of bounds for every access.

`Represents` relates a ring to the list of its messages from the oldest on. While the slot to be
written lies inside the storage, a put appends to that list and a get removes its head; a purge
empties it.
-/

universe u

open CheckedMemory

/-- A ring of `maxMsgs` slots over a storage in which `slots` messages fit. -/
structure RingQueue (Message : Type u) (slots : ℕ) where
  maxMsgs : ℕ
  cells : Fin slots → Option Message
  readIndex : ℕ
  writeIndex : ℕ
  usedMsgs : ℕ

namespace RingQueue

variable {Message : Type u} {slots : ℕ}

/-- An empty ring over a storage with arbitrary content. -/
def init (cells : Fin slots → Option Message) (maxMsgs : ℕ) : RingQueue Message slots where
  maxMsgs := maxMsgs
  cells := cells
  readIndex := 0
  writeIndex := 0
  usedMsgs := 0

/-- The position after a slot, wrapping round at the end of the ring. -/
def advance (queue : RingQueue Message slots) (index : ℕ) : ℕ :=
  if index + 1 = queue.maxMsgs then 0 else index + 1

/-- The ring after a message has been stored in the slot to be written. -/
def pushed (queue : RingQueue Message slots) (slot : Fin slots) (message : Message) :
    RingQueue Message slots :=
  { queue with
    cells := Function.update queue.cells slot (some message)
    writeIndex := queue.advance queue.writeIndex
    usedMsgs := queue.usedMsgs + 1 }

/-- The ring after the oldest message has been taken. -/
def popped (queue : RingQueue Message slots) : RingQueue Message slots :=
  { queue with
    readIndex := queue.advance queue.readIndex
    usedMsgs := queue.usedMsgs - 1 }

/-- Append a message unless the ring is full; the flag tells whether it was taken. -/
def put (queue : RingQueue Message slots) (message : Message) :
    Checked (Bool × RingQueue Message slots) :=
  if queue.usedMsgs < queue.maxMsgs then
    if h : queue.writeIndex < slots then .ok (true, queue.pushed ⟨queue.writeIndex, h⟩ message)
    else .error .outOfBounds
  else .ok (false, queue)

/-- Take the oldest message, if there is one. -/
def get (queue : RingQueue Message slots) : Checked (Option Message × RingQueue Message slots) :=
  if 0 < queue.usedMsgs then
    if h : queue.readIndex < slots then .ok (queue.cells ⟨queue.readIndex, h⟩, queue.popped)
    else .error .outOfBounds
  else .ok (none, queue)

def purge (queue : RingQueue Message slots) : RingQueue Message slots :=
  { queue with readIndex := queue.writeIndex, usedMsgs := 0 }

/-- The content of a slot of the ring, if the slot lies inside the storage. -/
def cell (queue : RingQueue Message slots) (index : ℕ) : Option Message :=
  if h : index < slots then queue.cells ⟨index, h⟩ else none

/-- The ring holds exactly these messages, the oldest one first. -/
structure Represents (queue : RingQueue Message slots) (messages : List Message) : Prop where
  used : queue.usedMsgs = messages.length
  bounded : messages.length ≤ queue.maxMsgs
  read_lt : queue.readIndex < queue.maxMsgs
  write_eq : queue.writeIndex = (queue.readIndex + messages.length) % queue.maxMsgs
  cell_eq : ∀ offset message, messages[offset]? = some message →
    queue.cell ((queue.readIndex + offset) % queue.maxMsgs) = some message

theorem advance_eq_mod {queue : RingQueue Message slots} {index : ℕ}
    (h : index < queue.maxMsgs) : queue.advance index = (index + 1) % queue.maxMsgs := by
  unfold advance
  split_ifs with hlast
  · rw [hlast, Nat.mod_self]
  · exact (Nat.mod_eq_of_lt (by omega)).symm

theorem lt_of_cell_eq_some {queue : RingQueue Message slots} {index : ℕ} {message : Message}
    (h : queue.cell index = some message) : index < slots := by
  by_contra hindex
  simp [cell, hindex] at h

@[simp]
theorem cell_pushed_self (queue : RingQueue Message slots) (slot : Fin slots) (message : Message) :
    (queue.pushed slot message).cell slot = some message := by
  simp [cell, pushed]

theorem cell_pushed_of_ne (queue : RingQueue Message slots) {slot : Fin slots} {index : ℕ}
    (h : index ≠ slot) (message : Message) :
    (queue.pushed slot message).cell index = queue.cell index := by
  by_cases hindex : index < slots
  · have hslot : (⟨index, hindex⟩ : Fin slots) ≠ slot := fun heq ↦ h (congrArg Fin.val heq)
    simp [cell, pushed, hindex, Function.update_of_ne hslot]
  · simp [cell, hindex]

theorem represents_init (cells : Fin slots → Option Message) {maxMsgs : ℕ} (h : 0 < maxMsgs) :
    (init cells maxMsgs).Represents [] where
  used := rfl
  bounded := by simp
  read_lt := h
  write_eq := by simp [init]
  cell_eq := by simp

theorem Represents.write_lt {queue : RingQueue Message slots} {messages : List Message}
    (h : queue.Represents messages) : queue.writeIndex < queue.maxMsgs := by
  rw [h.write_eq]
  exact Nat.mod_lt _ (Nat.zero_lt_of_lt h.read_lt)

theorem put_of_full {queue : RingQueue Message slots} (h : ¬ queue.usedMsgs < queue.maxMsgs)
    (message : Message) : queue.put message = .ok (false, queue) := by
  simp [put, h]

theorem put_of_overrun {queue : RingQueue Message slots} (hfree : queue.usedMsgs < queue.maxMsgs)
    (hwrite : ¬ queue.writeIndex < slots) (message : Message) :
    queue.put message = .error .outOfBounds := by
  simp [put, hfree, hwrite]

theorem taken_of_put {queue next : RingQueue Message slots} {message : Message} {taken : Bool}
    (h : queue.put message = .ok (taken, next)) :
    taken = decide (queue.usedMsgs < queue.maxMsgs) := by
  unfold put at h
  split_ifs at h with hfree hwrite
  · cases h
    exact (decide_eq_true hfree).symm
  · cases h
    exact (decide_eq_false hfree).symm

/-- A put into a slot inside the storage appends the message. -/
theorem Represents.put {queue : RingQueue Message slots} {messages : List Message}
    (h : queue.Represents messages) (hfree : messages.length < queue.maxMsgs)
    (hwrite : queue.writeIndex < slots) (message : Message) :
    ∃ next, queue.put message = .ok (true, next) ∧ next.Represents (messages ++ [message]) ∧
      next.maxMsgs = queue.maxMsgs ∧ next.writeIndex = queue.advance queue.writeIndex := by
  have hused : queue.usedMsgs < queue.maxMsgs := by
    rw [h.used]
    exact hfree
  refine ⟨queue.pushed ⟨queue.writeIndex, hwrite⟩ message,
    by rw [RingQueue.put, if_pos hused, dif_pos hwrite], ?_, rfl, rfl⟩
  refine ⟨by simp [pushed, h.used], by simpa [pushed] using Nat.succ_le_of_lt hfree, h.read_lt,
    ?_, ?_⟩
  · simp only [pushed]
    rw [advance_eq_mod h.write_lt, h.write_eq, Nat.mod_add_mod, List.length_append,
      List.length_singleton, Nat.add_assoc]
  · intro offset found hfound
    change (queue.pushed _ _).cell ((queue.readIndex + offset) % queue.maxMsgs) = some found
    rcases Nat.lt_trichotomy offset messages.length with hlt | heq | hgt
    · rw [List.getElem?_append_left hlt] at hfound
      have hne : (queue.readIndex + offset) % queue.maxMsgs ≠ queue.writeIndex := by
        rw [h.write_eq]
        intro hmod
        have hoffset : offset ≡ messages.length [MOD queue.maxMsgs] :=
          Nat.ModEq.add_left_cancel' _ hmod
        exact hlt.ne (Nat.ModEq.eq_of_lt_of_lt hoffset (hlt.trans hfree) hfree)
      rw [cell_pushed_of_ne queue hne]
      exact h.cell_eq _ _ hfound
    · subst heq
      have hmessage : message = found := by simpa using hfound
      rw [← h.write_eq, ← hmessage]
      exact cell_pushed_self queue ⟨queue.writeIndex, hwrite⟩ message
    · have hnone : (messages ++ [message])[offset]? = none := by
        rw [List.getElem?_eq_none_iff]
        simp
        omega
      simp [hnone] at hfound

theorem Represents.get_nil {queue : RingQueue Message slots} (h : queue.Represents []) :
    queue.get = .ok (none, queue) := by
  simp [RingQueue.get, h.used]

/-- A get takes the oldest message. -/
theorem Represents.get_cons {queue : RingQueue Message slots} {message : Message}
    {rest : List Message} (h : queue.Represents (message :: rest)) :
    ∃ next, queue.get = .ok (some message, next) ∧ next.Represents rest ∧
      next.maxMsgs = queue.maxMsgs ∧ next.writeIndex = queue.writeIndex := by
  have hcell : queue.cell queue.readIndex = some message := by
    have := h.cell_eq 0 message (by simp)
    rwa [Nat.add_zero, Nat.mod_eq_of_lt h.read_lt] at this
  have hread := lt_of_cell_eq_some hcell
  have hused : 0 < queue.usedMsgs := by simp [h.used]
  have hhead : queue.cells ⟨queue.readIndex, hread⟩ = some message := by
    simpa [cell, hread] using hcell
  have hadvance := advance_eq_mod h.read_lt
  refine ⟨queue.popped, by rw [RingQueue.get, if_pos hused, dif_pos hread, hhead], ?_, rfl, rfl⟩
  refine ⟨by simp [popped, h.used], ?_, ?_, ?_, ?_⟩
  · exact (Nat.le_succ _).trans h.bounded
  · simp only [popped, hadvance]
    exact Nat.mod_lt _ (Nat.zero_lt_of_lt h.read_lt)
  · simp only [popped]
    rw [h.write_eq, hadvance, Nat.mod_add_mod, List.length_cons]
    congr 1
    omega
  · intro offset found hfound
    have hnext := h.cell_eq (offset + 1) found (by simpa using hfound)
    simp only [popped]
    rw [hadvance, Nat.mod_add_mod]
    rw [show queue.readIndex + 1 + offset = queue.readIndex + (offset + 1) by omega]
    exact hnext

theorem Represents.get {queue : RingQueue Message slots} {messages : List Message}
    (h : queue.Represents messages) :
    ∃ next, queue.get = .ok (messages.head?, next) ∧ next.Represents messages.tail ∧
      next.maxMsgs = queue.maxMsgs ∧ next.writeIndex = queue.writeIndex := by
  cases messages with
  | nil => exact ⟨queue, h.get_nil, h, rfl, rfl⟩
  | cons message rest => exact h.get_cons

theorem Represents.purge {queue : RingQueue Message slots} {messages : List Message}
    (h : queue.Represents messages) : queue.purge.Represents [] where
  used := rfl
  bounded := by simp
  read_lt := h.write_lt
  write_eq := by simp [RingQueue.purge, Nat.mod_eq_of_lt h.write_lt]
  cell_eq := by simp

/-- A ring inside its storage that is purged whenever it refuses a message. -/
theorem Represents.put_or_purge {queue : RingQueue Message slots} {messages : List Message}
    (h : queue.Represents messages) (hslots : queue.maxMsgs ≤ slots) (message : Message) :
    ∃ next, queue.put message = .ok (decide (queue.usedMsgs < queue.maxMsgs), next) ∧
      (if queue.usedMsgs < queue.maxMsgs then next else next.purge).Represents
        (if queue.usedMsgs < queue.maxMsgs then messages ++ [message] else []) ∧
      next.maxMsgs = queue.maxMsgs := by
  by_cases hfree : queue.usedMsgs < queue.maxMsgs
  · have hroom : messages.length < queue.maxMsgs := by rwa [← h.used]
    obtain ⟨next, hput, hnext, hmax, -⟩ := h.put hroom (h.write_lt.trans_le hslots) message
    refine ⟨next, by simp [hput, hfree], ?_, hmax⟩
    rwa [if_pos hfree, if_pos hfree]
  · refine ⟨queue, by simp [put_of_full hfree, hfree], ?_, rfl⟩
    rw [if_neg hfree, if_neg hfree]
    exact h.purge

theorem Represents.unique {queue : RingQueue Message slots} {messages others : List Message}
    (h : queue.Represents messages) (hothers : queue.Represents others) : messages = others := by
  have hlength : messages.length = others.length := h.used.symm.trans hothers.used
  apply List.ext_getElem hlength
  intro offset hleft hright
  have hmessage := h.cell_eq offset _ (List.getElem?_eq_getElem hleft)
  have hother := hothers.cell_eq offset _ (List.getElem?_eq_getElem hright)
  exact Option.some.inj (hmessage.symm.trans hother)

/-- What a put that returns leaves behind. -/
theorem Represents.of_put {queue next : RingQueue Message slots} {messages : List Message}
    {message : Message} {taken : Bool} (h : queue.Represents messages)
    (hput : queue.put message = .ok (taken, next)) :
    next.Represents (if taken then messages ++ [message] else messages) := by
  by_cases hused : queue.usedMsgs < queue.maxMsgs
  · by_cases hwrite : queue.writeIndex < slots
    · obtain ⟨other, hother, hrepresents, -⟩ := h.put (by rwa [← h.used]) hwrite message
      rw [hput] at hother
      cases hother
      exact hrepresents
    · rw [put_of_overrun hused hwrite] at hput
      cases hput
  · rw [put_of_full hused] at hput
    cases hput
    exact h

theorem Represents.of_get {queue next : RingQueue Message slots} {messages : List Message}
    {found : Option Message} (h : queue.Represents messages)
    (hget : queue.get = .ok (found, next)) :
    found = messages.head? ∧ next.Represents messages.tail := by
  obtain ⟨other, hother, hrepresents, -⟩ := h.get
  rw [hget] at hother
  cases hother
  exact ⟨rfl, hrepresents⟩

end RingQueue
