import Mathlib.Data.List.FinRange
import CrownstoneRouter.Foundation.RingQueue
import CrownstoneRouter.PacketHandling.Packets

/-!
# The packet handler and its registry

The packet handler keeps its registered handlers in the first `handlerCtr` slots of a fixed array.
The counter never exceeds the array: a registration into a full array writes outside and has no
result. Removal copies inside the loop with a fixed target slot, exactly as the source does, so that
`shiftLoop` moves at most one handler, to the slot before the removed one.
-/

namespace CrownstoneRouter

open CheckedMemory

/-- The address of a class instance or of a callback. -/
abbrev Address := ℕ

/-- `k_work`: the callback of a work item and whether the item is queued. -/
structure KWork where
  handler : Address
  queued : Bool
  deriving DecidableEq

/-- `cs_packet_handler`; `workLock` is the hold count of the spin lock. -/
structure Handler where
  workItem : KWork
  workLock : ℕ
  id : InstanceId
  targetInst : Address
  msg : PacketBuffer
  result : PacketResult
  deriving DecidableEq

/-- `k_spin_lock` on the lock of a handler. -/
def Handler.lockWork (handler : Handler) : Handler :=
  { handler with workLock := handler.workLock + 1 }

/-- `k_spin_unlock` on the lock of a handler. -/
def Handler.unlockWork (handler : Handler) : Handler :=
  { handler with workLock := handler.workLock - 1 }

/-- A position in the array of handlers. -/
abbrev Slot := Fin packetHandlers

/-- `sizeof(cs_packet_data)`: four bytes, the packet buffer and its length. -/
abbrev sizeofPacketData : ℕ := 4 + (packetBufSize + 2)

/-- The size of `_msgq_buf` in bytes. -/
abbrev msgqBufSize : ℕ := sizeofPacketData * packetQueueSize

/-- The class `PacketHandler`; `pkthMtx` is the hold count of the mutex, and `threadRunning` tells
whether the packet thread has been created. -/
structure PacketHandler where
  initialized : Bool
  threadRunning : Bool
  pkthMsgq : RingQueue PacketData (msgqBufSize / sizeofPacketData)
  pkthMtx : ℕ
  handlers : Slot → Handler
  handlerCtr : ℕ
  handlerCtr_le : handlerCtr ≤ packetHandlers

namespace PacketHandler

/-- The object before `init`: nothing is registered, and the arrays hold what they held before. -/
def created (handlers : Slot → Handler)
    (cells : Fin (msgqBufSize / sizeofPacketData) → Option PacketData) : PacketHandler where
  initialized := false
  threadRunning := false
  pkthMsgq := RingQueue.init cells 0
  pkthMtx := 0
  handlers := handlers
  handlerCtr := 0
  handlerCtr_le := Nat.zero_le _

/-- `PacketHandler::init`. The message queue gets `CS_PACKET_BUF_SIZE` slots, although its buffer is
dimensioned for `CS_PACKET_QUEUE_SIZE`. -/
def init (pkth : PacketHandler) : RetCode × PacketHandler :=
  if pkth.initialized then (.alreadyInitialized, pkth)
  else
    (.ok, { pkth with
      pkthMtx := 0
      pkthMsgq := RingQueue.init pkth.pkthMsgq.cells packetBufSize
      threadRunning := true
      initialized := true })

/-- The object after `init`. -/
def booted (handlers : Slot → Handler)
    (cells : Fin (msgqBufSize / sizeofPacketData) → Option PacketData) : PacketHandler :=
  (created handlers cells).init.2

/-- The handler that `registerHandler` builds: zeroed, with the identifiers and the callback set. -/
def newHandler (instId : InstanceId) (inst cb : Address) : Handler where
  workItem := { handler := cb, queued := false }
  workLock := 0
  id := instId
  targetInst := inst
  msg := PacketBuffer.zero
  result := { type := 0, id := 0 }

/-- The array of handlers in zeroed memory. -/
def zeroedHandlers (_ : Slot) : Handler :=
  newHandler 0 0 0

/-- The message queue buffer before any message has been put into it. -/
def zeroedCells (_ : Fin (msgqBufSize / sizeofPacketData)) : Option PacketData :=
  none

/-- The first used slot with the given id. -/
def findSlot (pkth : PacketHandler) (instId : InstanceId) : Option Slot :=
  (List.finRange packetHandlers).find? fun slot ↦
    slot.val < pkth.handlerCtr && (pkth.handlers slot).id == instId

/-- `PacketHandler::getHandler`, with the slot in place of the pointer to it. -/
def getHandler (pkth : PacketHandler) (instId : InstanceId) : Option Slot :=
  if !pkth.initialized then none else pkth.findSlot instId

/-- `k_mutex_lock` on the registry mutex, which its owner may take again. -/
def lock (pkth : PacketHandler) : PacketHandler :=
  { pkth with pkthMtx := pkth.pkthMtx + 1 }

/-- `k_mutex_unlock` on the registry mutex. -/
def unlock (pkth : PacketHandler) : PacketHandler :=
  { pkth with pkthMtx := pkth.pkthMtx - 1 }

/-- `memcpy(&_handlers[_handler_ctr++], &handler, sizeof(handler))` -/
def append (pkth : PacketHandler) (h : pkth.handlerCtr < packetHandlers) (handler : Handler) :
    PacketHandler :=
  { pkth with
    handlers := Function.update pkth.handlers ⟨pkth.handlerCtr, h⟩ handler
    handlerCtr := pkth.handlerCtr + 1
    handlerCtr_le := h }

/-- `PacketHandler::registerHandler` -/
def registerHandler (pkth : PacketHandler) (instId : InstanceId) (inst cb : Address) :
    Checked (RetCode × PacketHandler) :=
  if !pkth.initialized then .ok (.notInitialized, pkth)
  else
    match pkth.lock.findSlot instId with
    -- returns with the mutex held
    | some _ => .ok (.handlerAlreadyRegistered, pkth.lock)
    | none =>
        if h : pkth.lock.handlerCtr < packetHandlers then
          .ok (.ok, (pkth.lock.append h (newHandler instId inst cb)).unlock)
        else .error .outOfBounds

/-- The target of a copy inside the array is one of its slots, and so is the source. -/
theorem toNat_lt_packetHandlers {target : ℤ} (h : 0 ≤ target ∧ target + 1 < packetHandlers) :
    target.toNat < packetHandlers := by
  omega

theorem toNat_succ_lt_packetHandlers {target : ℤ}
    (h : 0 ≤ target ∧ target + 1 < packetHandlers) : (target + 1).toNat < packetHandlers := by
  omega

/-- `_handlers[target] = _handlers[target + 1]`, as often as the loop counter allows. The target of
the copy does not move with the loop counter. -/
def shiftLoop (handlers : Slot → Handler) (target : ℤ) : ℕ → Checked (Slot → Handler)
  | 0 => .ok handlers
  | rounds + 1 =>
      if h : 0 ≤ target ∧ target + 1 < packetHandlers then
        shiftLoop (Function.update handlers ⟨target.toNat, toNat_lt_packetHandlers h⟩
          (handlers ⟨(target + 1).toNat, toNat_succ_lt_packetHandlers h⟩)) target rounds
      else .error .outOfBounds

/-- The object with the handlers replaced and one handler fewer in use. -/
def shrink (pkth : PacketHandler) (handlers : Slot → Handler) : PacketHandler :=
  { pkth with
    handlers := handlers
    handlerCtr := pkth.handlerCtr - 1
    handlerCtr_le := (Nat.sub_le _ _).trans pkth.handlerCtr_le }

/-- `PacketHandler::unregisterHandler` -/
def unregisterHandler (pkth : PacketHandler) (instId : InstanceId) :
    Checked (RetCode × PacketHandler) :=
  if !pkth.initialized then .ok (.notInitialized, pkth)
  else
    match pkth.lock.findSlot instId with
    | some slot => do
        let handlers ← shiftLoop pkth.handlers (slot.val - 1) (pkth.handlerCtr - 1 - slot.val)
        -- returns with the mutex held
        return (.ok, pkth.lock.shrink handlers)
    | none => .ok (.handlerNotFound, pkth.lock.unlock)

/-- Register several handlers in order, as the router does when it starts. -/
def registerAll (pkth : PacketHandler) : List (InstanceId × Address × Address) →
    Checked PacketHandler
  | [] => .ok pkth
  | (instId, inst, cb) :: rest => do
      let (_, pkth) ← pkth.registerHandler instId inst cb
      pkth.registerAll rest

/-! ## Lookups -/

/-- The used slots carry pairwise distinct ids. -/
def IdsDistinct (pkth : PacketHandler) : Prop :=
  ∀ ⦃left right : Slot⦄, left.val < pkth.handlerCtr → right.val < pkth.handlerCtr →
    (pkth.handlers left).id = (pkth.handlers right).id → left = right

@[simp]
theorem findSlot_lock (pkth : PacketHandler) (instId : InstanceId) :
    pkth.lock.findSlot instId = pkth.findSlot instId := rfl

@[simp]
theorem unlock_lock (pkth : PacketHandler) : pkth.lock.unlock = pkth := by
  simp [lock, unlock]

@[simp]
theorem unlock_append_lock (pkth : PacketHandler) (h : pkth.lock.handlerCtr < packetHandlers)
    (handler : Handler) : (pkth.lock.append h handler).unlock = pkth.append h handler := by
  simp [lock, append, unlock]

theorem getHandler_of_initialized {pkth : PacketHandler} (h : pkth.initialized = true)
    (instId : InstanceId) : pkth.getHandler instId = pkth.findSlot instId := by
  simp [getHandler, h]

theorem findSlot_spec {pkth : PacketHandler} {instId : InstanceId} {slot : Slot}
    (h : pkth.findSlot instId = some slot) :
    slot.val < pkth.handlerCtr ∧ (pkth.handlers slot).id = instId := by
  simpa using List.find?_some h

theorem getHandler_spec {pkth : PacketHandler} {instId : InstanceId} {slot : Slot}
    (h : pkth.getHandler instId = some slot) :
    slot.val < pkth.handlerCtr ∧ (pkth.handlers slot).id = instId := by
  unfold getHandler at h
  split at h
  · simp at h
  · exact findSlot_spec h

theorem getHandler_eq_iff {pkth : PacketHandler} {left right : InstanceId} {slot other : Slot}
    (hleft : pkth.getHandler left = some slot) (hright : pkth.getHandler right = some other) :
    slot = other ↔ left = right := by
  constructor
  · rintro rfl
    exact (getHandler_spec hleft).2.symm.trans (getHandler_spec hright).2
  · rintro rfl
    exact Option.some.inj (hleft.symm.trans hright)

theorem findSlot_eq_none {pkth : PacketHandler} {instId : InstanceId} :
    pkth.findSlot instId = none ↔
      ∀ slot : Slot, slot.val < pkth.handlerCtr → (pkth.handlers slot).id ≠ instId := by
  simp [findSlot]

theorem IdsDistinct.findSlot_eq_some {pkth : PacketHandler} (hdistinct : pkth.IdsDistinct)
    {instId : InstanceId} {slot : Slot} :
    pkth.findSlot instId = some slot ↔
      slot.val < pkth.handlerCtr ∧ (pkth.handlers slot).id = instId := by
  refine ⟨findSlot_spec, fun ⟨hused, hid⟩ ↦ ?_⟩
  cases hfound : pkth.findSlot instId with
  | none => exact absurd hid (findSlot_eq_none.mp hfound slot hused)
  | some found =>
    obtain ⟨hfoundUsed, hfoundId⟩ := findSlot_spec hfound
    rw [hdistinct hused hfoundUsed (hid.trans hfoundId.symm)]

/-! ## Registration -/

section Append

variable {pkth : PacketHandler} {instId : InstanceId} {inst cb : Address}

theorem registerHandler_of_present (hinit : pkth.initialized = true) {slot : Slot}
    (hfound : pkth.findSlot instId = some slot) :
    pkth.registerHandler instId inst cb = .ok (.handlerAlreadyRegistered, pkth.lock) := by
  simp [registerHandler, hinit, hfound]

theorem registerHandler_of_absent (hinit : pkth.initialized = true)
    (habsent : pkth.findSlot instId = none) (hroom : pkth.handlerCtr < packetHandlers) :
    pkth.registerHandler instId inst cb =
      .ok (.ok, pkth.append hroom (newHandler instId inst cb)) := by
  have hroom' : pkth.lock.handlerCtr < packetHandlers := hroom
  simp [registerHandler, hinit, habsent, hroom']

theorem registerHandler_of_full (hinit : pkth.initialized = true)
    (habsent : pkth.findSlot instId = none) (hfull : ¬ pkth.handlerCtr < packetHandlers) :
    pkth.registerHandler instId inst cb = .error .outOfBounds := by
  have hfull' : ¬ pkth.lock.handlerCtr < packetHandlers := hfull
  simp [registerHandler, hinit, habsent, hfull']

theorem handlers_append_self (hroom : pkth.handlerCtr < packetHandlers) (handler : Handler) :
    (pkth.append hroom handler).handlers ⟨pkth.handlerCtr, hroom⟩ = handler := by
  simp [append]

theorem handlers_append_of_used (hroom : pkth.handlerCtr < packetHandlers) (handler : Handler)
    {slot : Slot} (h : slot.val < pkth.handlerCtr) :
    (pkth.append hroom handler).handlers slot = pkth.handlers slot := by
  have hne : slot ≠ ⟨pkth.handlerCtr, hroom⟩ := fun heq ↦ h.ne (congrArg Fin.val heq)
  simp [append, Function.update_of_ne hne]

theorem used_append (hroom : pkth.handlerCtr < packetHandlers) (handler : Handler) {slot : Slot} :
    slot.val < (pkth.append hroom handler).handlerCtr ↔
      slot.val < pkth.handlerCtr ∨ slot = ⟨pkth.handlerCtr, hroom⟩ := by
  simp only [append, Fin.ext_iff]
  omega

theorem IdsDistinct.append (hdistinct : pkth.IdsDistinct)
    (hroom : pkth.handlerCtr < packetHandlers) {handler : Handler}
    (habsent : pkth.findSlot handler.id = none) : (pkth.append hroom handler).IdsDistinct := by
  have hnew := findSlot_eq_none.mp habsent
  intro left right hleft hright hid
  rcases (used_append hroom handler).mp hleft with hleft | rfl <;>
    rcases (used_append hroom handler).mp hright with hright | rfl
  · rw [handlers_append_of_used hroom handler hleft,
      handlers_append_of_used hroom handler hright] at hid
    exact hdistinct hleft hright hid
  · rw [handlers_append_of_used hroom handler hleft, handlers_append_self] at hid
    exact absurd hid (hnew left hleft)
  · rw [handlers_append_of_used hroom handler hright, handlers_append_self] at hid
    exact absurd hid.symm (hnew right hright)
  · rfl

theorem findSlot_append_self (hdistinct : pkth.IdsDistinct)
    (hroom : pkth.handlerCtr < packetHandlers) {handler : Handler}
    (habsent : pkth.findSlot handler.id = none) :
    (pkth.append hroom handler).findSlot handler.id = some ⟨pkth.handlerCtr, hroom⟩ := by
  rw [(hdistinct.append hroom habsent).findSlot_eq_some]
  exact ⟨Nat.lt_succ_self _, by rw [handlers_append_self]⟩

theorem findSlot_append_of_ne (hdistinct : pkth.IdsDistinct)
    (hroom : pkth.handlerCtr < packetHandlers) {handler : Handler}
    (habsent : pkth.findSlot handler.id = none) {other : InstanceId} (hne : other ≠ handler.id) :
    (pkth.append hroom handler).findSlot other = pkth.findSlot other := by
  ext slot
  rw [(hdistinct.append hroom habsent).findSlot_eq_some, hdistinct.findSlot_eq_some,
    used_append]
  constructor
  · rintro ⟨hused | rfl, hid⟩
    · rw [handlers_append_of_used hroom handler hused] at hid
      exact ⟨hused, hid⟩
    · rw [handlers_append_self] at hid
      exact absurd hid.symm hne
  · rintro ⟨hused, hid⟩
    exact ⟨.inl hused, by rw [handlers_append_of_used hroom handler hused, hid]⟩

/-- A registry that only registrations have been made in: its ids are distinct and its handlers are
new. -/
structure Fresh (pkth : PacketHandler) : Prop where
  initialized : pkth.initialized = true
  distinct : pkth.IdsDistinct
  used : ∀ slot : Slot, slot.val < pkth.handlerCtr →
    ∃ instId inst cb, pkth.handlers slot = newHandler instId inst cb

theorem fresh_booted (handlers : Slot → Handler)
    (cells : Fin (msgqBufSize / sizeofPacketData) → Option PacketData) :
    (booted handlers cells).Fresh where
  initialized := rfl
  distinct _ _ hleft := absurd hleft (Nat.not_lt_zero _)
  used _ hused := absurd hused (Nat.not_lt_zero _)

theorem Fresh.registerHandler (h : pkth.Fresh) {ret : RetCode} {after : PacketHandler}
    (hregister : pkth.registerHandler instId inst cb = .ok (ret, after)) : after.Fresh := by
  cases hfound : pkth.findSlot instId with
  | some slot =>
    rw [registerHandler_of_present h.initialized hfound] at hregister
    cases hregister
    exact ⟨h.initialized, h.distinct, h.used⟩
  | none =>
    by_cases hroom : pkth.handlerCtr < packetHandlers
    · rw [registerHandler_of_absent h.initialized hfound hroom] at hregister
      cases hregister
      refine ⟨h.initialized, h.distinct.append hroom hfound, fun slot hslot ↦ ?_⟩
      rcases (used_append hroom _).mp hslot with hused | rfl
      · rw [handlers_append_of_used hroom _ hused]
        exact h.used slot hused
      · rw [handlers_append_self]
        exact ⟨instId, inst, cb, rfl⟩
    · rw [registerHandler_of_full h.initialized hfound hroom] at hregister
      cases hregister

theorem Fresh.registerAll {registrations : List (InstanceId × Address × Address)}
    {after : PacketHandler} (h : pkth.Fresh) (hall : pkth.registerAll registrations = .ok after) :
    after.Fresh := by
  induction registrations generalizing pkth with
  | nil =>
    cases hall
    exact h
  | cons registration rest ih =>
    obtain ⟨instId, inst, cb⟩ := registration
    obtain ⟨⟨ret, next⟩, hregister, hrest⟩ := bind_eq_ok.mp hall
    exact ih (h.registerHandler hregister) hrest

end Append

/-! ## The registry of the router -/

/-- The handlers that `main` registers: cloud, Bluetooth peripheral and RS485. -/
def routerHandlers : List (InstanceId × Address × Address) :=
  [(instanceIdCloud, 1, 1), (instanceIdBlePeripheral, 2, 2), (instanceIdUartRs485, 3, 3)]

/-- The registry that `main` sets up in zeroed memory, with some more handlers if there is room for
them. -/
def routerRegistry (more : List (InstanceId × Address × Address)) : PacketHandler :=
  ((booted zeroedHandlers zeroedCells).registerAll (routerHandlers ++ more)).toOption.getD
    (booted zeroedHandlers zeroedCells)

theorem fresh_routerRegistry (more : List (InstanceId × Address × Address)) :
    (routerRegistry more).Fresh := by
  unfold routerRegistry
  cases hall : (booted zeroedHandlers zeroedCells).registerAll (routerHandlers ++ more) with
  | ok pkth => exact (fresh_booted zeroedHandlers zeroedCells).registerAll hall
  | error fault => exact fresh_booted zeroedHandlers zeroedCells

/-! ## Removal -/

section Shrink

variable {pkth : PacketHandler} {instId : InstanceId} {slot : Slot}

/-- The copies of the removal loop leave what the first of them leaves. -/
theorem shiftLoop_succ (handlers : Slot → Handler) {target next : Slot}
    (hnext : next.val = target.val + 1) (rounds : ℕ) :
    shiftLoop handlers target.val (rounds + 1) =
      .ok (Function.update handlers target (handlers next)) := by
  have hbound : (0 : ℤ) ≤ target.val ∧ (target.val : ℤ) + 1 < packetHandlers := by
    have := next.isLt
    omega
  have hslot : (⟨(target.val : ℤ).toNat, by omega⟩ : Slot) = target := by simp
  have hsource : (⟨((target.val : ℤ) + 1).toNat, by omega⟩ : Slot) = next :=
    Fin.ext (by simp only [hnext]; omega)
  induction rounds generalizing handlers with
  | zero => rw [shiftLoop, dif_pos hbound, hslot, hsource, shiftLoop]
  | succ rounds ih =>
    have hne : next ≠ target := fun heq ↦ by
      rw [heq] at hnext
      omega
    rw [shiftLoop, dif_pos hbound, hslot, hsource, ih]
    simp [Function.update_of_ne hne]

theorem unregisterHandler_of_absent (hinit : pkth.initialized = true)
    (habsent : pkth.findSlot instId = none) :
    pkth.unregisterHandler instId = .ok (.handlerNotFound, pkth) := by
  simp [unregisterHandler, hinit, habsent]

theorem unregisterHandler_of_last (hinit : pkth.initialized = true)
    (hfound : pkth.findSlot instId = some slot) (hlast : slot.val + 1 = pkth.handlerCtr) :
    pkth.unregisterHandler instId = .ok (.ok, pkth.lock.shrink pkth.handlers) := by
  have hrounds : pkth.handlerCtr - 1 - slot.val = 0 := by omega
  simp [unregisterHandler, hinit, hfound, hrounds, shiftLoop, bind, pure, Except.pure]

/-- Removing the first of several handlers writes in front of the array. -/
theorem unregisterHandler_of_first (hinit : pkth.initialized = true)
    (hfound : pkth.findSlot instId = some slot) (hfirst : slot.val = 0)
    (hmore : slot.val + 1 < pkth.handlerCtr) :
    pkth.unregisterHandler instId = .error .outOfBounds := by
  obtain ⟨rounds, hrounds⟩ : ∃ rounds, pkth.handlerCtr - 1 - slot.val = rounds + 1 :=
    ⟨pkth.handlerCtr - 2 - slot.val, by omega⟩
  have hfault : shiftLoop pkth.handlers (slot.val - 1) (rounds + 1) = .error .outOfBounds := by
    simp [shiftLoop, hfirst]
  simp only [unregisterHandler, hinit, findSlot_lock, hfound, hrounds, hfault]
  rfl

/-- Removing a handler with others on both sides copies it over the one before it. -/
theorem unregisterHandler_of_middle (hinit : pkth.initialized = true)
    (hfound : pkth.findSlot instId = some slot) {before : Slot} (hbefore : slot.val = before.val + 1)
    (hmore : slot.val + 1 < pkth.handlerCtr) :
    pkth.unregisterHandler instId =
      .ok (.ok, pkth.lock.shrink (Function.update pkth.handlers before (pkth.handlers slot))) := by
  obtain ⟨rounds, hrounds⟩ : ∃ rounds, pkth.handlerCtr - 1 - slot.val = rounds + 1 :=
    ⟨pkth.handlerCtr - 2 - slot.val, by omega⟩
  have htarget : (slot.val : ℤ) - 1 = (before.val : ℤ) := by omega
  simp only [unregisterHandler, hinit, findSlot_lock, hfound, hrounds, htarget,
    shiftLoop_succ pkth.handlers hbefore rounds]
  rfl

/-- Everything that a removal can do: nothing, remove the last handler, or copy a handler with others
on both sides over the one before it and forget the last one. -/
theorem unregisterHandler_cases {ret : RetCode} {next : PacketHandler}
    (h : pkth.unregisterHandler instId = .ok (ret, next)) :
    (ret ≠ .ok ∧ next = pkth) ∨
    ∃ slot, ret = .ok ∧ pkth.findSlot instId = some slot ∧
      ((slot.val + 1 = pkth.handlerCtr ∧ next = pkth.lock.shrink pkth.handlers) ∨
        ∃ before : Slot, slot.val = before.val + 1 ∧ slot.val + 1 < pkth.handlerCtr ∧
          next = pkth.lock.shrink (Function.update pkth.handlers before (pkth.handlers slot))) := by
  cases hinit : pkth.initialized with
  | false =>
    simp only [unregisterHandler, hinit] at h
    cases h
    exact .inl ⟨by decide, rfl⟩
  | true =>
    cases hfound : pkth.findSlot instId with
    | none =>
      rw [unregisterHandler_of_absent hinit hfound] at h
      cases h
      exact .inl ⟨by decide, rfl⟩
    | some slot =>
      have hused := (findSlot_spec hfound).1
      by_cases hlast : slot.val + 1 = pkth.handlerCtr
      · rw [unregisterHandler_of_last hinit hfound hlast] at h
        cases h
        exact .inr ⟨slot, rfl, rfl, .inl ⟨hlast, rfl⟩⟩
      · have hmore : slot.val + 1 < pkth.handlerCtr := by omega
        by_cases hfirst : slot.val = 0
        · rw [unregisterHandler_of_first hinit hfound hfirst hmore] at h
          cases h
        · obtain ⟨before, hbefore⟩ : ∃ before : Slot, slot.val = before.val + 1 :=
            ⟨⟨slot.val - 1, by omega⟩, by simp only; omega⟩
          rw [unregisterHandler_of_middle hinit hfound hbefore hmore] at h
          cases h
          exact .inr ⟨slot, rfl, rfl, .inr ⟨before, hbefore, hmore, rfl⟩⟩

theorem IdsDistinct.shrink (hdistinct : pkth.IdsDistinct) :
    (pkth.lock.shrink pkth.handlers).IdsDistinct := by
  intro left right hleft hright hid
  exact hdistinct (hleft.trans_le (Nat.sub_le _ _)) (hright.trans_le (Nat.sub_le _ _)) hid

/-- Without its last used slot the registry finds every id but the one of that slot. -/
theorem findSlot_shrink (hdistinct : pkth.IdsDistinct) (hfound : pkth.findSlot instId = some slot)
    (hlast : slot.val + 1 = pkth.handlerCtr) (other : InstanceId) :
    (pkth.lock.shrink pkth.handlers).findSlot other =
      if other = instId then none else pkth.findSlot other := by
  obtain ⟨hused, hid⟩ := findSlot_spec hfound
  ext candidate
  rw [hdistinct.shrink.findSlot_eq_some]
  change candidate.val < pkth.handlerCtr - 1 ∧ (pkth.handlers candidate).id = other ↔ _
  split_ifs with hother
  · subst hother
    simp only [iff_false, not_and]
    intro hcandidate hcandidateId
    have heq := hdistinct (hcandidate.trans_le (Nat.sub_le _ _)) hused (hcandidateId.trans hid.symm)
    rw [heq] at hcandidate
    omega
  · rw [hdistinct.findSlot_eq_some]
    refine and_congr_left fun hcandidateId ↦ ⟨fun hlt ↦ by omega, fun hlt ↦ ?_⟩
    have hne : candidate ≠ slot := fun heq ↦ hother (by rw [← hcandidateId, heq, hid])
    have hval : candidate.val ≠ slot.val := fun heq ↦ hne (Fin.ext heq)
    omega

end Shrink

end PacketHandler

end CrownstoneRouter
