import CrownstoneRouter.Drivers.BleAccesses
import CrownstoneRouter.Drivers.BleEvents
import CrownstoneRouter.Foundation.Transition
import CrownstoneRouter.Sockets.WebSocket

/-!
# Locks that are given back

Registrations hold the mutex of the registry, and the callbacks of the work items hold the lock of
their handler. The mutex may be taken again by the thread that holds it, so that a lock that has not
been given back goes unnoticed until another thread waits for it. `Balanced` names the paths on
which a call keeps a lock, and `StaysInside` the calls that do not leave the memory of the registry
or of their buffers.
-/

namespace CrownstoneRouter

open CheckedMemory CheckedRun

variable (text : BtAddrText)

@[simp]
theorem Handler.unlockWork_lockWork (handler : Handler) : handler.lockWork.unlockWork = handler := by
  simp [lockWork, unlockWork]

/-- A call that takes a lock. The state of the driver and the message in the handler are part of the
call, since anything may have happened to them since the last one. -/
inductive LockCall
  | registerHandler (instId : InstanceId) (inst cb : Address)
  | unregisterHandler (instId : InstanceId)
  | sendUartMessage (uart : Uart) (slot : Slot) (msg : PacketBuffer)
  | sendMessage (ws : WebSocket) (slot : Slot) (msg : PacketBuffer)
  | sendBleMessage (ble : BleDriver) (slot : Slot) (msg : PacketBuffer) (bt : BtAnswers)

namespace LockCall

/-- The handler whose lock the call takes. -/
def slot : LockCall → Option Slot
  | .registerHandler _ _ _ | .unregisterHandler _ => none
  | .sendUartMessage _ slot _ | .sendMessage _ slot _ | .sendBleMessage _ slot _ _ => some slot

end LockCall

namespace PacketHandler

def withMessage (pkth : PacketHandler) (slot : Slot) (msg : PacketBuffer) : Handler :=
  { pkth.handlers slot with msg := msg }

def setHandler (pkth : PacketHandler) (slot : Slot) (handler : Handler) : PacketHandler :=
  { pkth with handlers := Function.update pkth.handlers slot handler }

/-- The registry after a call. A websocket callback that waits for a connection has taken nothing. -/
def lockStep (pkth : PacketHandler) : LockCall → Checked PacketHandler
  | .registerHandler instId inst cb => do
      let (_, pkth) ← pkth.registerHandler instId inst cb
      return pkth
  | .unregisterHandler instId => do
      let (_, pkth) ← pkth.unregisterHandler instId
      return pkth
  | .sendUartMessage uart slot msg => do
      let (_, hdlr) ← uart.sendUartMessage (pkth.withMessage slot msg)
      return pkth.setHandler slot hdlr
  | .sendMessage ws slot msg =>
      match ws.sendMessage (pkth.withMessage slot msg) with
      | some (hdlr, _) => .ok (pkth.setHandler slot hdlr)
      | none => .ok pkth
  | .sendBleMessage ble slot msg bt => do
      let (_, hdlr, _) ← ble.sendBleMessage text (pkth.withMessage slot msg) bt
      return pkth.setHandler slot hdlr

/-- The mutex and the lock of the handler are held as often as before. -/
structure SameLocks (pkth next : PacketHandler) (call : LockCall) : Prop where
  mutex : next.pkthMtx = pkth.pkthMtx
  work : ∀ slot, call.slot = some slot →
    (next.handlers slot).workLock = (pkth.handlers slot).workLock

/-- The call returns with the locks as on entry. -/
def LocksKept (pkth : PacketHandler) (call : LockCall) : Prop :=
  ∃ next, pkth.lockStep text call = .ok next ∧ SameLocks pkth next call

/-- The call takes no path on which it keeps a lock: no id is registered twice, no registered id is
removed, and no message is sent to a peripheral whose control handle is unknown. -/
def Balanced (pkth : PacketHandler) : LockCall → Prop
  | .registerHandler instId _ _ | .unregisterHandler instId =>
      pkth.initialized = true → pkth.findSlot instId = none
  | .sendUartMessage _ _ _ | .sendMessage _ _ _ => True
  | .sendBleMessage ble _ _ _ => ¬ (ble.isConnected = true ∧ ble.controlHandle = 0)

/-- The call stays inside the memory: there is room for a new handler, a message that is copied fits
its buffer, and a message that is read as a text has an end. -/
def StaysInside (pkth : PacketHandler) : LockCall → Prop
  | .registerHandler _ _ _ => pkth.initialized = true → pkth.handlerCtr < packetHandlers
  | .unregisterHandler _ | .sendMessage _ _ _ => True
  | .sendUartMessage uart _ msg => uart.initialized = true → msg.bufLen.toNat ≤ packetBufSize
  | .sendBleMessage ble _ msg bt => ble.SendsInside msg bt.mtu

/-- No lock is held. -/
structure LocksFree (pkth : PacketHandler) : Prop where
  mutex : pkth.pkthMtx = 0
  work : ∀ slot, (pkth.handlers slot).workLock = 0

variable {text} {pkth next : PacketHandler}

/-! ## Calls that keep a lock -/

theorem not_locksKept_of_held {call : LockCall} (hstep : pkth.lockStep text call = .ok next)
    (hmutex : next.pkthMtx = pkth.pkthMtx + 1) : ¬ LocksKept text pkth call := by
  rintro ⟨after, hafter, hsame⟩
  obtain rfl : next = after := Except.ok.inj (hstep.symm.trans hafter)
  have hmtx := hsame.mutex
  omega

theorem not_locksKept_of_error {call : LockCall} {fault : Fault}
    (hstep : pkth.lockStep text call = .error fault) : ¬ LocksKept text pkth call := by
  rintro ⟨after, hafter, -⟩
  rw [hstep] at hafter
  cases hafter

theorem not_locksKept_registerHandler {instId : InstanceId} {inst cb : Address} {slot : Slot}
    (hinit : pkth.initialized = true) (hfound : pkth.findSlot instId = some slot) :
    ¬ LocksKept text pkth (.registerHandler instId inst cb) := by
  have hreturn : pkth.registerHandler instId inst cb =
      .ok (.handlerAlreadyRegistered, pkth.lock) := registerHandler_of_present hinit hfound
  exact not_locksKept_of_held (bind_eq_ok.mpr ⟨_, hreturn, rfl⟩) rfl

/-- A registered id, whose removal ends with the mutex held, or writes in front of the handlers. -/
theorem not_locksKept_unregisterHandler {instId : InstanceId} {slot : Slot}
    (hinit : pkth.initialized = true) (hfound : pkth.findSlot instId = some slot) :
    ¬ LocksKept text pkth (.unregisterHandler instId) := by
  have hused := (findSlot_spec hfound).1
  by_cases hlast : slot.val + 1 = pkth.handlerCtr
  · have hreturn := unregisterHandler_of_last hinit hfound hlast
    exact not_locksKept_of_held (bind_eq_ok.mpr ⟨_, hreturn, rfl⟩) rfl
  by_cases hfirst : slot.val = 0
  · have hreturn := unregisterHandler_of_first hinit hfound hfirst (by omega)
    have hstep : pkth.lockStep text (.unregisterHandler instId) = .error .outOfBounds := by
      rw [lockStep, hreturn]
      rfl
    exact not_locksKept_of_error hstep
  · obtain ⟨before, hbefore⟩ : ∃ before : Slot, slot.val = before.val + 1 :=
      ⟨⟨slot.val - 1, by omega⟩, by simp only; omega⟩
    have hreturn := unregisterHandler_of_middle hinit hfound hbefore (by omega)
    exact not_locksKept_of_held (bind_eq_ok.mpr ⟨_, hreturn, rfl⟩) rfl

/-- A peripheral whose control handle is unknown. -/
theorem not_locksKept_sendBleMessage {ble : BleDriver} {slot : Slot} {msg : PacketBuffer}
    {bt : BtAnswers} (hunknown : ble.isConnected = true ∧ ble.controlHandle = 0) :
    ¬ LocksKept text pkth (.sendBleMessage ble slot msg bt) := by
  rintro ⟨next, hnext, hsame⟩
  have hstep : pkth.lockStep text (.sendBleMessage ble slot msg bt) =
      .ok (pkth.setHandler slot (pkth.withMessage slot msg).lockWork) := by
    simp [lockStep, BleDriver.sendBleMessage, hunknown.1, hunknown.2, bind, pure, Except.pure]
  obtain rfl := Except.ok.inj (hstep.symm.trans hnext)
  have hwork := hsame.work slot rfl
  simp [setHandler, Handler.lockWork, withMessage] at hwork

theorem LocksKept.balanced {call : LockCall} (hkept : LocksKept text pkth call) :
    pkth.Balanced call := by
  cases call with
  | registerHandler instId inst cb =>
    intro hinit
    cases hfound : pkth.findSlot instId with
    | none => rfl
    | some slot => exact absurd hkept (not_locksKept_registerHandler hinit hfound)
  | unregisterHandler instId =>
    intro hinit
    cases hfound : pkth.findSlot instId with
    | none => rfl
    | some slot => exact absurd hkept (not_locksKept_unregisterHandler hinit hfound)
  | sendUartMessage uart slot msg => trivial
  | sendMessage ws slot msg => trivial
  | sendBleMessage ble slot msg bt =>
    exact fun hunknown ↦ not_locksKept_sendBleMessage hunknown hkept

/-! ## The callbacks -/

theorem sendUartMessage_handler {uart after : Uart} {hdlr returned : Handler}
    (h : uart.sendUartMessage hdlr = .ok (after, returned)) : returned = hdlr := by
  unfold Uart.sendUartMessage at h
  split_ifs at h
  · cases h
    rfl
  · obtain ⟨uartBuf, -, h⟩ := bind_eq_ok.mp h
    cases h
    exact hdlr.unlockWork_lockWork

theorem sendMessage_handler {ws : WebSocket} {hdlr returned : Handler} {calls : List NetCall}
    (h : ws.sendMessage hdlr = some (returned, calls)) : returned = hdlr := by
  unfold WebSocket.sendMessage at h
  split_ifs at h
  · cases h
    rfl
  · cases h
    exact hdlr.unlockWork_lockWork

theorem sendBleMessage_handler {ble after : BleDriver} {hdlr returned : Handler} {bt : BtAnswers}
    {calls : List BleCall} (h : ble.sendBleMessage text hdlr bt = .ok (after, returned, calls)) :
    returned = if ble.isConnected = true ∧ ble.controlHandle = 0 then hdlr.lockWork else hdlr := by
  rcases BleDriver.sendBleMessage_cases h with
    ⟨hconn, rfl, -⟩ | ⟨-, hhandle, rfl, -⟩ | ⟨hconn, hhandle, rfl, -⟩
  · rw [if_neg (by simp [hconn]), hdlr.unlockWork_lockWork]
  · rw [if_neg (fun hboth ↦ hhandle hboth.2), hdlr.unlockWork_lockWork]
  · rw [if_pos ⟨hconn, hhandle⟩]

/-! ## Balanced calls -/

/-- Everything that a balanced call can do: nothing, append a new handler, or write back a handler
with its message. -/
theorem balanced_cases {call : LockCall} (hbalanced : pkth.Balanced call)
    (hstep : pkth.lockStep text call = .ok next) :
    next = pkth ∨
    (call.slot = none ∧ ∃ hroom instId inst cb,
      next = pkth.append hroom (newHandler instId inst cb)) ∨
    ∃ slot msg, call.slot = some slot ∧ next = pkth.setHandler slot (pkth.withMessage slot msg) := by
  cases call with
  | registerHandler instId inst cb =>
    obtain ⟨⟨ret, after⟩, hregister, hnext⟩ := bind_eq_ok.mp hstep
    cases hnext
    cases hinit : pkth.initialized with
    | false =>
      simp only [registerHandler, hinit] at hregister
      cases hregister
      exact .inl rfl
    | true =>
      have habsent := hbalanced hinit
      by_cases hroom : pkth.handlerCtr < packetHandlers
      · rw [registerHandler_of_absent hinit habsent hroom] at hregister
        cases hregister
        exact .inr (.inl ⟨rfl, hroom, instId, inst, cb, rfl⟩)
      · rw [registerHandler_of_full hinit habsent hroom] at hregister
        cases hregister
  | unregisterHandler instId =>
    obtain ⟨⟨ret, after⟩, hunregister, hnext⟩ := bind_eq_ok.mp hstep
    cases hnext
    cases hinit : pkth.initialized with
    | false =>
      simp only [unregisterHandler, hinit] at hunregister
      cases hunregister
      exact .inl rfl
    | true =>
      cases hfound : pkth.findSlot instId with
      | none =>
        rw [unregisterHandler_of_absent hinit hfound] at hunregister
        cases hunregister
        exact .inl rfl
      | some slot => exact absurd (hbalanced hinit) (by simp [hfound])
  | sendUartMessage uart slot msg =>
    obtain ⟨⟨after, returned⟩, hsend, hnext⟩ := bind_eq_ok.mp hstep
    cases hnext
    rw [sendUartMessage_handler hsend]
    exact .inr (.inr ⟨slot, msg, rfl, rfl⟩)
  | sendMessage ws slot msg =>
    simp only [lockStep] at hstep
    cases hsend : ws.sendMessage (pkth.withMessage slot msg) with
    | none =>
      rw [hsend] at hstep
      cases hstep
      exact .inl rfl
    | some result =>
      obtain ⟨returned, calls⟩ := result
      rw [hsend] at hstep
      cases hstep
      rw [sendMessage_handler hsend]
      exact .inr (.inr ⟨slot, msg, rfl, rfl⟩)
  | sendBleMessage ble slot msg bt =>
    obtain ⟨⟨after, returned, calls⟩, hsend, hnext⟩ := bind_eq_ok.mp hstep
    cases hnext
    rw [sendBleMessage_handler hsend, if_neg hbalanced]
    exact .inr (.inr ⟨slot, msg, rfl, rfl⟩)

/-- A balanced call that returns leaves the locks as on entry. -/
theorem SameLocks.of_balanced {call : LockCall} (hbalanced : pkth.Balanced call)
    (hstep : pkth.lockStep text call = .ok next) : SameLocks pkth next call := by
  rcases balanced_cases hbalanced hstep with
    rfl | ⟨hnone, hroom, instId, inst, cb, rfl⟩ | ⟨slot, msg, hslot, rfl⟩
  · exact ⟨rfl, fun _ _ ↦ rfl⟩
  · exact ⟨rfl, fun slot hsome ↦ by simp [hnone] at hsome⟩
  · refine ⟨rfl, fun other hother ↦ ?_⟩
    obtain rfl : slot = other := Option.some.inj (hslot.symm.trans hother)
    simp [setHandler, withMessage]

/-- A balanced call returns exactly if it stays inside the memory. -/
theorem lockStep_returns_iff {call : LockCall} (hbalanced : pkth.Balanced call) :
    (∃ next, pkth.lockStep text call = .ok next) ↔ pkth.StaysInside call := by
  cases call with
  | registerHandler instId inst cb =>
    refine (bind_returns_iff fun _ ↦ ⟨_, rfl⟩).trans ?_
    cases hinit : pkth.initialized with
    | false =>
      have hreturn : pkth.registerHandler instId inst cb = .ok (.notInitialized, pkth) := by
        rw [registerHandler, hinit]
        rfl
      exact iff_of_true ⟨_, hreturn⟩ (by simp [StaysInside, hinit])
    | true =>
      have habsent := hbalanced hinit
      by_cases hroom : pkth.handlerCtr < packetHandlers
      · exact iff_of_true ⟨_, registerHandler_of_absent hinit habsent hroom⟩ fun _ ↦ hroom
      · rw [registerHandler_of_full hinit habsent hroom]
        exact iff_of_false (by simp) fun hinside ↦ hroom (hinside hinit)
  | unregisterHandler instId =>
    refine iff_of_true ((bind_returns_iff fun _ ↦ ⟨_, rfl⟩).mpr ?_) trivial
    cases hinit : pkth.initialized with
    | false => exact ⟨(.notInitialized, pkth), by rw [unregisterHandler, hinit]; rfl⟩
    | true => exact ⟨_, unregisterHandler_of_absent hinit (hbalanced hinit)⟩
  | sendUartMessage uart slot msg =>
    refine (bind_returns_iff fun _ ↦ ⟨_, rfl⟩).trans ?_
    exact uart.sendUartMessage_returns_iff (pkth.withMessage slot msg)
  | sendMessage ws slot msg =>
    refine iff_of_true ?_ trivial
    simp only [lockStep]
    split
    · exact ⟨_, rfl⟩
    · exact ⟨_, rfl⟩
  | sendBleMessage ble slot msg bt =>
    refine (bind_returns_iff fun _ ↦ ⟨_, rfl⟩).trans ?_
    exact ble.sendBleMessage_returns_iff (pkth.withMessage slot msg) bt

theorem locksKept_iff (call : LockCall) :
    LocksKept text pkth call ↔ pkth.Balanced call ∧ pkth.StaysInside call := by
  constructor
  · intro hkept
    obtain ⟨next, hstep, -⟩ := id hkept
    exact ⟨hkept.balanced, (lockStep_returns_iff hkept.balanced).mp ⟨next, hstep⟩⟩
  · rintro ⟨hbalanced, hinside⟩
    obtain ⟨next, hstep⟩ := (lockStep_returns_iff hbalanced).mpr hinside
    exact ⟨next, hstep, .of_balanced hbalanced hstep⟩

theorem LocksFree.append (h : pkth.LocksFree) (hroom : pkth.handlerCtr < packetHandlers)
    (instId : InstanceId) (inst cb : Address) :
    (pkth.append hroom (newHandler instId inst cb)).LocksFree where
  mutex := h.mutex
  work slot := by
    by_cases hnew : slot = ⟨pkth.handlerCtr, hroom⟩
    · simp [PacketHandler.append, newHandler, hnew]
    · simp [PacketHandler.append, Function.update_of_ne hnew, h.work slot]

theorem LocksFree.setHandler (h : pkth.LocksFree) (slot : Slot) (msg : PacketBuffer) :
    (pkth.setHandler slot (pkth.withMessage slot msg)).LocksFree where
  mutex := h.mutex
  work other := by
    by_cases hother : other = slot
    · simp [PacketHandler.setHandler, withMessage, hother, h.work slot]
    · simp [PacketHandler.setHandler, Function.update_of_ne hother, h.work other]

/-- Balanced calls leave no lock held where none was. -/
theorem LocksFree.step {call : LockCall} (h : pkth.LocksFree) (hbalanced : pkth.Balanced call)
    (hstep : pkth.lockStep text call = .ok next) : next.LocksFree := by
  rcases balanced_cases hbalanced hstep with
    rfl | ⟨-, hroom, instId, inst, cb, rfl⟩ | ⟨slot, msg, -, rfl⟩
  · exact h
  · exact h.append hroom instId inst cb
  · exact h.setHandler slot msg

/-- Every call of a sequence returns with the locks as on entry if and only if every call is balanced
and stays inside the memory. Such a sequence returns, and nobody waits for a lock after it: none is
held where none was at the beginning. -/
theorem locks_kept_iff (pkth : PacketHandler) (calls : List LockCall) :
    (Along (lockStep text) (LocksKept text) pkth calls ↔
      Along (lockStep text) (fun pkth call ↦ pkth.Balanced call ∧ pkth.StaysInside call)
        pkth calls) ∧
    (Along (lockStep text) (LocksKept text) pkth calls →
      ∃ last, run (lockStep text) pkth calls = .ok last ∧ (pkth.LocksFree → last.LocksFree)) := by
  constructor
  · exact along_congr (fun _ _ ↦ locksKept_iff _) (fun _ _ _ _ ↦ trivial) trivial along_true
  · refine run_returns_along (fun next : PacketHandler ↦ pkth.LocksFree → next.LocksFree) ?_ id
    rintro state call hfree hkept
    obtain ⟨next, hstep, -⟩ := id hkept
    exact ⟨next, hstep, fun hstart ↦ (hfree hstart).step hkept.balanced hstep⟩

def noPeripherals : BtAddrText where
  fromStr _ addr := (-22, addr)
  toStr _ := []

/-- Registering the cloud a second time keeps the mutex. -/
theorem second_registration_not_kept :
    ¬ Along (lockStep noPeripherals) (LocksKept noPeripherals) (routerRegistry [])
      [.registerHandler instanceIdCloud 1 1] := by
  rintro ⟨hkept, -⟩
  have hfound : (routerRegistry []).findSlot instanceIdCloud = some 0 := by decide +kernel
  exact not_locksKept_registerHandler (fresh_routerRegistry []).initialized hfound hkept

end PacketHandler

end CrownstoneRouter
