import CrownstoneRouter.Drivers.BleEvents
import CrownstoneRouter.Foundation.Transition

/-!
# The handle of the connected peripheral

The handle that messages are written to stays in the driver when a connection ends, and nothing
forgets it when the next one begins. A message is therefore written to a characteristic of the
connected peripheral exactly if discovery has reported the control characteristic on this connection
before.
-/

namespace CrownstoneRouter

open CheckedMemory CheckedRun BleDriver

variable (text : BtAddrText)

/-- A driver, and the control handle that has last been reported, if this was on the connection that
the driver holds. -/
structure HandleRun where
  ble : BleDriver
  reported : Option UInt16

namespace HandleRun

/-- A driver before anything has been reported. -/
def start (ble : BleDriver) : HandleRun where
  ble := ble
  reported := none

/-- What has been reported after an event. A new connection begins with `bt_conn_le_create`. -/
def reportedAfter (run : HandleRun) (event : BleEvent) (next : BleDriver) (calls : List BleCall) :
    Option UInt16 :=
  match event.action with
  | .discovered conn (some attr) fresh =>
      if run.ble.ReportsControl attr fresh then
        if run.ble.conn = some conn then some attr.valueHandle else none
      else run.reported
  | .deviceFound addr _ =>
      if .connCreate addr ∈ calls ∧ event.answers.connCreate = 0 then none else run.reported
  | .connectionResult _ _ _ | .disconnected _ _ _ =>
      if next.conn = none then none else run.reported
  | _ => run.reported

def step (run : HandleRun) (event : BleEvent) : Checked HandleRun := do
  let (ble, calls) ← run.ble.perform text event
  return { ble, reported := run.reportedAfter event ble calls }

/-- A call writes, if at all, to the handle that has been reported. -/
def WritesReported (reported : Option UInt16) : BleCall → Prop
  | .gattWrite _ params => reported = some params.handle
  | _ => True

/-- The calls that are made to send a message. -/
def sentCalls (ble : BleDriver) (hdlr : Handler) (bt : BtAnswers) : List BleCall :=
  match ble.sendBleMessage text hdlr bt with
  | .ok (_, _, calls) => calls
  | .error _ => []

/-- A message is only written to the control handle reported on the current connection. -/
def Lawful (run : HandleRun) (event : BleEvent) : Prop :=
  match event.action with
  | .sendMessage hdlr =>
      ∀ call ∈ sentCalls text run.ble hdlr event.answers, WritesReported run.reported call
  | _ => True

/-- A message that would be written is sent after the control handle has been reported. -/
def Discovered (run : HandleRun) (event : BleEvent) : Prop :=
  match event.action with
  | .sendMessage hdlr =>
      run.ble.controlHandle ≠ 0 ∧ run.ble.ReachesWrite event.answers.mtu ∧
        hdlr.msg.bufLen.toNat ≤ packetBufSize → run.reported ≠ none
  | _ => True

instance (reported : Option UInt16) : ∀ call, Decidable (WritesReported reported call)
  | .gattWrite _ _ => inferInstanceAs (Decidable (_ = _))
  | .scanStart | .scanStop | .acceptListAdd _ | .acceptListClear | .connCreate _ | .connUnref _
  | .connDisconnect _ _ | .exchangeMtu _ | .gattDiscover _ _ | .gattSubscribe _ _ | .gattRead _ _
  | .handlePacket _ => inferInstanceAs (Decidable True)

instance (run : HandleRun) : ∀ event, Decidable (run.Lawful text event)
  | { action := .sendMessage _, answers := _ } => inferInstanceAs (Decidable (∀ call ∈ _, _))
  | { action := .connect _, answers := _ } | { action := .discoverServices _, answers := _ }
  | { action := .write _ _ _, answers := _ } | { action := .read _, answers := _ }
  | { action := .disconnect, answers := _ } | { action := .deviceFound _ _, answers := _ }
  | { action := .connectionResult _ _ _, answers := _ }
  | { action := .disconnected _ _ _, answers := _ } | { action := .discovered _ _ _, answers := _ }
  | { action := .discoveryDone _, answers := _ } | { action := .notified _ _ _, answers := _ }
  | { action := .readResult _ _ _, answers := _ } => inferInstanceAs (Decidable True)

variable {text}

/-- What has been reported is what the driver holds. -/
def Holds (run : HandleRun) : Prop :=
  ∀ handle, run.reported = some handle → run.ble.controlHandle = handle

/-- A report of a control handle outlives an event only if the connection does. -/
theorem conn_of_reported {run next : HandleRun} {event : BleEvent}
    (hstep : run.step text event = .ok next) (hreported : next.reported ≠ none) :
    next.ble.conn = run.ble.conn := by
  obtain ⟨⟨ble, calls⟩, hperform, hnext⟩ := bind_eq_ok.mp hstep
  cases hnext
  obtain ⟨-, hother⟩ := perform_effect hperform
  obtain ⟨action, bt⟩ := event
  cases action with
  | deviceFound addr type =>
    rcases handleBleDeviceFound_cases hperform with
      ⟨rfl, -⟩ | ⟨-, -, ret, asked, hconnect, -⟩ | ⟨-, hcreate, rfl, rfl⟩
    · rfl
    · exact (SameLink.of_connect hconnect).conn
    · exact absurd (if_pos ⟨by simp, hcreate⟩) hreported
  | connectionResult conn connErr dst =>
    rcases handleConnectionResult_cases hperform with
      ⟨-, ret, asked, hconnect, -⟩ | ⟨-, discover, subscribe, rfl⟩
    · exact absurd (if_pos (SameLink.of_connect hconnect).conn) hreported
    · rfl
  | disconnected conn reason dst =>
    rcases handleDisonnectionResult_cases hperform with
      ⟨-, rfl, -⟩ | ⟨-, rfl, -⟩ | ⟨-, ret, asked, hconnect, -⟩
    · rfl
    · have hnone : run.reportedAfter { action := .disconnected conn reason dst, answers := bt }
          { run.ble with conn := none, availableEvent := true } calls = none := by
        simp [reportedAfter]
      exact absurd hnone hreported
    · exact absurd (if_pos (SameLink.of_connect hconnect).conn) hreported
  | connect deviceAddr => exact hother rfl
  | discoverServices uuid => exact hother rfl
  | write handle data len => exact hother rfl
  | read handle => exact hother rfl
  | disconnect => exact hother rfl
  | sendMessage hdlr => exact hother rfl
  | discovered conn attr fresh => exact hother rfl
  | discoveryDone err => exact hother rfl
  | notified conn data length => exact hother rfl
  | readResult err data length => exact hother rfl

/-- The invariant of every run. -/
theorem Holds.step {run next : HandleRun} {event : BleEvent} (h : run.Holds)
    (hstep : run.step text event = .ok next) : next.Holds := by
  obtain ⟨⟨ble, calls⟩, hperform, hnext⟩ := bind_eq_ok.mp hstep
  cases hnext
  obtain ⟨heffect, -⟩ := perform_effect hperform
  -- Whatever is kept of the report is still the control handle.
  have hkept {handle : UInt16} (hsame : run.ble.controlHandleAfter event.action =
      run.ble.controlHandle) (hreported : run.reported = some handle) : ble.controlHandle = handle :=
    heffect.trans (hsame.trans (h handle hreported))
  have hreset {p : Prop} [Decidable p] {handle : UInt16}
      (hreported : (if p then none else run.reported) = some handle) :
      run.reported = some handle := by
    split_ifs at hreported
    exact hreported
  intro handle hreported
  obtain ⟨action, bt⟩ := event
  cases action with
  | discovered conn attr fresh =>
    cases attr with
    | none => exact hkept rfl hreported
    | some attr =>
      by_cases hcontrol : run.ble.ReportsControl attr fresh
      · have hvalue : ble.controlHandle = attr.valueHandle := heffect.trans (if_pos hcontrol)
        have hours : (if run.ble.conn = some conn then some attr.valueHandle else none) =
            some handle := (if_pos hcontrol).symm.trans hreported
        split_ifs at hours
        exact hvalue.trans (Option.some.inj hours)
      · exact hkept (if_neg hcontrol) ((if_neg hcontrol).symm.trans hreported)
  | deviceFound addr type => exact hkept rfl (hreset hreported)
  | connectionResult conn connErr dst => exact hkept rfl (hreset hreported)
  | disconnected conn reason dst => exact hkept rfl (hreset hreported)
  | connect deviceAddr => exact hkept rfl hreported
  | discoverServices uuid => exact hkept rfl hreported
  | write handle data len => exact hkept rfl hreported
  | read handle => exact hkept rfl hreported
  | disconnect => exact hkept rfl hreported
  | sendMessage hdlr => exact hkept rfl hreported
  | discoveryDone err => exact hkept rfl hreported
  | notified conn data length => exact hkept rfl hreported
  | readResult err data length => exact hkept rfl hreported

/-- A message that is sent after the control handle has been reported is written to it. -/
theorem Holds.writesReported {run : HandleRun} {hdlr : Handler} {bt : BtAnswers} (h : run.Holds)
    (hdiscovered : run.ble.controlHandle ≠ 0 ∧ run.ble.ReachesWrite bt.mtu ∧
      hdlr.msg.bufLen.toNat ≤ packetBufSize → run.reported ≠ none) :
    ∀ call ∈ sentCalls text run.ble hdlr bt, WritesReported run.reported call := by
  unfold sentCalls
  intro call hcall
  cases hsend : run.ble.sendBleMessage text hdlr bt with
  | error fault =>
    rw [hsend] at hcall
    cases hcall
  | ok result =>
    obtain ⟨next, after, calls⟩ := result
    rw [hsend] at hcall
    rcases sendBleMessage_cases hsend with
      ⟨-, -, ret, hconnect⟩ | ⟨-, hhandle, -, ret, hwrite⟩ | ⟨-, -, -, -, rfl⟩
    · rcases connect_cases hconnect with ⟨-, rfl⟩ | ⟨str, -, -, rfl⟩
      · cases hcall
      · simp only [List.mem_cons, List.not_mem_nil, or_false] at hcall
        rcases hcall with rfl | rfl
        · trivial
        · trivial
    · rcases writeHandle_cases hwrite with ⟨-, -, -, rfl⟩ | ⟨hreaches, bleBuf, hcopy, -, rfl⟩
      · cases hcall
      · rw [Buffer.memcpy_zero] at hcopy
        have hfits := (guard_eq_ok.mp hcopy).1.2
        obtain ⟨handle, hreported⟩ :=
          Option.ne_none_iff_exists'.mp (hdiscovered ⟨hhandle, hreaches, hfits⟩)
        rw [List.mem_singleton.mp hcall, hreported]
        exact congrArg some (h handle hreported).symm
    · cases hcall

/-- While the invariant holds, the messages that are written to the reported handle are those sent
after it has been reported. -/
theorem Holds.lawful_iff {run : HandleRun} {event : BleEvent} (h : run.Holds) :
    run.Lawful text event ↔ run.Discovered event := by
  obtain ⟨action, bt⟩ := event
  cases action with
  | sendMessage hdlr =>
    constructor
    · rintro hlawful ⟨hhandle, hreaches, hfits⟩
      obtain ⟨next, after, hsend⟩ : ∃ next after, run.ble.sendBleMessage text hdlr bt =
          .ok (next, after,
            [.gattWrite run.ble.conn
              { handle := run.ble.controlHandle, length := hdlr.msg.bufLen }]) :=
        sendBleMessage_writes hhandle hreaches hfits
      have hcall : .gattWrite run.ble.conn
          { handle := run.ble.controlHandle, length := hdlr.msg.bufLen } ∈
            sentCalls text run.ble hdlr bt := by
        simp only [sentCalls, hsend, List.mem_singleton]
      have hreported : run.reported = some run.ble.controlHandle := hlawful _ hcall
      exact hreported ▸ Option.some_ne_none run.ble.controlHandle
    · exact fun hdiscovered ↦ h.writesReported hdiscovered
  | _ => exact Iff.rfl

end HandleRun

/-- The control characteristic of a peripheral. -/
def controlAttr : GattAttr where
  handle := 16
  uuid := (serviceUuid controlUuid).uuid
  valueHandle := 17

def peripheralAddr (last : UInt8) : BtAddr where
  type := 1
  val := (Buffer.fill 6 0).overlay [last]

def peripheralText (last : Char) : List UInt8 :=
  ("C0:00:00:00:00:0".toList ++ [last]).map fun c ↦ UInt8.ofNat c.toNat

/-- The conversion of these addresses. -/
def twoPeripherals : BtAddrText where
  fromStr str addr :=
    if str = peripheralText 'A' then (0, peripheralAddr 0xA)
    else if str = peripheralText 'B' then (0, peripheralAddr 0xB)
    else (-22, addr)
  toStr addr := peripheralText (if addr = peripheralAddr 0xA then 'A' else 'B')

end CrownstoneRouter
