import CrownstoneRouter.Drivers.BleDriver

/-!
# Events at the Bluetooth driver

Methods of the driver are called, work items run and the stack calls back in any order. `perform` is
the effect of one event, and the theorems below say which events touch the connection and the handle
that messages are written to.
-/

namespace CrownstoneRouter

open CheckedMemory

/-- What happens at the driver: a method is called, a work item runs, or the stack calls back. The
stack moves the offset of a read behind every chunk after which it is asked to continue. -/
inductive BleAction
  | connect (deviceAddr : Checked (List UInt8))
  | discoverServices (uuid : Option ServiceUuid)
  | write (handle : UInt16) (data : Buffer UInt8 packetBufSize) (len : UInt16)
  | read (handle : UInt16)
  | disconnect
  | sendMessage (hdlr : Handler)
  | deviceFound (addr : BtAddr) (type : UInt8)
  | connectionResult (conn : ℕ) (connErr : UInt8) (dst : BtAddr)
  | disconnected (conn : ℕ) (reason : UInt8) (dst : BtAddr)
  | discovered (conn : ℕ) (attr : Option GattAttr) (fresh : ServiceUuid)
  | discoveryDone (err : UInt8)
  | notified (conn : Option ℕ) (data : Option (List UInt8)) (length : UInt16)
  | readResult (err : UInt8) (data : Option (List UInt8)) (length : UInt16)

/-- An action and what the stack answers meanwhile. -/
structure BleEvent where
  action : BleAction
  answers : BtAnswers

/-- Only the callbacks for connections touch the connection. -/
def BleAction.touchesConn : BleAction → Bool
  | .deviceFound _ _ | .connectionResult _ _ _ | .disconnected _ _ _ => true
  | _ => false

namespace BleDriver

/-- The offset of a read after a chunk. -/
def advanceRead (ble : BleDriver) (iter : GattIter) (length : UInt16) : BleDriver :=
  match iter with
  | .stop => ble
  | .continue => { ble with
      gattReadParams := { ble.gattReadParams with offset := ble.gattReadParams.offset + length } }

/-- The driver after an event, and the calls that it has made. -/
def perform (text : BtAddrText) (ble : BleDriver) (event : BleEvent) :
    Checked (BleDriver × List BleCall) := do
  match event.action with
  | .connect deviceAddr =>
      let (_, ble, calls) ← ble.connect text deviceAddr event.answers
      return (ble, calls)
  | .discoverServices uuid => return (ble.discoverServices uuid event.answers).2
  | .write handle data len =>
      let (_, ble, calls) ← ble.writeHandle handle data len event.answers
      return (ble, calls)
  | .read handle => return (ble.read handle event.answers).2
  | .disconnect => return (ble, ble.disconnect.2)
  | .sendMessage hdlr =>
      let (ble, _, calls) ← ble.sendBleMessage text hdlr event.answers
      return (ble, calls)
  | .deviceFound addr type => ble.handleBleDeviceFound text addr type event.answers
  | .connectionResult conn connErr dst =>
      ble.handleConnectionResult text conn connErr dst event.answers
  | .disconnected conn reason dst =>
      ble.handleDisonnectionResult text conn reason dst event.answers
  | .discovered conn attr fresh =>
      let (_, ble, calls) ← ble.handleDiscoveryResults conn attr fresh
      return (ble, calls)
  | .discoveryDone err => return ble.handleDiscoveryDone err event.answers
  | .notified conn data length =>
      let (_, ble, calls) ← ble.handleNotifications conn data length
      return (ble, calls)
  | .readResult err data length =>
      let (iter, ble, calls) ← ble.handleReadResult err data length
      return (ble.advanceRead iter length, calls)

/-! ## The connection and the control handle -/

variable {text : BtAddrText} {ble next : BleDriver} {event : BleEvent} {calls : List BleCall}

/-- The connection and the control handle are the same. -/
structure SameLink (ble next : BleDriver) : Prop where
  conn : next.conn = ble.conn
  controlHandle : next.controlHandle = ble.controlHandle

/-- The attribute is reported as the control characteristic. -/
def ReportsControl (ble : BleDriver) (attr : GattAttr) (fresh : ServiceUuid) : Prop :=
  ble.gattDiscoverParams.type = .characteristic ∧ ble.isCharacteristic attr fresh controlUuid = true

instance (ble : BleDriver) (attr : GattAttr) (fresh : ServiceUuid) :
    Decidable (ble.ReportsControl attr fresh) :=
  inferInstanceAs (Decidable (_ ∧ _))

theorem SameLink.of_connect {deviceAddr : Checked (List UInt8)} {bt : BtAnswers} {ret : RetCode}
    (h : ble.connect text deviceAddr bt = .ok (ret, next, calls)) : SameLink ble next := by
  rcases connect_cases h with ⟨rfl, -⟩ | ⟨str, -, rfl, -⟩
  · exact ⟨rfl, rfl⟩
  · exact ⟨rfl, rfl⟩

theorem SameLink.of_writeHandle {size : ℕ} {handle len : UInt16} {data : Buffer UInt8 size}
    {bt : BtAnswers} {ret : RetCode}
    (h : ble.writeHandle handle data len bt = .ok (ret, next, calls)) : SameLink ble next := by
  rcases writeHandle_cases h with ⟨-, -, rfl, -⟩ | ⟨-, bleBuf, -, rfl, -⟩
  · exact ⟨rfl, rfl⟩
  · exact ⟨rfl, rfl⟩

theorem SameLink.of_discoverServices (ble : BleDriver) (uuid : Option ServiceUuid)
    (bt : BtAnswers) : SameLink ble (ble.discoverServices uuid bt).2.1 := by
  obtain ⟨discover, subscribe, hnext⟩ := discoverServices_cases ble uuid bt
  rw [hnext]
  exact ⟨rfl, rfl⟩

theorem SameLink.of_read (ble : BleDriver) (handle : UInt16) (bt : BtAnswers) :
    SameLink ble (ble.read handle bt).2.1 := by
  rcases read_cases ble handle bt with ⟨-, -, hread⟩ | ⟨-, -, hread⟩
  · rw [hread]
    exact ⟨rfl, rfl⟩
  · rw [hread]
    exact ⟨rfl, rfl⟩

theorem SameLink.of_sendBleMessage {hdlr after : Handler} {bt : BtAnswers}
    (h : ble.sendBleMessage text hdlr bt = .ok (next, after, calls)) : SameLink ble next := by
  rcases sendBleMessage_cases h with
    ⟨-, -, ret, hconnect⟩ | ⟨-, -, -, ret, hwrite⟩ | ⟨-, -, -, rfl, -⟩
  · exact .of_connect hconnect
  · exact .of_writeHandle hwrite
  · exact ⟨rfl, rfl⟩

theorem SameLink.of_handleDiscoveryDone (ble : BleDriver) (err : UInt8) (bt : BtAnswers) :
    SameLink ble (ble.handleDiscoveryDone err bt).1 := by
  unfold handleDiscoveryDone
  split_ifs
  · exact ⟨rfl, rfl⟩
  · exact .of_read ble ble.sessionDataHandle bt

theorem SameLink.of_handleNotifications {conn : Option ℕ} {data : Option (List UInt8)}
    {length : UInt16} {iter : GattIter}
    (h : ble.handleNotifications conn data length = .ok (iter, next, calls)) :
    SameLink ble next := by
  rcases handleNotifications_cases h with ⟨-, -, rfl, -⟩ |
    ⟨-, part, bleBuf, filled, -, -, rfl, ⟨-, -, rfl, -⟩ | ⟨-, packet, -, -, rfl, -⟩⟩
  · exact ⟨rfl, rfl⟩
  · exact ⟨rfl, rfl⟩
  · exact ⟨rfl, rfl⟩

theorem SameLink.of_handleReadResult {err : UInt8} {data : Option (List UInt8)} {length : UInt16}
    {iter : GattIter} (h : ble.handleReadResult err data length = .ok (iter, next, calls)) :
    SameLink ble (next.advanceRead iter length) := by
  rcases handleReadResult_cases h with ⟨-, packet, -, rfl, rfl, -⟩ |
    ⟨chunk, -, ⟨-, rfl, rfl, -⟩ | ⟨-, bleBuf, -, rfl, rfl, -⟩⟩
  · exact ⟨rfl, rfl⟩
  · exact ⟨rfl, rfl⟩
  · exact ⟨rfl, rfl⟩

/-- What a callback of discovery does to the control handle. -/
theorem handleDiscoveryResults_controlHandle {conn : ℕ} {attr : Option GattAttr}
    {fresh : ServiceUuid} {iter : GattIter}
    (h : ble.handleDiscoveryResults conn attr fresh = .ok (iter, next, calls)) :
    next.conn = ble.conn ∧ next.controlHandle = match attr with
      | some attr => if ble.ReportsControl attr fresh then attr.valueHandle else ble.controlHandle
      | none => ble.controlHandle := by
  unfold handleDiscoveryResults at h
  cases htype : ble.gattDiscoverParams.type with
  | primary =>
    cases attr with
    | none =>
      simp only [htype] at h
      cases h
      exact ⟨rfl, rfl⟩
    | some attr =>
      have hother : ¬ ble.ReportsControl attr fresh := by simp [ReportsControl, htype]
      simp only [htype, ServiceUuid.ofUuid_eq, bind, bind_ok] at h
      simp only [if_neg hother]
      split_ifs at h
      · cases h
        exact ⟨rfl, rfl⟩
      · cases h
        exact ⟨rfl, rfl⟩
  | characteristic =>
    cases attr with
    | none =>
      simp only [htype] at h
      cases h
      exact ⟨rfl, rfl⟩
    | some attr =>
      have hreports : ble.ReportsControl attr fresh ↔
          ble.isCharacteristic attr fresh controlUuid = true := by simp [ReportsControl, htype]
      simp only [htype, discoverCharacteristic_eq, bind, bind_ok] at h
      cases h
      exact ⟨rfl, (if_congr hreports rfl rfl).symm⟩
  | descriptor =>
    cases attr with
    | none =>
      simp only [htype] at h
      cases h
      exact ⟨rfl, rfl⟩
    | some attr =>
      have hother : ¬ ble.ReportsControl attr fresh := by simp [ReportsControl, htype]
      simp only [htype] at h
      cases h
      exact ⟨rfl, (if_neg hother).symm⟩

/-- The control handle after an event. -/
def controlHandleAfter (ble : BleDriver) : BleAction → UInt16
  | .discovered _ (some attr) fresh =>
      if ble.ReportsControl attr fresh then attr.valueHandle else ble.controlHandle
  | _ => ble.controlHandle

theorem SameLink.effect {action : BleAction} (h : SameLink ble next)
    (hsame : ble.controlHandleAfter action = ble.controlHandle) :
    next.controlHandle = ble.controlHandleAfter action ∧
      (action.touchesConn = false → next.conn = ble.conn) :=
  ⟨h.controlHandle.trans hsame.symm, fun _ ↦ h.conn⟩

/-- Only discovery changes the control handle, and only the callbacks for connections change the
connection. -/
theorem perform_effect (h : ble.perform text event = .ok (next, calls)) :
    next.controlHandle = ble.controlHandleAfter event.action ∧
      (event.action.touchesConn = false → next.conn = ble.conn) := by
  obtain ⟨action, bt⟩ := event
  cases action with
  | connect deviceAddr =>
    obtain ⟨⟨ret, made, asked⟩, hconnect, h⟩ := bind_eq_ok.mp h
    cases h
    exact (SameLink.of_connect hconnect).effect rfl
  | discoverServices uuid =>
    obtain rfl : (ble.discoverServices uuid bt).2.1 = next := congrArg Prod.fst (Except.ok.inj h)
    exact (SameLink.of_discoverServices ble uuid bt).effect rfl
  | write handle data len =>
    obtain ⟨⟨ret, made, asked⟩, hwrite, h⟩ := bind_eq_ok.mp h
    cases h
    exact (SameLink.of_writeHandle hwrite).effect rfl
  | read handle =>
    obtain rfl : (ble.read handle bt).2.1 = next := congrArg Prod.fst (Except.ok.inj h)
    exact (SameLink.of_read ble handle bt).effect rfl
  | disconnect =>
    cases h
    exact ⟨rfl, fun _ ↦ rfl⟩
  | sendMessage hdlr =>
    obtain ⟨⟨made, after, asked⟩, hsend, h⟩ := bind_eq_ok.mp h
    cases h
    exact (SameLink.of_sendBleMessage hsend).effect rfl
  | deviceFound addr type =>
    refine ⟨?_, fun hother ↦ by cases hother⟩
    rcases handleBleDeviceFound_cases h with
      ⟨rfl, -⟩ | ⟨-, -, ret, asked, hconnect, -⟩ | ⟨-, -, rfl, -⟩
    · rfl
    · exact (SameLink.of_connect hconnect).controlHandle
    · rfl
  | connectionResult conn connErr dst =>
    refine ⟨?_, fun hother ↦ by cases hother⟩
    rcases handleConnectionResult_cases h with
      ⟨-, ret, asked, hconnect, -⟩ | ⟨-, discover, subscribe, rfl⟩
    · exact (SameLink.of_connect hconnect).controlHandle
    · rfl
  | disconnected conn reason dst =>
    refine ⟨?_, fun hother ↦ by cases hother⟩
    rcases handleDisonnectionResult_cases h with
      ⟨-, rfl, -⟩ | ⟨-, rfl, -⟩ | ⟨-, ret, asked, hconnect, -⟩
    · rfl
    · rfl
    · exact (SameLink.of_connect hconnect).controlHandle
  | discovered conn attr fresh =>
    obtain ⟨⟨iter, made, asked⟩, hdiscover, h⟩ := bind_eq_ok.mp h
    cases h
    obtain ⟨hconn, hhandle⟩ := handleDiscoveryResults_controlHandle hdiscover
    refine ⟨?_, fun _ ↦ hconn⟩
    cases attr with
    | none => exact hhandle
    | some attr => exact hhandle
  | discoveryDone err =>
    obtain rfl : (ble.handleDiscoveryDone err bt).1 = next :=
      congrArg Prod.fst (Except.ok.inj h)
    exact (SameLink.of_handleDiscoveryDone ble err bt).effect rfl
  | notified conn data length =>
    obtain ⟨⟨iter, made, asked⟩, hnotified, h⟩ := bind_eq_ok.mp h
    cases h
    exact (SameLink.of_handleNotifications hnotified).effect rfl
  | readResult err data length =>
    obtain ⟨⟨iter, made, asked⟩, hread, h⟩ := bind_eq_ok.mp h
    cases h
    exact (SameLink.of_handleReadResult hread).effect rfl

end BleDriver

/-! ## A driver in use -/

def serviceUuid (short : UInt16) : ServiceUuid where
  uuid := (Buffer.fill sizeofBleUuid 0).overlay ([btUuidType128, 0x24, 0xF0, 0x00, 0x00, 0x7D, 0x10,
    0x48, 0x05, 0xBF, 0xC1, 0x76, 0x63] ++ LittleEndian.putLe16 short ++ [0xF5, 0x24])

def serviceDriver : BleDriver :=
  .initial instanceIdBlePeripheral instanceIdCloud (serviceUuid 0)

/-- An event during which every request to the stack succeeds. -/
def succeeding (action : BleAction) : BleEvent where
  action := action
  answers := {
    scanStart := 0
    scanStop := 0
    connCreate := 0
    conn := 1
    exchangeMtu := 0
    discover := 0
    subscribe := 0
    read := 0
    mtu := 65
    write := 0 }

def bleHandler (bytes : List UInt8) : Handler :=
  { PacketHandler.newHandler instanceIdBlePeripheral 0 0 with msg := .ofBytes bytes }

end CrownstoneRouter
