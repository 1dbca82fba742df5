import CrownstoneRouter.Drivers.BleCentral
import CrownstoneRouter.Drivers.ServiceUuid
import CrownstoneRouter.Drivers.Uart
import CrownstoneRouter.Foundation.EventWait

/-!
# The Bluetooth driver

`BleCentral` looks for a peripheral, connects to it, discovers the handles of its characteristics,
subscribes to its notifications, reads its session data and writes messages to it. All of this is
driven by callbacks of the Bluetooth stack. What the stack answers while a callback or a method runs
is an input, and what the driver asks the stack and the packet handler for is a list of calls.
-/

namespace CrownstoneRouter

open CheckedMemory

/-! ## The Bluetooth stack -/

/-- `bt_addr_le_t` -/
structure BtAddr where
  type : UInt8
  val : Buffer UInt8 6
  deriving DecidableEq

/-- The functions of the stack that convert addresses. The first one returns an error code and what
it leaves in the address it is given. -/
structure BtAddrText where
  fromStr : List UInt8 → BtAddr → ℤ × BtAddr
  toStr : BtAddr → List UInt8

/-- `BT_GATT_DISCOVER_PRIMARY`, `BT_GATT_DISCOVER_CHARACTERISTIC`, `BT_GATT_DISCOVER_DESCRIPTOR` -/
inductive DiscoverType
  | primary
  | characteristic
  | descriptor
  deriving DecidableEq

/-- `bt_gatt_discover_params` -/
structure GattDiscoverParams where
  uuid : Option ServiceUuid
  startHandle : UInt16
  endHandle : UInt16
  type : DiscoverType
  deriving DecidableEq

/-- `bt_gatt_subscribe_params` -/
structure GattSubscribeParams where
  valueHandle : UInt16
  cccHandle : UInt16
  value : UInt16
  deriving DecidableEq

/-- `bt_gatt_read_params` of a read from one handle. -/
structure GattReadParams where
  handle : UInt16
  offset : UInt16
  deriving DecidableEq

/-- `bt_gatt_attr`, with the object behind its user data: a service with its UUID, or a
characteristic with its UUID and its value handle. The stack holds both UUIDs in a union. -/
structure GattAttr where
  handle : UInt16
  uuid : Buffer UInt8 sizeofBleUuid
  valueHandle : UInt16
  deriving DecidableEq

/-- What the stack answers during one callback or method. -/
structure BtAnswers where
  scanStart : ℤ
  scanStop : ℤ
  connCreate : ℤ
  conn : ℕ
  exchangeMtu : ℤ
  discover : ℤ
  subscribe : ℤ
  read : ℤ
  mtu : UInt16
  write : ℤ
  deriving DecidableEq

/-- What the driver asks the stack for, and the packets it hands to the packet handler. -/
inductive BleCall
  | scanStart
  | scanStop
  | acceptListAdd (addr : BtAddr)
  | acceptListClear
  | connCreate (addr : BtAddr)
  | connUnref (conn : Option ℕ)
  | connDisconnect (conn : Option ℕ) (reason : UInt8)
  | exchangeMtu (conn : ℕ)
  | gattDiscover (conn : Option ℕ) (params : GattDiscoverParams)
  | gattSubscribe (conn : ℕ) (params : GattSubscribeParams)
  | gattRead (conn : Option ℕ) (params : GattReadParams)
  | gattWrite (conn : Option ℕ) (params : GattWriteParams)
  | handlePacket (data : PacketData)
  deriving DecidableEq

/-- `BT_GATT_ITER_STOP` and `BT_GATT_ITER_CONTINUE` -/
inductive GattIter
  | stop
  | continue
  deriving DecidableEq

/-- `BT_GAP_ADV_TYPE_ADV_IND` -/
def advTypeInd : UInt8 := 0

/-- `BT_GAP_ADV_TYPE_ADV_DIRECT_IND` -/
def advTypeDirectInd : UInt8 := 1

/-- `BT_HCI_ERR_REMOTE_USER_TERM_CONN` -/
def remoteUserTermConn : UInt8 := 0x13

/-- `BT_HCI_ERR_LOCALHOST_TERM_CONN` -/
def localhostTermConn : UInt8 := 0x16

/-- `BT_ATT_FIRST_ATTRIBUTE_HANDLE` -/
def firstAttributeHandle : UInt16 := 1

/-- `BT_GATT_CCC_NOTIFY` -/
def gattCccNotify : UInt16 := 1

/-- `SESSION_DATA_UUID` -/
def sessionDataUuid : UInt16 := 0xE

/-- `CONTROL_UUID` -/
def controlUuid : UInt16 := 0xC

/-- `RESULT_UUID` -/
def resultUuid : UInt16 := 0xD

namespace RetCode

/-- `CS_ERR_BLE_CENTRAL_SCAN_START_FAILED` -/
def bleScanStartFailed : RetCode := 0x502

/-- `CS_ERR_BLE_CENTRAL_ALREADY_CONNECTED` -/
def bleAlreadyConnected : RetCode := 0x504

/-- `CS_ERR_BLE_CENTRAL_DISCOVERY_FAILED` -/
def bleDiscoveryFailed : RetCode := 0x505

/-- `CS_ERR_BLE_CENTRAL_READ_FAILED` -/
def bleReadFailed : RetCode := 0x508

end RetCode

/-! ## The driver -/

/-- The class `BleCentral`. `availableEvent` is the one event of `_ble_conn_evts`. -/
structure BleDriver extends BleCentral where
  srcId : InstanceId
  destId : InstanceId
  hasPktHandler : Bool
  availableEvent : Bool
  devAddr : BtAddr
  gattDiscoverParams : GattDiscoverParams
  gattSubscribeParams : GattSubscribeParams
  gattReadParams : GattReadParams
  bleBufCtr : UInt16
  uuidBase : ServiceUuid
  uuidCcc : ServiceUuid
  nextHandle : UInt16
  sessionDataHandle : UInt16
  controlHandle : UInt16
  resultHandle : UInt16

/-- The string at the front of an array, which has to be terminated. -/
def cString {size : ℕ} (buffer : Buffer UInt8 size) : Checked (List UInt8) := do
  let len ← Uart.strlen buffer
  return buffer.slice 0 len

namespace BleDriver

/-- The driver after its initialization, in zeroed memory. -/
def initial (srcId destId : InstanceId) (uuidBase : ServiceUuid) : BleDriver where
  initialized := true
  conn := none
  bleBuf := Buffer.fill packetBufSize 0
  gattWriteParams := { handle := 0, length := 0 }
  srcId := srcId
  destId := destId
  hasPktHandler := true
  availableEvent := true
  devAddr := { type := 0, val := Buffer.fill 6 0 }
  gattDiscoverParams := { uuid := none, startHandle := 0, endHandle := 0, type := .primary }
  gattSubscribeParams := { valueHandle := 0, cccHandle := 0, value := 0 }
  gattReadParams := { handle := 0, offset := 0 }
  bleBufCtr := 0
  uuidBase := uuidBase
  uuidCcc := { uuid := (Buffer.fill sizeofBleUuid 0).overlay [btUuidType16, 0, 0x02, 0x29] }
  nextHandle := 0
  sessionDataHandle := 0
  controlHandle := 0
  resultHandle := 0

/-! ## Methods -/

/-- `BleCentral::connect`. The string behind the pointer is read once the address is needed. -/
def connect (text : BtAddrText) (ble : BleDriver) (deviceAddr : Checked (List UInt8))
    (bt : BtAnswers) : Checked (RetCode × BleDriver × List BleCall) := do
  if !ble.initialized then return (.notInitialized, ble, [])
  else if ble.isConnected then return (.bleAlreadyConnected, ble, [])
  else
    let deviceAddr ← deviceAddr
    let ble := { ble with devAddr := (text.fromStr deviceAddr ble.devAddr).2 }
    if bt.scanStart ≠ 0 then
      return (.bleScanStartFailed, ble, [.acceptListAdd ble.devAddr, .scanStart])
    else return (.ok, ble, [.acceptListAdd ble.devAddr, .scanStart])

/-- `BleCentral::discoverServices` -/
def discoverServices (ble : BleDriver) (uuid : Option ServiceUuid) (bt : BtAnswers) :
    RetCode × BleDriver × List BleCall :=
  if !ble.initialized then (.notInitialized, ble, [])
  else if !ble.isConnected then (.bleNotConnected, ble, [])
  else
    let ble : BleDriver := { ble with
      gattDiscoverParams := {
        uuid := uuid
        startHandle := firstAttributeHandle
        endHandle := 255
        type := .primary }
      gattSubscribeParams := { valueHandle := 0, cccHandle := 0, value := 0 } }
    if bt.discover ≠ 0 then
      (.bleDiscoveryFailed, ble, [.gattDiscover ble.conn ble.gattDiscoverParams])
    else (.ok, ble, [.gattDiscover ble.conn ble.gattDiscoverParams])

/-- `BleCentral::write`, with the call of `bt_gatt_write` if it gets that far. -/
def writeHandle {size : ℕ} (ble : BleDriver) (handle : UInt16) (data : Buffer UInt8 size)
    (len : UInt16) (bt : BtAnswers) : Checked (RetCode × BleDriver × List BleCall) := do
  let (ret, central) ← ble.toBleCentral.write handle data len bt.mtu bt.write
  let ble := { ble with toBleCentral := central }
  if ret = .ok ∨ ret = .bleWriteFailed then
    return (ret, ble, [.gattWrite ble.conn ble.gattWriteParams])
  else return (ret, ble, [])

/-- `BleCentral::read` -/
def read (ble : BleDriver) (handle : UInt16) (bt : BtAnswers) :
    RetCode × BleDriver × List BleCall :=
  if !ble.initialized then (.notInitialized, ble, [])
  else if !ble.isConnected then (.bleNotConnected, ble, [])
  else
    let ble : BleDriver := { ble with
      bleBufCtr := 0
      gattReadParams := { handle := handle, offset := 0 } }
    if bt.read ≠ 0 then (.bleReadFailed, ble, [.gattRead ble.conn ble.gattReadParams])
    else (.ok, ble, [.gattRead ble.conn ble.gattReadParams])

/-- `BleCentral::disconnect` -/
def disconnect (ble : BleDriver) : RetCode × List BleCall :=
  if !ble.initialized then (.notInitialized, [])
  else if ble.isConnected then (.ok, [.connDisconnect ble.conn remoteUserTermConn])
  else (.bleNotConnected, [])

/-- `BleCentral::sendBleMessage`. Connected without a control handle, it keeps the lock of the
handler. -/
def sendBleMessage (text : BtAddrText) (ble : BleDriver) (hdlr : Handler) (bt : BtAnswers) :
    Checked (BleDriver × Handler × List BleCall) := do
  let hdlr := hdlr.lockWork
  if !ble.isConnected then
    let (_, ble, calls) ← ble.connect text (cString hdlr.msg.buf) bt
    return (ble, hdlr.unlockWork, calls)
  else if ble.controlHandle ≠ 0 then
    let (_, ble, calls) ← ble.writeHandle ble.controlHandle hdlr.msg.buf hdlr.msg.bufLen bt
    return (ble, hdlr.unlockWork, calls)
  else return (ble, hdlr, [])

/-- `BleCentral::waitAvailable` at one moment of its wait; `none` means that it goes on. -/
def waitAvailable (ble : BleDriver) (timeoutMs : ℤ) (waited : ℕ) : Option RetCode :=
  if !ble.initialized then some .notInitialized
  else
    (EventWait.poll ble.availableEvent (EventWait.ofMs timeoutMs) waited).map fun seen ↦
      if seen then .ok else .timeout

/-! ## Callbacks for connections -/

/-- `handleBleDeviceFound` -/
def handleBleDeviceFound (text : BtAddrText) (ble : BleDriver) (addr : BtAddr) (type : UInt8)
    (bt : BtAnswers) : Checked (BleDriver × List BleCall) := do
  if type ≠ advTypeInd ∧ type ≠ advTypeDirectInd then return (ble, [])
  else if addr ≠ ble.devAddr then return (ble, [])
  else if bt.scanStop ≠ 0 then return (ble, [.scanStop])
  else if bt.connCreate ≠ 0 then
    let (_, ble, calls) ← ble.connect text (.ok (text.toStr addr)) bt
    return (ble, [.scanStop, .connCreate addr] ++ calls)
  else return ({ ble with conn := some bt.conn }, [.scanStop, .connCreate addr])

/-- `handleConnectionResult`; `dst` is the address of the peer of `conn`. -/
def handleConnectionResult (text : BtAddrText) (ble : BleDriver) (conn : ℕ) (connErr : UInt8)
    (dst : BtAddr) (bt : BtAnswers) : Checked (BleDriver × List BleCall) := do
  if connErr ≠ 0 then
    let unref : BleCall := .connUnref ble.conn
    let (_, ble, calls) ← { ble with conn := none }.connect text (.ok (text.toStr dst)) bt
    return (ble, unref :: calls)
  else
    let ble := { ble with availableEvent := false }
    if bt.exchangeMtu ≠ 0 then return (ble, [.exchangeMtu conn])
    else
      let (_, ble, calls) := ble.discoverServices (some ble.uuidBase) bt
      return (ble, .exchangeMtu conn :: calls)

/-- `handleDisonnectionResult`; `dst` is the address of the peer of `conn`. -/
def handleDisonnectionResult (text : BtAddrText) (ble : BleDriver) (conn : ℕ) (reason : UInt8)
    (dst : BtAddr) (bt : BtAnswers) : Checked (BleDriver × List BleCall) := do
  if ble.conn ≠ some conn then return (ble, [])
  else
    let ended : List BleCall := [.acceptListClear, .connUnref ble.conn]
    let ble := { ble with conn := none, availableEvent := true }
    if reason ≠ remoteUserTermConn ∧ reason ≠ localhostTermConn then
      let (_, ble, calls) ← ble.connect text (.ok (text.toStr dst)) bt
      return (ble, ended ++ calls)
    else return (ble, ended)

/-! ## Callbacks for characteristics -/

/-- What `handleDiscoveryResults` does with a characteristic. -/
def discoverCharacteristic (ble : BleDriver) (attr : GattAttr) (fresh : ServiceUuid) :
    Checked BleDriver := do
  let foundUuid ← ServiceUuid.ofUuid attr.uuid fresh.uuid
  let sessionUuid ← fresh.fromBaseUuid ble.uuidBase sessionDataUuid
  let ctrlUuid ← fresh.fromBaseUuid ble.uuidBase controlUuid
  let resultUuid ← fresh.fromBaseUuid ble.uuidBase resultUuid
  let ble := if foundUuid.eq sessionUuid then { ble with sessionDataHandle := attr.valueHandle }
    else ble
  let ble := if foundUuid.eq ctrlUuid then { ble with controlHandle := attr.valueHandle } else ble
  if foundUuid.eq resultUuid then
    return { ble with
      resultHandle := attr.valueHandle
      nextHandle := attr.handle + 1
      gattSubscribeParams := { ble.gattSubscribeParams with valueHandle := attr.valueHandle } }
  else return ble

/-- `handleDiscoveryResults`; `fresh` is what a UUID holds before it is constructed. -/
def handleDiscoveryResults (ble : BleDriver) (conn : ℕ) (attr : Option GattAttr)
    (fresh : ServiceUuid) : Checked (GattIter × BleDriver × List BleCall) := do
  match ble.gattDiscoverParams.type, attr with
  | .primary, none =>
      let ble : BleDriver := { ble with
        gattDiscoverParams := { ble.gattDiscoverParams with
          uuid := none
          type := .characteristic
          startHandle := ble.nextHandle } }
      return (.continue, ble, [.gattDiscover conn ble.gattDiscoverParams])
  | .primary, some attr =>
      let foundUuid ← ServiceUuid.ofUuid attr.uuid fresh.uuid
      if foundUuid.eq ble.uuidBase then
        return (.continue, { ble with nextHandle := attr.handle + 1 }, [])
      else return (.continue, ble, [])
  | .characteristic, none =>
      let ble : BleDriver := { ble with
        gattDiscoverParams := {
          uuid := some ble.uuidCcc
          type := .descriptor
          startHandle := ble.nextHandle
          endHandle := ble.nextHandle + 1 } }
      return (.continue, ble, [.gattDiscover conn ble.gattDiscoverParams])
  | .characteristic, some attr =>
      let ble ← ble.discoverCharacteristic attr fresh
      return (.continue, ble, [])
  | .descriptor, none => return (.stop, ble, [])
  | .descriptor, some attr =>
      let ble : BleDriver := { ble with
        gattSubscribeParams := { ble.gattSubscribeParams with
          value := gattCccNotify
          cccHandle := attr.handle } }
      return (.stop, ble, [.gattSubscribe conn ble.gattSubscribeParams])

/-- `handleDiscoveryDone` -/
def handleDiscoveryDone (ble : BleDriver) (err : UInt8) (bt : BtAnswers) :
    BleDriver × List BleCall :=
  if err ≠ 0 then (ble, []) else (ble.read ble.sessionDataHandle bt).2

/-- The packet that the driver makes of its buffer. -/
def bufferPacket (ble : BleDriver) : Checked PacketData := do
  let buf ← (Buffer.fill packetBufSize 0).memcpy 0 ble.bleBuf 0 ble.bleBufCtr.toNat
  return {
    type := .outgoing
    destId := ble.destId
    srcId := ble.srcId
    resultCode := 0
    msg := { buf, bufLen := ble.bleBufCtr } }

def handOver (ble : BleDriver) (data : PacketData) : List BleCall :=
  if ble.hasPktHandler then [.handlePacket data] else []

/-- `handleNotifications`, where `data` is the memory from the pointer on. -/
def handleNotifications (ble : BleDriver) (conn : Option ℕ) (data : Option (List UInt8))
    (length : UInt16) : Checked (GattIter × BleDriver × List BleCall) := do
  match conn, data with
  | some _, some part =>
      let counter ← loadByte (.ofList part) 0
      if sizeOfInt (ble.bleBufCtr.toNat + length.toNat - 1) > packetBufSize then
        return (.stop, ble, [])
      else
        let bleBuf ← ble.bleBuf.memcpy ble.bleBufCtr.toNat (.ofList part) 1
          (sizeOfInt (length.toNat - 1))
        let ble := { ble with bleBuf := bleBuf, bleBufCtr := ble.bleBufCtr + (length - 1) }
        if counter = 255 then
          let data ← ble.bufferPacket
          return (.stop, { ble with bleBufCtr := 0 }, ble.handOver data ++ ble.disconnect.2)
        else return (.continue, ble, [])
  | _, _ => return (.stop, ble, [])

/-- `handleReadResult`, where `data` is the memory from the pointer on. -/
def handleReadResult (ble : BleDriver) (err : UInt8) (data : Option (List UInt8))
    (length : UInt16) : Checked (GattIter × BleDriver × List BleCall) := do
  match data with
  | none =>
      let data ← ble.bufferPacket
      return (.stop, { ble with bleBufCtr := 0 }, ble.handOver data)
  | some data =>
      if err ≠ 0 then return (.stop, ble, [])
      else
        let offset := ble.gattReadParams.offset
        if offset.toNat + length.toNat > packetBufSize then return (.stop, ble, [])
        else
          let bleBuf ← ble.bleBuf.memcpy offset.toNat (.ofList data) 0 length.toNat
          return (.continue,
            { ble with bleBuf := bleBuf, bleBufCtr := ble.bleBufCtr + length }, [])

/-! ## Specifications -/

variable {text : BtAddrText} {ble next : BleDriver} {bt : BtAnswers} {ret : RetCode}
  {calls : List BleCall}

/-- Everything that `connect` can do: nothing, or keep the address and start a scan. -/
theorem connect_cases {deviceAddr : Checked (List UInt8)}
    (h : ble.connect text deviceAddr bt = .ok (ret, next, calls)) :
    (next = ble ∧ calls = []) ∨
    ∃ str, deviceAddr = .ok str ∧ next = { ble with devAddr := (text.fromStr str ble.devAddr).2 } ∧
      calls = [.acceptListAdd next.devAddr, .scanStart] := by
  unfold connect at h
  split_ifs at h with hinit hconn
  · cases h
    exact .inl ⟨rfl, rfl⟩
  · cases h
    exact .inl ⟨rfl, rfl⟩
  · obtain ⟨str, hstr, h⟩ := bind_eq_ok.mp h
    cases h
    exact .inr ⟨str, hstr, rfl, rfl⟩
  · obtain ⟨str, hstr, h⟩ := bind_eq_ok.mp h
    cases h
    exact .inr ⟨str, hstr, rfl, rfl⟩

theorem connect_of_connected (hconn : ble.isConnected = true)
    (deviceAddr : Checked (List UInt8)) :
    ble.connect text deviceAddr bt =
      .ok (if ble.initialized then .bleAlreadyConnected else .notInitialized, ble, []) := by
  cases hinit : ble.initialized with
  | true => simp [connect, hinit, hconn, pure, Except.pure]
  | false => simp [connect, hinit, pure, Except.pure]

theorem connect_of_ready (hinit : ble.initialized = true) (hconn : ble.isConnected = false)
    (str : List UInt8) :
    ble.connect text (.ok str) bt =
      .ok (if bt.scanStart ≠ 0 then .bleScanStartFailed else .ok,
        { ble with devAddr := (text.fromStr str ble.devAddr).2 },
        [.acceptListAdd (text.fromStr str ble.devAddr).2, .scanStart]) := by
  by_cases hscan : bt.scanStart = 0
  · simp [connect, hinit, hconn, hscan, bind, pure, Except.pure]
  · simp [connect, hinit, hconn, hscan, bind, pure, Except.pure]

/-- Everything that `write` can do: nothing, or copy the message and hand the buffer to the
stack. -/
theorem writeHandle_cases {size : ℕ} {handle len : UInt16} {data : Buffer UInt8 size}
    (h : ble.writeHandle handle data len bt = .ok (ret, next, calls)) :
    (¬ ble.ReachesWrite bt.mtu ∧ ret ≠ .ok ∧ next = ble ∧ calls = []) ∨
    (ble.ReachesWrite bt.mtu ∧ ∃ bleBuf, ble.bleBuf.memcpy 0 data 0 len.toNat = .ok bleBuf ∧
      next = { ble with bleBuf := bleBuf, gattWriteParams := { handle := handle, length := len } } ∧
      calls = [.gattWrite ble.conn { handle := handle, length := len }]) := by
  obtain ⟨⟨result, central⟩, hwrite, h⟩ := bind_eq_ok.mp h
  rcases BleCentral.write_cases hwrite with
    ⟨hreaches, rfl, hresult⟩ | ⟨hreaches, hresult, bleBuf, hcopy, rfl⟩
  · simp only [if_neg hresult] at h
    cases h
    exact .inl ⟨hreaches, fun hok ↦ hresult (.inl hok), rfl, rfl⟩
  · simp only [if_pos hresult] at h
    cases h
    exact .inr ⟨hreaches, bleBuf, hcopy, rfl, rfl⟩

/-- Everything that `sendBleMessage` can do: connect, write, or nothing, and then the lock is
kept. -/
theorem sendBleMessage_cases {hdlr after : Handler}
    (h : ble.sendBleMessage text hdlr bt = .ok (next, after, calls)) :
    (ble.isConnected = false ∧ after = hdlr.lockWork.unlockWork ∧
      ∃ ret, ble.connect text (cString hdlr.msg.buf) bt = .ok (ret, next, calls)) ∨
    (ble.isConnected = true ∧ ble.controlHandle ≠ 0 ∧ after = hdlr.lockWork.unlockWork ∧
      ∃ ret, ble.writeHandle ble.controlHandle hdlr.msg.buf hdlr.msg.bufLen bt =
        .ok (ret, next, calls)) ∨
    (ble.isConnected = true ∧ ble.controlHandle = 0 ∧ after = hdlr.lockWork ∧ next = ble ∧
      calls = []) := by
  unfold sendBleMessage at h
  cases hconn : ble.isConnected with
  | false =>
    rw [if_pos (by simp [hconn])] at h
    obtain ⟨⟨ret, made, asked⟩, hconnect, h⟩ := bind_eq_ok.mp h
    cases h
    exact .inl ⟨rfl, rfl, ret, hconnect⟩
  | true =>
    rw [if_neg (by simp [hconn])] at h
    by_cases hhandle : ble.controlHandle = 0
    · rw [if_neg (not_not.mpr hhandle)] at h
      cases h
      exact .inr (.inr ⟨rfl, hhandle, rfl, rfl, rfl⟩)
    · rw [if_pos hhandle] at h
      obtain ⟨⟨ret, made, asked⟩, hwrite, h⟩ := bind_eq_ok.mp h
      cases h
      exact .inr (.inl ⟨rfl, hhandle, rfl, ret, hwrite⟩)

theorem writeHandle_returns_iff (ble : BleDriver) (handle : UInt16)
    (data : Buffer UInt8 packetBufSize) (len : UInt16) (bt : BtAnswers) :
    (∃ result, ble.writeHandle handle data len bt = .ok result) ↔
      (ble.ReachesWrite bt.mtu → len.toNat ≤ packetBufSize) := by
  rw [← ble.toBleCentral.write_returns_iff handle data len bt.mtu bt.write]
  refine bind_returns_iff fun written ↦ ?_
  simp only
  split_ifs
  · exact ⟨_, rfl⟩
  · exact ⟨_, rfl⟩

/-- A message that fits is written to the control handle of the driver. -/
theorem sendBleMessage_writes {hdlr : Handler} (hhandle : ble.controlHandle ≠ 0)
    (hreaches : ble.ReachesWrite bt.mtu) (hfits : hdlr.msg.bufLen.toNat ≤ packetBufSize) :
    ∃ next after, ble.sendBleMessage text hdlr bt = .ok (next, after,
      [.gattWrite ble.conn { handle := ble.controlHandle, length := hdlr.msg.bufLen }]) := by
  obtain ⟨⟨ret, next, calls⟩, hwrite⟩ :=
    (ble.writeHandle_returns_iff ble.controlHandle hdlr.lockWork.msg.buf _ bt).mpr fun _ ↦ hfits
  rcases writeHandle_cases hwrite with ⟨hnot, -⟩ | ⟨-, bleBuf, -, -, rfl⟩
  · exact absurd hreaches hnot
  · refine ⟨next, hdlr.lockWork.unlockWork, ?_⟩
    unfold sendBleMessage
    rw [if_neg (by simp [hreaches.2.1]), if_pos hhandle]
    exact bind_eq_ok.mpr ⟨_, hwrite, rfl⟩

/-- The attribute is a characteristic of the service with this short part. -/
def isCharacteristic (ble : BleDriver) (attr : GattAttr) (fresh : ServiceUuid) (shortUuid : UInt16) :
    Bool :=
  (ServiceUuid.wrapped attr.uuid fresh.uuid).eq (fresh.derived ble.uuidBase shortUuid)

/-- What a characteristic changes. -/
theorem discoverCharacteristic_eq (ble : BleDriver) (attr : GattAttr) (fresh : ServiceUuid) :
    ble.discoverCharacteristic attr fresh = .ok { ble with
      sessionDataHandle := if ble.isCharacteristic attr fresh sessionDataUuid then attr.valueHandle
        else ble.sessionDataHandle
      controlHandle := if ble.isCharacteristic attr fresh controlUuid then attr.valueHandle
        else ble.controlHandle
      resultHandle := if ble.isCharacteristic attr fresh resultUuid then attr.valueHandle
        else ble.resultHandle
      nextHandle := if ble.isCharacteristic attr fresh resultUuid then attr.handle + 1
        else ble.nextHandle
      gattSubscribeParams := { ble.gattSubscribeParams with
        valueHandle := if ble.isCharacteristic attr fresh resultUuid then attr.valueHandle
          else ble.gattSubscribeParams.valueHandle } } := by
  simp only [discoverCharacteristic, ServiceUuid.ofUuid_eq, ServiceUuid.fromBaseUuid_eq, bind,
    bind_ok]
  cases hsession : ble.isCharacteristic attr fresh sessionDataUuid <;>
  cases hcontrol : ble.isCharacteristic attr fresh controlUuid <;>
  cases hresult : ble.isCharacteristic attr fresh resultUuid <;>
  · simp only [isCharacteristic] at hsession hcontrol hresult
    simp [hsession, hcontrol, hresult, pure, Except.pure]

/-- Discovery resets the parameters of a discovery and of a subscription, and nothing else. -/
theorem discoverServices_cases (ble : BleDriver) (uuid : Option ServiceUuid) (bt : BtAnswers) :
    ∃ discover subscribe, (ble.discoverServices uuid bt).2.1 =
      { ble with gattDiscoverParams := discover, gattSubscribeParams := subscribe } := by
  unfold discoverServices
  split_ifs
  · exact ⟨_, _, rfl⟩
  · exact ⟨_, _, rfl⟩
  · exact ⟨_, _, rfl⟩
  · exact ⟨_, _, rfl⟩

/-- A read gets as far as the stack. -/
def ReachesRead (ble : BleDriver) : Prop :=
  ble.initialized = true ∧ ble.isConnected = true

instance (ble : BleDriver) : Decidable ble.ReachesRead :=
  inferInstanceAs (Decidable (_ ∧ _))

/-- Everything that `read` can do: nothing, or start a read from the front of the buffer. -/
theorem read_cases (ble : BleDriver) (handle : UInt16) (bt : BtAnswers) :
    (¬ ble.ReachesRead ∧ (ble.read handle bt).1 ≠ .ok ∧ (ble.read handle bt).2 = (ble, [])) ∨
    (ble.ReachesRead ∧ (ble.read handle bt).1 = (if bt.read ≠ 0 then .bleReadFailed else .ok) ∧
      (ble.read handle bt).2 =
        ({ ble with bleBufCtr := 0, gattReadParams := { handle := handle, offset := 0 } },
          [.gattRead ble.conn { handle := handle, offset := 0 }])) := by
  unfold read
  by_cases hinit : ble.initialized = true
  · by_cases hconn : ble.isConnected = true
    · rw [if_neg (by simp [hinit]), if_neg (by simp [hconn])]
      refine .inr ⟨⟨hinit, hconn⟩, ?_⟩
      split_ifs
      · exact ⟨rfl, rfl⟩
      · exact ⟨rfl, rfl⟩
    · rw [if_neg (by simp [hinit]), if_pos (by simp [hconn])]
      exact .inl ⟨fun hreaches ↦ hconn hreaches.2, (by decide : RetCode.bleNotConnected ≠ .ok), rfl⟩
  · rw [if_pos (by simp [hinit])]
    exact .inl ⟨fun hreaches ↦ hinit hreaches.1, (by decide : RetCode.notInitialized ≠ .ok), rfl⟩

/-- Everything that a report of a device can do: nothing, stop the scan, try again, or take the
connection that has been created. -/
theorem handleBleDeviceFound_cases {addr : BtAddr} {type : UInt8}
    (h : ble.handleBleDeviceFound text addr type bt = .ok (next, calls)) :
    (next = ble ∧ (calls = [] ∨ calls = [.scanStop])) ∨
    (addr = ble.devAddr ∧ bt.connCreate ≠ 0 ∧ ∃ ret asked,
      ble.connect text (.ok (text.toStr addr)) bt = .ok (ret, next, asked) ∧
      calls = [.scanStop, .connCreate addr] ++ asked) ∨
    (addr = ble.devAddr ∧ bt.connCreate = 0 ∧ next = { ble with conn := some bt.conn } ∧
      calls = [.scanStop, .connCreate addr]) := by
  unfold handleBleDeviceFound at h
  split_ifs at h with htype haddr hstop hcreate
  · cases h
    exact .inl ⟨rfl, .inl rfl⟩
  · cases h
    exact .inl ⟨rfl, .inl rfl⟩
  · cases h
    exact .inl ⟨rfl, .inr rfl⟩
  · obtain ⟨⟨ret, made, asked⟩, hconnect, h⟩ := bind_eq_ok.mp h
    cases h
    exact .inr (.inl ⟨not_not.mp haddr, hcreate, ret, asked, hconnect, rfl⟩)
  · cases h
    exact .inr (.inr ⟨not_not.mp haddr, not_not.mp hcreate, rfl, rfl⟩)

/-- Everything that the result of a connection can do: give the connection back and try again, or
start discovery. -/
theorem handleConnectionResult_cases {conn : ℕ} {connErr : UInt8} {dst : BtAddr}
    (h : ble.handleConnectionResult text conn connErr dst bt = .ok (next, calls)) :
    (connErr ≠ 0 ∧ ∃ ret asked,
      { ble with conn := none }.connect text (.ok (text.toStr dst)) bt = .ok (ret, next, asked) ∧
      calls = .connUnref ble.conn :: asked) ∨
    (connErr = 0 ∧ ∃ discover subscribe, next = { ble with
      availableEvent := false
      gattDiscoverParams := discover
      gattSubscribeParams := subscribe }) := by
  unfold handleConnectionResult at h
  split_ifs at h with herr hmtu
  · obtain ⟨⟨ret, made, asked⟩, hconnect, h⟩ := bind_eq_ok.mp h
    cases h
    exact .inl ⟨herr, ret, asked, hconnect, rfl⟩
  · cases h
    exact .inr ⟨not_not.mp herr, ble.gattDiscoverParams, ble.gattSubscribeParams, rfl⟩
  · cases h
    obtain ⟨discover, subscribe, hnext⟩ :=
      discoverServices_cases { ble with availableEvent := false } (some ble.uuidBase) bt
    exact .inr ⟨not_not.mp herr, discover, subscribe, hnext⟩

/-- Everything that a disconnection can do: nothing if it is another connection, else give the
connection back, and try again if it was lost. -/
theorem handleDisonnectionResult_cases {conn : ℕ} {reason : UInt8} {dst : BtAddr}
    (h : ble.handleDisonnectionResult text conn reason dst bt = .ok (next, calls)) :
    (ble.conn ≠ some conn ∧ next = ble ∧ calls = []) ∨
    (ble.conn = some conn ∧ next = { ble with conn := none, availableEvent := true } ∧
      calls = [.acceptListClear, .connUnref ble.conn]) ∨
    (ble.conn = some conn ∧ ∃ ret asked,
      { ble with conn := none, availableEvent := true }.connect text (.ok (text.toStr dst)) bt =
        .ok (ret, next, asked) ∧
      calls = [.acceptListClear, .connUnref ble.conn] ++ asked) := by
  unfold handleDisonnectionResult at h
  split_ifs at h with hconn hreason
  · cases h
    exact .inl ⟨hconn, rfl, rfl⟩
  · obtain ⟨⟨ret, made, asked⟩, hconnect, h⟩ := bind_eq_ok.mp h
    cases h
    exact .inr (.inr ⟨not_not.mp hconn, ret, asked, hconnect, rfl⟩)
  · cases h
    exact .inr (.inl ⟨not_not.mp hconn, rfl, rfl⟩)

/-- A notification is there, and fits behind the ones before. -/
def TakesNotification (ble : BleDriver) (conn : Option ℕ) (data : Option (List UInt8))
    (length : UInt16) : Prop :=
  conn.isSome = true ∧ data.isSome = true ∧
    sizeOfInt (ble.bleBufCtr.toNat + length.toNat - 1) ≤ packetBufSize

instance (ble : BleDriver) (conn : Option ℕ) (data : Option (List UInt8)) (length : UInt16) :
    Decidable (ble.TakesNotification conn data length) :=
  inferInstanceAs (Decidable (_ ∧ _ ∧ _))

/-- Everything that a notification can do: nothing, if there is none or it is too long, or append it
to the buffer, of which the last one of a series makes a packet. -/
theorem handleNotifications_cases {conn : Option ℕ} {data : Option (List UInt8)} {length : UInt16}
    {iter : GattIter} (h : ble.handleNotifications conn data length = .ok (iter, next, calls)) :
    (¬ ble.TakesNotification conn data length ∧ iter = .stop ∧ next = ble ∧ calls = []) ∨
    (ble.TakesNotification conn data length ∧ ∃ part bleBuf filled, data = some part ∧
      ble.bleBuf.memcpy ble.bleBufCtr.toNat (.ofList part) 1 (sizeOfInt (length.toNat - 1)) =
        .ok bleBuf ∧
      filled = { ble with bleBuf := bleBuf, bleBufCtr := ble.bleBufCtr + (length - 1) } ∧
      ((part.getD 0 0 ≠ 255 ∧ iter = .continue ∧ next = filled ∧ calls = []) ∨
        (part.getD 0 0 = 255 ∧ ∃ packet, filled.bufferPacket = .ok packet ∧ iter = .stop ∧
          next = { filled with bleBufCtr := 0 } ∧
          calls = filled.handOver packet ++ filled.disconnect.2))) := by
  unfold handleNotifications at h
  cases conn with
  | none =>
    cases h
    exact .inl ⟨fun htakes ↦ absurd htakes.1 (by decide), rfl, rfl, rfl⟩
  | some conn =>
    cases data with
    | none =>
      cases h
      exact .inl ⟨fun htakes ↦ absurd htakes.2.1 (by decide), rfl, rfl, rfl⟩
    | some part =>
      obtain ⟨counter, hcounter, h⟩ := bind_eq_ok.mp h
      obtain rfl : byteAt ⟨part, rfl⟩ 0 = counter := (guard_eq_ok.mp hcounter).2
      by_cases hlong : sizeOfInt (ble.bleBufCtr.toNat + length.toNat - 1) > packetBufSize
      · rw [if_pos hlong] at h
        cases h
        exact .inl ⟨fun htakes ↦ absurd htakes.2.2 (not_le.mpr hlong), rfl, rfl, rfl⟩
      · rw [if_neg hlong] at h
        obtain ⟨bleBuf, hcopy, h⟩ := bind_eq_ok.mp h
        refine .inr ⟨⟨rfl, rfl, not_lt.mp hlong⟩, part, bleBuf, _, rfl, hcopy, rfl, ?_⟩
        by_cases hlast : byteAt (.ofList part) 0 = 255
        · simp only [if_pos hlast] at h
          obtain ⟨packet, hpacket, h⟩ := bind_eq_ok.mp h
          cases h
          exact .inr ⟨hlast, packet, hpacket, rfl, rfl, rfl⟩
        · simp only [if_neg hlast] at h
          cases h
          exact .inl ⟨hlast, rfl, rfl, rfl⟩

/-- A chunk of a read is without error, and fits behind the ones before. -/
def TakesChunk (ble : BleDriver) (err : UInt8) (length : UInt16) : Prop :=
  err = 0 ∧ ble.gattReadParams.offset.toNat + length.toNat ≤ packetBufSize

instance (ble : BleDriver) (err : UInt8) (length : UInt16) : Decidable (ble.TakesChunk err length) :=
  inferInstanceAs (Decidable (_ ∧ _))

/-- Everything that a result of a read can do: make a packet at its end, ignore a chunk that failed
or is too long, or put the chunk behind the ones before. -/
theorem handleReadResult_cases {err : UInt8} {data : Option (List UInt8)} {length : UInt16}
    {iter : GattIter} (h : ble.handleReadResult err data length = .ok (iter, next, calls)) :
    (data = none ∧ ∃ packet, ble.bufferPacket = .ok packet ∧ iter = .stop ∧
      next = { ble with bleBufCtr := 0 } ∧ calls = ble.handOver packet) ∨
    ∃ chunk, data = some chunk ∧
      ((¬ ble.TakesChunk err length ∧ iter = .stop ∧ next = ble ∧ calls = []) ∨
      (ble.TakesChunk err length ∧ ∃ bleBuf,
        ble.bleBuf.memcpy ble.gattReadParams.offset.toNat (.ofList chunk) 0 length.toNat =
          .ok bleBuf ∧
        iter = .continue ∧
        next = { ble with bleBuf := bleBuf, bleBufCtr := ble.bleBufCtr + length } ∧
        calls = [])) := by
  unfold handleReadResult at h
  cases data with
  | none =>
    obtain ⟨packet, hpacket, h⟩ := bind_eq_ok.mp h
    cases h
    exact .inl ⟨rfl, packet, hpacket, rfl, rfl, rfl⟩
  | some chunk =>
    refine .inr ⟨chunk, rfl, ?_⟩
    simp only at h
    split_ifs at h with herr hlong
    · cases h
      exact .inl ⟨fun htakes ↦ herr htakes.1, rfl, rfl, rfl⟩
    · cases h
      exact .inl ⟨fun htakes ↦ absurd htakes.2 (not_le.mpr hlong), rfl, rfl, rfl⟩
    · obtain ⟨bleBuf, hcopy, h⟩ := bind_eq_ok.mp h
      cases h
      exact .inr ⟨⟨not_not.mp herr, not_lt.mp hlong⟩, bleBuf, hcopy, rfl, rfl, rfl⟩

end BleDriver

end CrownstoneRouter
