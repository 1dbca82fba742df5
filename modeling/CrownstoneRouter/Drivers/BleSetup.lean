import CrownstoneRouter.Drivers.BleDriver
import CrownstoneRouter.Drivers.UuidText

/-!
# Setting up the Bluetooth driver

The driver is a static object. `init` enables the Bluetooth stack, reads the UUIDs that discovery
looks for, and makes the driver available; the result of reading the base UUID is not looked at.
-/

namespace CrownstoneRouter

open CheckedMemory LittleEndian

/-- `CS_ERR_BLE_CENTRAL_BLUETOOTH_INIT_FAILED` -/
def RetCode.bleBluetoothInitFailed : RetCode := 0x501

/-- `BT_UUID_GATT_CCC_VAL` -/
def btUuidGattCccVal : UInt16 := 0x2902

/-- The union `cs_ble_uuid` in zeroed memory. -/
def ServiceUuid.zeroed : ServiceUuid where
  uuid := Buffer.fill sizeofBleUuid 0

/-- `ServiceUuid::fromShortUuid` -/
def ServiceUuid.fromShortUuid (uuid : ServiceUuid) (shortUuid : UInt16) :
    Checked (RetCode × ServiceUuid) := do
  let uuid16Buf := (Buffer.fill 2 0).overlay (putLe16 shortUuid)
  let (created, made) ← btUuidCreate uuid.uuid uuid16Buf
  if !created then return (.invalidParam, { uuid := made })
  else return (.ok, { uuid := made })

namespace BleDriver

/-- The static object before `init`. -/
def created : BleDriver where
  initialized := false
  conn := none
  bleBuf := Buffer.fill packetBufSize 0
  gattWriteParams := { handle := 0, length := 0 }
  srcId := 0
  destId := 0
  hasPktHandler := false
  availableEvent := false
  devAddr := { type := 0, val := Buffer.fill 6 0 }
  gattDiscoverParams := { uuid := none, startHandle := 0, endHandle := 0, type := .primary }
  gattSubscribeParams := { valueHandle := 0, cccHandle := 0, value := 0 }
  gattReadParams := { handle := 0, offset := 0 }
  bleBufCtr := 0
  uuidBase := .zeroed
  uuidCcc := .zeroed
  nextHandle := 0
  sessionDataHandle := 0
  controlHandle := 0
  resultHandle := 0

/-- `BleCentral::setSourceId` -/
def setSourceId (ble : BleDriver) (srcId : InstanceId) : BleDriver :=
  { ble with srcId }

/-- `BleCentral::setDestinationId` -/
def setDestinationId (ble : BleDriver) (destId : InstanceId) : BleDriver :=
  { ble with destId }

/-- The base UUID after `init` has read a text, if there is one. -/
def readUuidBase (hex2bin : Hex2Bin) (ble : BleDriver) (baseUuid : Option (List UInt8))
    (uuid128Buf : Buffer UInt8 btUuidSize128) : Checked ServiceUuid :=
  match baseUuid with
  | some text => do
      let (_, uuidBase) ← ble.uuidBase.fromFullUuid hex2bin text uuid128Buf
      return uuidBase
  | none => return ble.uuidBase

/-- `BleCentral::init`; `btEnable` is the result of `bt_enable`, and `uuid128Buf` what the local
array of `fromFullUuid` holds before. -/
def init (hex2bin : Hex2Bin) (ble : BleDriver) (baseUuid : Option (List UInt8))
    (hasPktHandler : Bool) (btEnable : ℤ) (uuid128Buf : Buffer UInt8 btUuidSize128) :
    Checked (RetCode × BleDriver) := do
  if ble.initialized then return (.alreadyInitialized, ble)
  else if btEnable ≠ 0 then return (.bleBluetoothInitFailed, ble)
  else
    let uuidBase ← ble.readUuidBase hex2bin baseUuid uuid128Buf
    let (_, uuidCcc) ← ble.uuidCcc.fromShortUuid btUuidGattCccVal
    return (.ok, { ble with
      uuidBase
      uuidCcc
      availableEvent := true
      hasPktHandler
      initialized := true })

end BleDriver

theorem ServiceUuid.fromFullUuid_returns (hex2bin : Hex2Bin) (uuid : ServiceUuid)
    (fullUuid : List UInt8) (uuid128Buf : Buffer UInt8 btUuidSize128) :
    ∃ result, uuid.fromFullUuid hex2bin fullUuid uuid128Buf = .ok result := by
  simp only [fromFullUuid, btUuidCreate_full, bind, bind_ok]
  split_ifs <;> exact ⟨_, rfl⟩

namespace BleDriver

/-- The initialization keeps the ids of the driver. -/
theorem init_ids {hex2bin : Hex2Bin} {ble next : BleDriver} {baseUuid : Option (List UInt8)}
    {hasPktHandler : Bool} {btEnable : ℤ} {uuid128Buf : Buffer UInt8 btUuidSize128} {ret : RetCode}
    (h : ble.init hex2bin baseUuid hasPktHandler btEnable uuid128Buf = .ok (ret, next)) :
    next.srcId = ble.srcId ∧ next.destId = ble.destId := by
  unfold init at h
  split_ifs at h
  · cases h
    exact ⟨rfl, rfl⟩
  · cases h
    exact ⟨rfl, rfl⟩
  · obtain ⟨uuidBase, -, h⟩ := bind_eq_ok.mp h
    obtain ⟨uuidCcc, -, h⟩ := bind_eq_ok.mp h
    cases h
    exact ⟨rfl, rfl⟩

/-- The initialization stays inside the unions of the UUIDs. -/
theorem init_returns (hex2bin : Hex2Bin) (ble : BleDriver) (baseUuid : List UInt8)
    (hasPktHandler : Bool) (btEnable : ℤ) (uuid128Buf : Buffer UInt8 btUuidSize128) :
    ∃ result, ble.init hex2bin (some baseUuid) hasPktHandler btEnable uuid128Buf = .ok result := by
  unfold init
  split_ifs
  · exact ⟨_, rfl⟩
  · exact ⟨_, rfl⟩
  · obtain ⟨⟨ret, uuidBase⟩, hread⟩ :=
      ble.uuidBase.fromFullUuid_returns hex2bin baseUuid uuid128Buf
    simp only [readUuidBase, hread, bind, bind_ok]
    exact ⟨_, rfl⟩

/-- The only error of the initialization is that of the stack, and it leaves the driver as it is.
Otherwise the driver is the one that discovery starts from. -/
theorem init_created (hex2bin : Hex2Bin) (srcId destId : InstanceId) (baseUuid : List UInt8)
    (btEnable : ℤ) (uuid128Buf : Buffer UInt8 btUuidSize128) :
    ∃ uuidBase, ((created.setSourceId srcId).setDestinationId destId).init hex2bin (some baseUuid)
      true btEnable uuid128Buf =
        .ok (if btEnable = 0 then (.ok, initial srcId destId uuidBase)
          else (.bleBluetoothInitFailed, (created.setSourceId srcId).setDestinationId destId)) := by
  obtain ⟨⟨ret, uuidBase⟩, hread⟩ :=
    ServiceUuid.zeroed.fromFullUuid_returns hex2bin baseUuid uuid128Buf
  refine ⟨uuidBase, ?_⟩
  by_cases henabled : btEnable = 0
  · have hbase : created.uuidBase.fromFullUuid hex2bin baseUuid uuid128Buf = .ok (ret, uuidBase) :=
      hread
    subst henabled
    simp only [init, readUuidBase, setSourceId, setDestinationId, hbase, bind, bind_ok]
    rfl
  · rw [if_neg henabled]
    exact if_pos henabled

end BleDriver

end CrownstoneRouter
