import CrownstoneRouter.PacketHandling.Codec

/-!
# Service UUIDs

A `ServiceUuid` is the union `cs_ble_uuid` of a 16-bit and a 128-bit UUID of the Bluetooth stack, as
bytes. Both start with the byte that tells them apart; the value of a 16-bit UUID follows aligned,
that of a 128-bit UUID at once. All values are little endian.
-/

namespace CrownstoneRouter

open CheckedMemory LittleEndian

/-- The size of `cs_ble_uuid`. -/
abbrev sizeofBleUuid : ℕ := 18

/-- `BT_UUID_TYPE_16` -/
def btUuidType16 : UInt8 := 0

/-- `BT_UUID_TYPE_32` -/
def btUuidType32 : UInt8 := 1

/-- `BT_UUID_TYPE_128` -/
def btUuidType128 : UInt8 := 2

/-- `sizeof(bt_uuid_16)` -/
abbrev sizeofBtUuid16 : ℕ := 4

/-- `sizeof(bt_uuid_128)` -/
abbrev sizeofBtUuid128 : ℕ := 17

/-- `UUID_16_BASE_OFFSET` -/
abbrev uuid16BaseOffset : ℕ := 12

def btUuidBase : Buffer UInt8 16 :=
  ⟨[0xFB, 0x34, 0x9B, 0x5F, 0x80, 0x00, 0x00, 0x80, 0x00, 0x10, 0x00, 0x00, 0x00, 0x00, 0x00,
    0x00], rfl⟩

/-- The class `ServiceUuid`. -/
structure ServiceUuid where
  uuid : Buffer UInt8 sizeofBleUuid
  deriving DecidableEq

namespace ServiceUuid

/-- The 128-bit value of a UUID, to which the stack expands shorter ones. -/
def toUuid128 (uuid : ServiceUuid) : List UInt8 :=
  if byteAt uuid.uuid 0 = btUuidType16 then
    (btUuidBase.patch uuid16BaseOffset (uuid.uuid.slice 2 2)).cells
  else if byteAt uuid.uuid 0 = btUuidType32 then
    (btUuidBase.patch uuid16BaseOffset (uuid.uuid.slice 4 4)).cells
  else uuid.uuid.slice 1 16

/-- `operator==`, which relies on `bt_uuid_cmp`. -/
def eq (uuid other : ServiceUuid) : Bool :=
  uuid.toUuid128 = other.toUuid128

/-- `ServiceUuid::ServiceUuid(const bt_uuid *uuid)`, where the memory behind the pointer is `object`
and that of the new object has been `before`. The first case falls through to the second one. -/
def ofUuid {size : ℕ} (object : Buffer UInt8 size) (before : Buffer UInt8 sizeofBleUuid) :
    Checked ServiceUuid := do
  let type ← loadByte object 0
  if type = btUuidType16 then
    let uuid ← before.memcpy 0 object 0 sizeofBtUuid16
    let uuid ← uuid.memcpy 0 object 0 sizeofBtUuid128
    return { uuid }
  else if type = btUuidType128 then
    let uuid ← before.memcpy 0 object 0 sizeofBtUuid128
    return { uuid }
  else return { uuid := before }

/-- `ServiceUuid::fromBaseUuid` -/
def fromBaseUuid (uuid baseUuid : ServiceUuid) (shortUuid : UInt16) : Checked ServiceUuid := do
  let uuid ← uuid.uuid.memcpy 0 baseUuid.uuid 0 sizeofBtUuid128
  let uuid ← uuid.store (1 + uuid16BaseOffset) (putLe16 shortUuid)
  return { uuid }

/-! ## Specifications -/

/-- The UUID made of one that the stack holds in a union. -/
def wrapped (object before : Buffer UInt8 sizeofBleUuid) : ServiceUuid where
  uuid :=
    if byteAt object 0 = btUuidType16 ∨ byteAt object 0 = btUuidType128 then
      before.overlay (object.slice 0 sizeofBtUuid128)
    else before

/-- The UUID with its short part replaced. -/
def derived (uuid baseUuid : ServiceUuid) (shortUuid : UInt16) : ServiceUuid where
  uuid := (uuid.uuid.overlay (baseUuid.uuid.slice 0 sizeofBtUuid128)).patch
    (1 + uuid16BaseOffset) (putLe16 shortUuid)

/-- Wrapping a UUID in a union stays inside the union. -/
theorem ofUuid_eq (object before : Buffer UInt8 sizeofBleUuid) :
    ofUuid object before = .ok (wrapped object before) := by
  have htype : loadByte object 0 = .ok (byteAt object 0) := if_pos (by decide)
  have hshort : before.memcpy 0 object 0 sizeofBtUuid16 =
      .ok (before.overlay (object.slice 0 sizeofBtUuid16)) := by
    rw [Buffer.memcpy_zero, if_pos (by decide)]
  have hlong (buffer : Buffer UInt8 sizeofBleUuid) : buffer.memcpy 0 object 0 sizeofBtUuid128 =
      .ok (buffer.overlay (object.slice 0 sizeofBtUuid128)) := by
    rw [Buffer.memcpy_zero, if_pos (by decide)]
  have hlengthShort := object.length_slice 0 sizeofBtUuid16 (by decide)
  have hlengthLong := object.length_slice 0 sizeofBtUuid128 (by decide)
  have hcovers : (before.overlay (object.slice 0 sizeofBtUuid16)).overlay
      (object.slice 0 sizeofBtUuid128) = before.overlay (object.slice 0 sizeofBtUuid128) := by
    apply Buffer.overlay_overlay
    · rw [hlengthShort, hlengthLong]
      decide
    · rw [hlengthLong]
      decide
  simp only [ofUuid, htype, hshort, hlong, hcovers, bind, bind_ok, pure, Except.pure]
  by_cases h16 : byteAt object 0 = btUuidType16
  · rw [if_pos h16, wrapped, if_pos (.inl h16)]
  · rw [if_neg h16]
    by_cases h128 : byteAt object 0 = btUuidType128
    · rw [if_pos h128, wrapped, if_pos (.inr h128)]
    · rw [if_neg h128, wrapped, if_neg (not_or.mpr ⟨h16, h128⟩)]

theorem fromBaseUuid_eq (uuid baseUuid : ServiceUuid) (shortUuid : UInt16) :
    uuid.fromBaseUuid baseUuid shortUuid = .ok (derived uuid baseUuid shortUuid) := by
  have hcopy : uuid.uuid.memcpy 0 baseUuid.uuid 0 sizeofBtUuid128 =
      .ok (uuid.uuid.overlay (baseUuid.uuid.slice 0 sizeofBtUuid128)) := by
    rw [Buffer.memcpy_zero, if_pos (by decide)]
  have hstore (buffer : Buffer UInt8 sizeofBleUuid) :
      buffer.store (1 + uuid16BaseOffset) (putLe16 shortUuid) =
        .ok (buffer.patch (1 + uuid16BaseOffset) (putLe16 shortUuid)) :=
    if_pos (show 1 + uuid16BaseOffset + 2 ≤ sizeofBleUuid by decide)
  simp only [fromBaseUuid, hcopy, hstore, bind, bind_ok]
  rfl

/-- The 128-bit value is in the part of the union that a 128-bit UUID takes. -/
theorem toUuid128_congr {uuid other : ServiceUuid}
    (h : uuid.uuid.slice 0 sizeofBtUuid128 = other.uuid.slice 0 sizeofBtUuid128) :
    uuid.toUuid128 = other.toUuid128 := by
  have hslice {position count : ℕ} (hfits : position + count ≤ sizeofBtUuid128) :
      uuid.uuid.slice position count = other.uuid.slice position count := by
    have hcut (buffer : Buffer UInt8 sizeofBleUuid) : buffer.slice position count =
        ((buffer.slice 0 sizeofBtUuid128).drop position).take count := by
      rw [Buffer.drop_slice, Nat.zero_add, Buffer.take_slice _ _ _ (by omega)]
    rw [hcut, hcut, h]
  have htype : byteAt uuid.uuid 0 = byteAt other.uuid 0 := by
    have hfirst (buffer : Buffer UInt8 sizeofBleUuid) :
        byteAt buffer 0 = (buffer.slice 0 1).getD 0 0 := by
      simp [byteAt, Buffer.slice]
    rw [hfirst, hfirst, hslice (by decide)]
  simp only [toUuid128, htype, hslice (by decide : 2 + 2 ≤ sizeofBtUuid128),
    hslice (by decide : 4 + 4 ≤ sizeofBtUuid128), hslice (by decide : 1 + 16 ≤ sizeofBtUuid128)]

/-- Wrapping keeps the value of a 16-bit or a 128-bit UUID. -/
theorem toUuid128_wrapped {object : Buffer UInt8 sizeofBleUuid}
    (before : Buffer UInt8 sizeofBleUuid)
    (h : byteAt object 0 = btUuidType16 ∨ byteAt object 0 = btUuidType128) :
    (wrapped object before).toUuid128 = toUuid128 { uuid := object } := by
  have hlength := object.length_slice 0 sizeofBtUuid128 (by decide)
  apply toUuid128_congr
  rw [wrapped, if_pos h]
  have hkept := before.slice_overlay (Nat.le_of_lt (hlength.trans_lt (by decide)))
  rwa [hlength] at hkept

/-- A short UUID takes the place of two bytes of the base. -/
theorem derived_of_parts (uuid : ServiceUuid) {baseUuid : ServiceUuid}
    {before old after : List UInt8} (shortUuid : UInt16)
    (hparts : baseUuid.uuid.slice 0 sizeofBtUuid128 = before ++ old ++ after)
    (hbefore : before.length = 1 + uuid16BaseOffset) (hold : old.length = 2) :
    (uuid.derived baseUuid shortUuid).uuid =
      uuid.uuid.overlay (before ++ putLe16 shortUuid ++ after) := by
  have hlength := baseUuid.uuid.length_slice 0 sizeofBtUuid128 (by decide)
  have hfits : (before ++ old ++ after).length ≤ sizeofBleUuid := by
    rw [← hparts, hlength]
    decide
  have hpart : (putLe16 shortUuid).length = old.length := hold.symm
  rw [derived, hparts]
  exact Buffer.patch_overlay uuid.uuid hbefore.symm hpart hfits

/-- The value of a derived UUID does not depend on what it is written over. -/
theorem toUuid128_derived (uuid other baseUuid : ServiceUuid) (shortUuid : UInt16) :
    (uuid.derived baseUuid shortUuid).toUuid128 = (other.derived baseUuid shortUuid).toUuid128 := by
  let base := baseUuid.uuid.slice 0 sizeofBtUuid128
  have hlength : base.length = 17 := baseUuid.uuid.length_slice 0 sizeofBtUuid128 (by decide)
  have hparts : base = base.take 13 ++ (base.drop 13).take 2 ++ base.drop 15 := by
    rw [← List.take_add, List.take_append_drop]
  have hbefore : (base.take 13).length = 1 + uuid16BaseOffset := by
    rw [List.length_take, hlength]
    rfl
  have hold : ((base.drop 13).take 2).length = 2 := by simp [hlength]
  have hcount : (base.take 13 ++ putLe16 shortUuid ++ base.drop 15).length = sizeofBtUuid128 := by
    simp [putLe16, hlength]
  have hfront (uuid : ServiceUuid) :
      (uuid.derived baseUuid shortUuid).uuid.slice 0 sizeofBtUuid128 =
        base.take 13 ++ putLe16 shortUuid ++ base.drop 15 := by
    have hread := uuid.uuid.slice_overlay (Nat.le_of_lt (hcount.trans_lt (by decide)))
    rw [hcount] at hread
    rw [uuid.derived_of_parts shortUuid hparts hbefore hold, hread]
  exact toUuid128_congr ((hfront uuid).trans (hfront other).symm)

end ServiceUuid

end CrownstoneRouter
