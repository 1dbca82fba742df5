import CrownstoneRouter.PacketHandling.Packets

/-!
# Writing to a Bluetooth peripheral

`BleCentral::write` copies a message into the one buffer of the Bluetooth driver and hands that to
the stack. The transfer unit and the answer of the stack are inputs.
-/

namespace CrownstoneRouter

open CheckedMemory

/-- `CS_BLE_CENTRAL_GATT_WRITE_OVERHEAD` -/
def gattWriteOverhead : UInt16 := 3

namespace RetCode

/-- `CS_ERR_BLE_CENTRAL_NOT_CONNECTED` -/
def bleNotConnected : RetCode := 0x503

/-- `CS_ERR_BLE_CENTRAL_INCORRECT_MTU` -/
def bleIncorrectMtu : RetCode := 0x506

/-- `CS_ERR_BLE_CENTRAL_WRITE_FAILED` -/
def bleWriteFailed : RetCode := 0x507

end RetCode

/-- `bt_gatt_write_params`; the data is always the buffer of the driver. -/
structure GattWriteParams where
  handle : UInt16
  length : UInt16
  deriving DecidableEq

/-- The members of the class `BleCentral` that a write uses. -/
structure BleCentral where
  initialized : Bool
  conn : Option ℕ
  bleBuf : Buffer UInt8 packetBufSize
  gattWriteParams : GattWriteParams

namespace BleCentral

/-- `BleCentral::isConnected` -/
def isConnected (ble : BleCentral) : Bool :=
  ble.conn.isSome

/-- `BleCentral::write`; `mtu` and `err` are what `bt_gatt_get_mtu` and `bt_gatt_write` return. -/
def write {size : ℕ} (ble : BleCentral) (handle : UInt16) (data : Buffer UInt8 size) (len : UInt16)
    (mtu : UInt16) (err : ℤ) : Checked (RetCode × BleCentral) := do
  if !ble.initialized then return (.notInitialized, ble)
  else if !ble.isConnected then return (.bleNotConnected, ble)
  else if mtu ≤ gattWriteOverhead then return (.bleIncorrectMtu, ble)
  else
    let bleBuf ← ble.bleBuf.memcpy 0 data 0 len.toNat
    let ble := { ble with bleBuf := bleBuf, gattWriteParams := { handle, length := len } }
    if err ≠ 0 then return (.bleWriteFailed, ble)
    else return (.ok, ble)

/-- A write gets as far as the stack. -/
def ReachesWrite (ble : BleCentral) (mtu : UInt16) : Prop :=
  ble.initialized = true ∧ ble.isConnected = true ∧ gattWriteOverhead < mtu

instance (ble : BleCentral) (mtu : UInt16) : Decidable (ble.ReachesWrite mtu) :=
  inferInstanceAs (Decidable (_ ∧ _ ∧ _))

/-- Everything that a write can do: nothing, or copy the message and hand the buffer to the
stack. -/
theorem write_cases {ble next : BleCentral} {size : ℕ} {handle len mtu : UInt16}
    {data : Buffer UInt8 size} {err : ℤ} {ret : RetCode}
    (h : ble.write handle data len mtu err = .ok (ret, next)) :
    (¬ ble.ReachesWrite mtu ∧ next = ble ∧ ¬ (ret = .ok ∨ ret = .bleWriteFailed)) ∨
    (ble.ReachesWrite mtu ∧ (ret = .ok ∨ ret = .bleWriteFailed) ∧
      ∃ bleBuf, ble.bleBuf.memcpy 0 data 0 len.toNat = .ok bleBuf ∧
        next = { ble with bleBuf := bleBuf, gattWriteParams := { handle, length := len } }) := by
  unfold write at h
  split_ifs at h with hinit hconn hmtu herr
  · cases h
    exact .inl ⟨fun hreaches ↦ by simp [hreaches.1] at hinit, rfl, by decide⟩
  · cases h
    exact .inl ⟨fun hreaches ↦ by simp [hreaches.2.1] at hconn, rfl, by decide⟩
  · cases h
    exact .inl ⟨fun hreaches ↦ UInt16.not_lt.mpr hmtu hreaches.2.2, rfl, by decide⟩
  · obtain ⟨bleBuf, hcopy, h⟩ := bind_eq_ok.mp h
    cases h
    exact .inr ⟨⟨by simpa using hinit, by simpa using hconn, UInt16.not_le.mp hmtu⟩, .inr rfl,
      bleBuf, hcopy, rfl⟩
  · obtain ⟨bleBuf, hcopy, h⟩ := bind_eq_ok.mp h
    cases h
    exact .inr ⟨⟨by simpa using hinit, by simpa using hconn, UInt16.not_le.mp hmtu⟩, .inl rfl,
      bleBuf, hcopy, rfl⟩

/-- A write stays inside the buffers exactly if the message fits, or does not get to the stack. -/
theorem write_returns_iff (ble : BleCentral) (handle : UInt16) (data : Buffer UInt8 packetBufSize)
    (len mtu : UInt16) (err : ℤ) :
    (∃ result, ble.write handle data len mtu err = .ok result) ↔
      (ble.ReachesWrite mtu → len.toNat ≤ packetBufSize) := by
  constructor
  · rintro ⟨⟨ret, next⟩, hwrite⟩ hreaches
    obtain ⟨hnot, -⟩ | ⟨-, -, bleBuf, hcopy, -⟩ := write_cases hwrite
    · exact absurd hreaches hnot
    · have hfits := (Buffer.memcpy_eq_ok hcopy).1
      rwa [Nat.zero_add] at hfits
  · intro hfits
    have hcopied (hreaches : ble.ReachesWrite mtu) :
        ∃ bleBuf, ble.bleBuf.memcpy 0 data 0 len.toNat = .ok bleBuf := by
      have hcopy : 0 + len.toNat ≤ packetBufSize ∧ len.toNat ≤ packetBufSize :=
        ⟨by simpa using hfits hreaches, hfits hreaches⟩
      exact ⟨_, by rw [Buffer.memcpy_zero, if_pos hcopy]⟩
    unfold write
    split_ifs with hinit hconn hmtu herr
    · exact ⟨_, rfl⟩
    · exact ⟨_, rfl⟩
    · exact ⟨_, rfl⟩
    · obtain ⟨bleBuf, hcopy⟩ :=
        hcopied ⟨by simpa using hinit, by simpa using hconn, UInt16.not_le.mp hmtu⟩
      exact ⟨_, bind_eq_ok.mpr ⟨bleBuf, hcopy, rfl⟩⟩
    · obtain ⟨bleBuf, hcopy⟩ :=
        hcopied ⟨by simpa using hinit, by simpa using hconn, UInt16.not_le.mp hmtu⟩
      exact ⟨_, bind_eq_ok.mpr ⟨bleBuf, hcopy, rfl⟩⟩

end BleCentral

end CrownstoneRouter
