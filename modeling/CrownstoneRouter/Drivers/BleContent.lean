import CrownstoneRouter.Drivers.BleBuffer
import CrownstoneRouter.Foundation.Assembly

/-!
# The content of the Bluetooth buffer

What the counter counts is the content of the buffer. Notifications and chunks of a read append to
it, and packets are made of it.
-/

namespace CrownstoneRouter

open CheckedMemory

namespace BleDriver

/-- The buffer has this content. -/
structure Holds (ble : BleDriver) (content : List UInt8) : Prop where
  counter : ble.bleBufCtr.toNat = content.length
  front : ble.bleBuf.slice 0 content.length = content
  bounded : content.length ≤ packetBufSize

/-- The driver with some bytes behind its content. -/
def appended (ble : BleDriver) (bytes : List UInt8) : BleDriver :=
  { ble with
    bleBuf := ble.bleBuf.patch ble.bleBufCtr.toNat bytes
    bleBufCtr := ble.bleBufCtr + UInt16.ofNat bytes.length }

def emptied (ble : BleDriver) : BleDriver :=
  { ble with bleBufCtr := 0 }

variable {ble : BleDriver} {content memory bytes : List UInt8} {length : UInt16}

theorem Holds.nil (h : ble.bleBufCtr = 0) : ble.Holds [] where
  counter := by rw [h]; rfl
  front := rfl
  bounded := Nat.zero_le _

theorem holds_emptied (ble : BleDriver) : ble.emptied.Holds [] :=
  .nil rfl

theorem Holds.counter_le (h : ble.Holds content) : ble.bleBufCtr.toNat ≤ packetBufSize :=
  h.counter.trans_le h.bounded

theorem holds_of_counter (h : ble.bleBufCtr.toNat ≤ packetBufSize) :
    ble.Holds (ble.bleBuf.slice 0 ble.bleBufCtr.toNat) := by
  have hlength := ble.bleBuf.length_slice 0 ble.bleBufCtr.toNat (by rwa [Nat.zero_add])
  exact ⟨hlength.symm, by rw [hlength], by rwa [hlength]⟩

theorem Holds.append (h : ble.Holds content)
    (hfits : content.length + bytes.length ≤ packetBufSize) :
    (ble.appended bytes).Holds (content ++ bytes) := by
  have hbytes : bytes.length < 2 ^ 16 := by
    have hbound : content.length + bytes.length ≤ 250 := hfits
    omega
  have hstored : ble.bleBufCtr.toNat + bytes.length ≤ packetBufSize := by rwa [h.counter]
  have hcounter : (ble.appended bytes).bleBufCtr.toNat = (content ++ bytes).length := by
    have hadded : ble.bleBufCtr.toNat + (UInt16.ofNat bytes.length).toNat ≤ packetBufSize := by
      rwa [UInt16.toNat_ofNat_of_lt' hbytes]
    rw [appended, BufferRun.toNat_add_chunk hadded, UInt16.toNat_ofNat_of_lt' hbytes, h.counter,
      List.length_append]
  refine ⟨hcounter, ?_, by rwa [List.length_append]⟩
  rw [List.length_append, ← h.counter, appended, Buffer.slice_patch ble.bleBuf hstored, h.counter,
    h.front]

theorem Holds.bufferPacket (h : ble.Holds content) :
    ble.bufferPacket = .ok (peripheralData ble.srcId ble.destId content) := by
  have hcopy : 0 + content.length ≤ packetBufSize ∧ content.length ≤ packetBufSize :=
    ⟨by rw [Nat.zero_add]; exact h.bounded, h.bounded⟩
  have hcounter : ble.bleBufCtr = UInt16.ofNat content.length := by
    rw [← h.counter, UInt16.ofNat_toNat]
  simp only [BleDriver.bufferPacket, h.counter, Buffer.memcpy_zero, if_pos hcopy, h.front, bind,
    bind_ok]
  rw [hcounter]
  rfl

/-! ## Notifications and chunks -/

/-- What a notification with a counter does: append what follows the counter, if there is room for
it, and make a packet at the end of a series. -/
theorem Holds.handleNotifications (h : ble.Holds content) (conn : ℕ) (counter : UInt8)
    (hlength : 1 ≤ length.toNat) (hcovered : length.toNat ≤ memory.length + 1) :
    ble.handleNotifications (some conn) (some (counter :: memory)) length =
      if content.length + (length.toNat - 1) ≤ packetBufSize then
        if counter = 255 then
          .ok (.stop, (ble.appended (memory.take (length.toNat - 1))).emptied,
            ble.handOver (peripheralData ble.srcId ble.destId
              (content ++ memory.take (length.toNat - 1))) ++ ble.disconnect.2)
        else .ok (.continue, ble.appended (memory.take (length.toNat - 1)), [])
      else .ok (.stop, ble, []) := by
  have hbody : (memory.take (length.toNat - 1)).length = length.toNat - 1 := by
    rw [List.length_take]
    omega
  have hbodyLength : length - 1 = UInt16.ofNat (memory.take (length.toNat - 1)).length := by
    rw [hbody, UInt16.ofNat_sub hlength, UInt16.ofNat_toNat]
    rfl
  have hsize : sizeOfInt (length.toNat - 1) = length.toNat - 1 := by
    have hbound : length.toNat < 2 ^ 16 := length.toNat_lt
    unfold sizeOfInt
    omega
  have hchecked : sizeOfInt (ble.bleBufCtr.toNat + length.toNat - 1) =
      content.length + (length.toNat - 1) := by
    have hbound : length.toNat < 2 ^ 16 := length.toNat_lt
    have hcontent : content.length ≤ 250 := h.bounded
    rw [h.counter]
    unfold sizeOfInt
    omega
  have hcounter : loadByte (.ofList (counter :: memory)) 0 = .ok counter :=
    if_pos (Nat.succ_pos memory.length)
  simp only [BleDriver.handleNotifications, hcounter, hchecked, hsize, bind, bind_ok]
  by_cases hfits : content.length + (length.toNat - 1) ≤ packetBufSize
  · have hcopy : ble.bleBuf.memcpy ble.bleBufCtr.toNat (.ofList (counter :: memory)) 1
        (length.toNat - 1) =
          .ok (ble.bleBuf.patch ble.bleBufCtr.toNat (memory.take (length.toNat - 1))) := by
      apply Buffer.memcpy_of_fits
      · rw [List.length_cons]
        omega
      · rwa [h.counter]
    have hfilled : (ble.appended (memory.take (length.toNat - 1))).Holds
        (content ++ memory.take (length.toNat - 1)) := h.append (by rwa [hbody])
    have hpacket := hfilled.bufferPacket
    rw [appended, ← hbodyLength] at hpacket
    rw [if_neg (not_lt.mpr hfits), if_pos hfits, hcopy]
    simp only [bind_ok, hpacket]
    split_ifs
    · rw [appended, ← hbodyLength]
      rfl
    · rw [appended, ← hbodyLength]
      rfl
  · rw [if_pos (not_le.mp hfits), if_neg hfits]
    rfl

/-- The end of a read makes a packet of the content, with an error as well as without one. -/
theorem Holds.handleReadResult_none (h : ble.Holds content) (err : UInt8) (length : UInt16) :
    ble.handleReadResult err none length =
      .ok (.stop, ble.emptied, ble.handOver (peripheralData ble.srcId ble.destId content)) := by
  simp only [handleReadResult, h.bufferPacket, bind, bind_ok]
  rfl

/-- What a chunk does: it is put behind the offset of the read, if there is no error and the buffer
has room for it, and counted. -/
theorem handleReadResult_some (ble : BleDriver) (err : UInt8)
    (hcovered : length.toNat ≤ memory.length) :
    ble.handleReadResult err (some memory) length =
      if ble.TakesChunk err length then
        .ok (.continue, { ble with
          bleBuf := ble.bleBuf.patch ble.gattReadParams.offset.toNat (memory.take length.toNat)
          bleBufCtr := ble.bleBufCtr + length }, [])
      else .ok (.stop, ble, []) := by
  simp only [handleReadResult]
  by_cases herr : err = 0
  · rw [if_neg (not_not.mpr herr)]
    by_cases hfits : ble.gattReadParams.offset.toNat + length.toNat ≤ packetBufSize
    · have htakes : ble.TakesChunk err length := ⟨herr, hfits⟩
      have hcopy := ble.bleBuf.memcpy_of_fits (.ofList memory)
        ((Nat.zero_add length.toNat).le.trans hcovered) hfits
      rw [if_neg (not_lt.mpr hfits), if_pos htakes, hcopy]
      rfl
    · have htakes : ¬ ble.TakesChunk err length := fun h ↦ hfits h.2
      rw [if_pos (not_le.mp hfits), if_neg htakes]
      rfl
  · have htakes : ¬ ble.TakesChunk err length := fun h ↦ herr h.1
    rw [if_pos herr, if_neg htakes]
    rfl

end BleDriver

end CrownstoneRouter
