import CrownstoneRouter.Foundation.Recording
import CrownstoneRouter.PacketHandling.Validation

/-!
# What the UART loader reads

The loader of UART packets takes the length that a packet declares as it is: it derives the length
of the payload, the range of the CRC and the position of the CRC field from it by differences of
32-bit integers, and refuses no packet. The loader is instrumented here, so that what it reads of a
message and what it computes is a record of its own run, and the messages are named for which it
stays inside the message buffer.
-/

namespace CrownstoneRouter

open CheckedMemory

variable (crc16_ccitt : UInt16 → List UInt8 → UInt16)

/-- What `loadUartPacket` does: it reads a field, computes `payload_len`, or computes the CRC over a
range. -/
inductive UartEvent
  | field (position : ℤ) (count : ℕ)
  | payloadLen (value : ℤ)
  | covered (position : ℤ) (count : ℕ)
  deriving DecidableEq

namespace UartEvent

/-- A read starts inside a buffer of this size and ends inside it. -/
def Inside (size : ℕ) : UartEvent → Prop
  | .field position count | .covered position count => 0 ≤ position ∧ position + count ≤ size
  | .payloadLen _ => True

def isCovered : UartEvent → Bool
  | .field _ _ | .payloadLen _ => false
  | .covered _ _ => true

end UartEvent

/-! ## The instrumented loader -/

section Instrumented

variable {size : ℕ} (buffer : Buffer UInt8 size)

open Recorded

def readByte (position : ℤ) : Recorded UartEvent UInt8 :=
  access (.field position 1) (loadByte buffer position.toNat)

def readLe16 (position : ℤ) : Recorded UartEvent UInt16 :=
  access (.field position 2) (loadLe16 buffer position.toNat)

def readCovered (position : ℤ) (count : ℕ) : Recorded UartEvent (List UInt8) :=
  access (.covered position count) (buffer.load position.toNat count)

/-- `loadUartPacket` with a record of its reads and of `payload_len`. -/
def recordUartPacket : Recorded UartEvent (UartPacket × Option Warning) := do
  let startToken ← readByte buffer 0
  let length ← readLe16 buffer 1
  let protocolVersion ← readByte buffer 3
  let type ← readByte buffer 4
  let payloadLen : ℤ := (length.toNat : ℤ) - 4
  note (.payloadLen payloadLen)
  let pktCtr : ℤ := 5 + payloadLen
  let covered ← readCovered buffer 3 (sizeOfInt ((length.toNat : ℤ) - 2))
  let checkCrc := crc16_ccitt uartCrcSeed covered
  let receivedCrc ← readLe16 buffer pktCtr
  return ({ startToken, length, protocolVersion, type, payload := 5 },
    if checkCrc ≠ receivedCrc then some (.crcMismatch checkCrc receivedCrc) else none)

/-- Without its record, the instrumented loader is the loader. -/
theorem result_recordUartPacket :
    (recordUartPacket crc16_ccitt buffer).result = loadUartPacket crc16_ccitt buffer := by
  simp only [recordUartPacket, readByte, readLe16, readCovered, Recorded.result_bind,
    Recorded.result_access, Recorded.result_note, Recorded.result_pure, bind_ok]
  rfl

end Instrumented

/-! ## The record of a message -/

section Record

variable (buffer : Buffer UInt8 packetBufSize)

/-- The size that the CRC is computed over. -/
def coveredSize : ℕ :=
  sizeOfInt (((le16At buffer 1).toNat : ℤ) - 2)

/-- The loader computes the CRC of every message, and comes to the CRC field unless the range of the
CRC leaves the message buffer. -/
theorem events_recordUartPacket :
    (recordUartPacket crc16_ccitt buffer).events =
      [.field 0 1, .field 1 2, .field 3 1, .field 4 1,
        .payloadLen ((le16At buffer 1).toNat - 4), .covered 3 (coveredSize buffer)] ++
      if 3 + coveredSize buffer ≤ packetBufSize then [.field (5 + ((le16At buffer 1).toNat - 4)) 2]
      else [] := by
  have hbyte (position : ℤ) (hposition : position.toNat < packetBufSize) :
      loadByte buffer position.toNat = .ok (byteAt buffer position.toNat) := if_pos hposition
  have hlength : loadLe16 buffer (1 : ℤ).toNat = .ok (le16At buffer 1) := if_pos (by decide)
  unfold recordUartPacket readByte readLe16 readCovered
  rw [Recorded.bind_access_ok (hbyte 0 (by decide)), Recorded.bind_access_ok hlength,
    Recorded.bind_access_ok (hbyte 3 (by decide)), Recorded.bind_access_ok (hbyte 4 (by decide)),
    Recorded.bind_note]
  by_cases hcovered : 3 + coveredSize buffer ≤ packetBufSize
  · have hload : buffer.load (3 : ℤ).toNat (coveredSize buffer) =
        .ok (buffer.slice 3 (coveredSize buffer)) := if_pos hcovered
    rw [if_pos hcovered, ← coveredSize, Recorded.bind_access_ok hload]
    cases hcrc : loadLe16 buffer (5 + (((le16At buffer 1).toNat : ℤ) - 4)).toNat with
    | ok receivedCrc =>
      rw [Recorded.bind_access_ok rfl]
      rfl
    | error fault =>
      rw [Recorded.bind_access_error rfl]
      rfl
  · have hload : buffer.load (3 : ℤ).toNat (coveredSize buffer) = .error .outOfBounds :=
      if_neg hcovered
    rw [if_neg hcovered, ← coveredSize, Recorded.bind_access_error hload]
    rfl

/-- The payload length is computed once, and may be negative. -/
theorem payloadLen_mem_events_iff (value : ℤ) :
    .payloadLen value ∈ (recordUartPacket crc16_ccitt buffer).events ↔
      value = (le16At buffer 1).toNat - 4 := by
  rw [events_recordUartPacket]
  split_ifs <;> simp

/-- The loader stays inside the message buffer exactly if the declared length does. -/
theorem events_inside_iff :
    (∀ event ∈ (recordUartPacket crc16_ccitt buffer).events, event.Inside packetBufSize) ↔
      UartLengthInside buffer := by
  have hlength : (le16At buffer 1).toNat < 2 ^ 16 := (le16At buffer 1).toNat_lt
  have hcovered : coveredSize buffer = _ := sizeOfInt_sub_two (le16At buffer 1)
  simp only [events_recordUartPacket, List.forall_mem_append, List.forall_mem_cons,
    UartEvent.Inside, hcovered, UartLengthInside, packetBufSize]
  split_ifs with hsmall hinside hinside
  · simp
    omega
  · simp
    omega
  · exact absurd hinside (by omega)
  · simp
    omega

theorem loadUartPacket_returns_iff :
    (∃ result, loadUartPacket crc16_ccitt buffer = .ok result) ↔ UartLengthInside buffer := by
  rw [loadUartPacket_eq crc16_ccitt buffer (by decide) (by decide)]
  by_cases hinside : UartLengthInside buffer
  · rw [if_pos hinside]
    exact iff_of_true ⟨_, rfl⟩ hinside
  · rw [if_neg hinside]
    refine iff_of_false ?_ hinside
    rintro ⟨result, hreturns⟩
    cases hreturns

end Record

/-! ## Messages that are read alone -/

/-- A packet is refused before its CRC is computed, and before its payload is used. -/
structure RefusedUnread (buf : Buffer UInt8 packetBufSize) : Prop where
  crc : ∀ event ∈ (recordUartPacket crc16_ccitt buf).events, event.isCovered = false
  payload : ∀ (sys : System) (data : PacketData), data.srcId = instanceIdUartCm4 →
    data.msg.buf = buf → handleIncomingPacket crc16_ccitt sys data = .ok sys

/-- The loader reads only the message: the length of the payload that it computes is not negative,
all its reads stay inside the message buffer, and it refuses a packet whose declared length is too
small or too large. -/
structure ReadsOnlyMessage (buf : Buffer UInt8 packetBufSize) : Prop where
  payloadLen : ∀ value, .payloadLen value ∈ (recordUartPacket crc16_ccitt buf).events → 0 ≤ value
  inside : ∀ event ∈ (recordUartPacket crc16_ccitt buf).events, event.Inside packetBufSize
  returns : ∃ result, loadUartPacket crc16_ccitt buf = .ok result
  refused : ¬ FrameLengthInside buf → RefusedUnread crc16_ccitt buf

/-- The loader reads only the message exactly if the declared length is large enough for the fixed
fields and stays inside the message buffer: no other packet is refused. -/
theorem loader_reads_only_message_iff (buf : Buffer UInt8 packetBufSize) :
    ReadsOnlyMessage crc16_ccitt buf ↔ FrameLengthInside buf := by
  constructor
  · intro h
    have hlength := h.payloadLen _ ((payloadLen_mem_events_iff crc16_ccitt buf _).mpr rfl)
    refine ⟨?_, (events_inside_iff crc16_ccitt buf).mp h.inside⟩
    omega
  · intro h
    refine ⟨fun value hvalue ↦ ?_, (events_inside_iff crc16_ccitt buf).mpr h.2,
      (loadUartPacket_returns_iff crc16_ccitt buf).mpr h.2, absurd h⟩
    have hlength := h.1
    rw [payloadLen_mem_events_iff] at hvalue
    omega

/-- A frame whose declared length is one too small for its fixed fields. -/
def shortFrame : Buffer UInt8 packetBufSize :=
  (PacketBuffer.ofBytes [0x7E, 3, 0, 1, 0, 0, 0]).buf

/-- The loader computes the length of the payload of this frame to be negative, and returns. -/
theorem shortFrame_loaded :
    .payloadLen (-1) ∈ (recordUartPacket zephyrCrc16Ccitt shortFrame).events ∧
    (∃ result, loadUartPacket zephyrCrc16Ccitt shortFrame = .ok result) ∧
    ¬ ReadsOnlyMessage zephyrCrc16Ccitt shortFrame := by
  have hnegative : .payloadLen (-1) ∈ (recordUartPacket zephyrCrc16Ccitt shortFrame).events :=
    (payloadLen_mem_events_iff zephyrCrc16Ccitt shortFrame (-1)).mpr (by decide +kernel)
  have hinside : UartLengthInside shortFrame := by decide +kernel
  refine ⟨hnegative, (loadUartPacket_returns_iff zephyrCrc16Ccitt shortFrame).mpr hinside,
    fun h ↦ ?_⟩
  exact absurd (h.payloadLen (-1) hnegative) (by decide)

end CrownstoneRouter
