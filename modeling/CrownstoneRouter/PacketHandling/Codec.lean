import CrownstoneRouter.PacketHandling.Packets

/-!
# Encoding and loading packets

The encoders write a packet front to back into a buffer, the loaders read the fields of a packet at
fixed offsets and leave its payload where it is. Loaders only log what they find wrong: a `Warning`
is all that a failed CRC or version comparison leaves behind.

Each encoder has one specification: it returns exactly when the payload lies in its buffer and the
packet fits the target, and then the target starts with the documented frame.
-/

namespace CrownstoneRouter

open CheckedMemory LittleEndian

variable (crc16_ccitt : UInt16 → List UInt8 → UInt16)

/-! ## Encoders -/

section Encoders

variable {size target : ℕ}

/-- Wrap a payload into a UART packet; the second component is the length of the packet. -/
def wrapUartPacket (type : UInt8) (payload : Buffer UInt8 size) (payloadLen : ℕ)
    (pktBuf : Buffer UInt8 target) : Checked (Buffer UInt8 target × ℕ) := do
  -- sizeof(cs_router_uart_packet) - sizeof(uint8_t *)
  let uartPktLen := 7 + payloadLen
  let pktBuf ← pktBuf.store 0 [uartStartToken]
  let pktBuf ← pktBuf.store 1 (lengthField (uartPktLen - 3))
  let pktBuf ← pktBuf.store 3 [uartProtocolVersion]
  let pktBuf ← pktBuf.store 4 [type]
  let pktBuf ← pktBuf.memcpy 5 payload 0 payloadLen
  let covered ← pktBuf.load 3 (5 + payloadLen - 3)
  let pktBuf ← pktBuf.store (5 + payloadLen) (putLe16 (crc16_ccitt uartCrcSeed covered))
  return (pktBuf, uartPktLen)

/-- Wrap a payload into a generic packet. -/
def wrapGenericPacket (type : UInt8) (payload : Buffer UInt8 size) (payloadLen : ℕ)
    (pktBuf : Buffer UInt8 target) : Checked (Buffer UInt8 target × ℕ) := do
  let pktBuf ← pktBuf.store 0 [protocolVersion]
  let pktBuf ← pktBuf.store 1 [type]
  let pktBuf ← pktBuf.store 2 (lengthField payloadLen)
  let pktBuf ← pktBuf.memcpy 4 payload 0 payloadLen
  return (pktBuf, 4 + payloadLen)

/-- Wrap a payload into a data packet. -/
def wrapDataPacket (srcId : InstanceId) (payload : Buffer UInt8 size) (payloadLen : ℕ)
    (pktBuf : Buffer UInt8 target) : Checked (Buffer UInt8 target × ℕ) := do
  let pktBuf ← pktBuf.store 0 [srcId]
  let pktBuf ← pktBuf.store 1 (lengthField payloadLen)
  let pktBuf ← pktBuf.memcpy 3 payload 0 payloadLen
  return (pktBuf, 3 + payloadLen)

/-- Wrap a payload into a result packet. -/
def wrapResultPacket (commandType resultCode : UInt8) (requestId : UInt16)
    (payload : Buffer UInt8 size) (payloadLen : ℕ) (pktBuf : Buffer UInt8 target) :
    Checked (Buffer UInt8 target × ℕ) := do
  let pktBuf ← pktBuf.store 0 [commandType]
  let pktBuf ← pktBuf.store 1 [resultCode]
  let pktBuf ← pktBuf.store 2 (putLe16 requestId)
  let pktBuf ← pktBuf.store 4 (lengthField payloadLen)
  let pktBuf ← pktBuf.memcpy 6 payload 0 payloadLen
  return (pktBuf, 6 + payloadLen)

theorem memcpy_overlay (pktBuf : Buffer UInt8 target) (written : List UInt8) {position : ℕ}
    (hposition : position = written.length) (payload : Buffer UInt8 size) (payloadLen : ℕ) :
    (pktBuf.overlay written).memcpy position payload 0 payloadLen =
      if payloadLen ≤ size ∧ written.length + payloadLen ≤ target then
        .ok (pktBuf.overlay (written ++ payload.slice 0 payloadLen))
      else .error .outOfBounds := by
  rw [Buffer.memcpy_eq, Buffer.store_overlay _ _ _ hposition, Nat.zero_add, ← guard_guard]
  refine if_ctx_congr Iff.rfl (fun hsource ↦ ?_) (fun _ ↦ rfl)
  rw [payload.length_slice 0 payloadLen (by omega)]

theorem wrapGenericPacket_eq (type : UInt8) (payload : Buffer UInt8 size) (payloadLen : ℕ)
    (pktBuf : Buffer UInt8 target) :
    wrapGenericPacket type payload payloadLen pktBuf =
      if payloadLen ≤ size ∧ 4 + payloadLen ≤ target then
        .ok (pktBuf.overlay (genericFrame type (payload.slice 0 payloadLen)), 4 + payloadLen)
      else .error .outOfBounds := by
  unfold wrapGenericPacket
  simp only [bind, Buffer.store_zero, bind_guard, Buffer.store_overlay, memcpy_overlay,
    List.length_append, List.length_cons, List.length_nil, length_lengthField, Nat.zero_add,
    Nat.reduceAdd, guard_guard, pure, Except.pure]
  refine if_ctx_congr (by omega) (fun hfits ↦ ?_) (fun _ ↦ rfl)
  simp [genericFrame, payload.length_slice 0 payloadLen (by omega)]

theorem wrapDataPacket_eq (srcId : InstanceId) (payload : Buffer UInt8 size) (payloadLen : ℕ)
    (pktBuf : Buffer UInt8 target) :
    wrapDataPacket srcId payload payloadLen pktBuf =
      if payloadLen ≤ size ∧ 3 + payloadLen ≤ target then
        .ok (pktBuf.overlay (dataFrame srcId (payload.slice 0 payloadLen)), 3 + payloadLen)
      else .error .outOfBounds := by
  unfold wrapDataPacket
  simp only [bind, Buffer.store_zero, bind_guard, Buffer.store_overlay, memcpy_overlay,
    List.length_append, List.length_cons, List.length_nil, length_lengthField, Nat.zero_add,
    Nat.reduceAdd, guard_guard, pure, Except.pure]
  refine if_ctx_congr (by omega) (fun hfits ↦ ?_) (fun _ ↦ rfl)
  simp [dataFrame, payload.length_slice 0 payloadLen (by omega)]

theorem wrapResultPacket_eq (commandType resultCode : UInt8) (requestId : UInt16)
    (payload : Buffer UInt8 size) (payloadLen : ℕ) (pktBuf : Buffer UInt8 target) :
    wrapResultPacket commandType resultCode requestId payload payloadLen pktBuf =
      if payloadLen ≤ size ∧ 6 + payloadLen ≤ target then
        .ok (pktBuf.overlay
          (resultFrame commandType resultCode requestId (payload.slice 0 payloadLen)),
          6 + payloadLen)
      else .error .outOfBounds := by
  unfold wrapResultPacket
  simp only [bind, Buffer.store_zero, bind_guard, Buffer.store_overlay, memcpy_overlay,
    List.length_append, List.length_cons, List.length_nil, length_lengthField, length_putLe16,
    Nat.zero_add, Nat.reduceAdd, guard_guard, pure, Except.pure]
  refine if_ctx_congr (by omega) (fun hfits ↦ ?_) (fun _ ↦ rfl)
  simp [resultFrame, payload.length_slice 0 payloadLen (by omega)]

theorem wrapUartPacket_eq (type : UInt8) (payload : Buffer UInt8 size) (payloadLen : ℕ)
    (pktBuf : Buffer UInt8 target) :
    wrapUartPacket crc16_ccitt type payload payloadLen pktBuf =
      if payloadLen ≤ size ∧ 7 + payloadLen ≤ target then
        .ok (pktBuf.overlay (uartFrame crc16_ccitt type (payload.slice 0 payloadLen)),
          7 + payloadLen)
      else .error .outOfBounds := by
  unfold wrapUartPacket
  simp only [bind, Buffer.store_zero, bind_guard, Buffer.store_overlay, memcpy_overlay,
    List.length_append, List.length_cons, List.length_nil, length_lengthField, Nat.zero_add,
    Nat.reduceAdd, guard_guard, pure, Except.pure]
  by_cases hsource : payloadLen ≤ size
  · have hlength : (payload.slice 0 payloadLen).length = payloadLen :=
      payload.length_slice 0 payloadLen (by omega)
    -- the CRC is computed over what the stores before it have put behind the length field
    have hwritten : [uartStartToken] ++ lengthField (7 + payloadLen - 3) ++ [uartProtocolVersion] ++
          [type] ++ payload.slice 0 payloadLen =
        (uartStartToken :: lengthField (7 + payloadLen - 3)) ++
          uartCovered type (payload.slice 0 payloadLen) := by
      simp [uartCovered]
    have hload := Buffer.load_overlay_append pktBuf
      (uartStartToken :: lengthField (7 + payloadLen - 3))
      (uartCovered type (payload.slice 0 payloadLen)) (show 3 = _ from rfl)
      (show 5 + payloadLen - 3 = _ by rw [length_uartCovered, hlength]; omega)
    have hstore (crc : List UInt8) := Buffer.store_overlay pktBuf
      (uartStartToken :: lengthField (7 + payloadLen - 3) ++
        uartCovered type (payload.slice 0 payloadLen)) crc
      (show 5 + payloadLen = _ by simp [hlength]; omega)
    simp only [hwritten, hload, hstore, bind_guard, guard_guard, List.length_append,
      List.length_cons, length_lengthField, length_putLe16, length_uartCovered, hlength]
    refine if_ctx_congr (by omega) (fun hfits ↦ ?_) (fun _ ↦ rfl)
    rw [uartFrame, hlength, show 7 + payloadLen - 3 = payloadLen + 4 by omega]
  · rw [if_neg (by omega), if_neg (by omega)]

end Encoders

/-! ## Loaders -/

/-- What a loader logs about a packet that it nevertheless loads. -/
inductive Warning
  | crcMismatch (calculated received : UInt16)
  | protocolMismatch (firmware provided : UInt8)
  deriving DecidableEq

/-- `int` to `size_t` on the 32-bit target. -/
def sizeOfInt (value : ℤ) : ℕ :=
  (value % 2 ^ 32).toNat

section Loaders

variable {size : ℕ}

def byteAt (buffer : Buffer UInt8 size) (position : ℕ) : UInt8 :=
  buffer.cells.getD position 0

def le16At (buffer : Buffer UInt8 size) (position : ℕ) : UInt16 :=
  getLe16 (byteAt buffer position) (byteAt buffer (position + 1))

def loadByte (buffer : Buffer UInt8 size) (position : ℕ) : Checked UInt8 :=
  if position < size then .ok (byteAt buffer position) else .error .outOfBounds

/-- `sys_get_le16` -/
def loadLe16 (buffer : Buffer UInt8 size) (position : ℕ) : Checked UInt16 :=
  if position + 2 ≤ size then .ok (le16At buffer position) else .error .outOfBounds

/-- Load a UART packet from the start of a buffer. A CRC that does not match is logged. -/
def loadUartPacket (buffer : Buffer UInt8 size) : Checked (UartPacket × Option Warning) := do
  let startToken ← loadByte buffer 0
  let length ← loadLe16 buffer 1
  let protocolVersion ← loadByte buffer 3
  let type ← loadByte buffer 4
  -- minus protocol version, type and CRC; both differences are taken in `int`
  let payloadLen : ℤ := (length.toNat : ℤ) - 4
  let pktCtr : ℤ := 5 + payloadLen
  let covered ← buffer.load 3 (sizeOfInt ((length.toNat : ℤ) - 2))
  let checkCrc := crc16_ccitt uartCrcSeed covered
  let receivedCrc ← loadLe16 buffer pktCtr.toNat
  return ({ startToken, length, protocolVersion, type, payload := 5 },
    if checkCrc ≠ receivedCrc then some (.crcMismatch checkCrc receivedCrc) else none)

/-- Load a generic packet. A protocol version that does not match is logged. -/
def loadGenericPacket (buffer : Buffer UInt8 size) (start : ℕ) :
    Checked (GenericPacket × Option Warning) := do
  let version ← loadByte buffer start
  let type ← loadByte buffer (start + 1)
  let length ← loadLe16 buffer (start + 2)
  return ({ protocolVersion := version, type, length, payload := start + 4 },
    if version ≠ protocolVersion then some (.protocolMismatch protocolVersion version) else none)

/-- Load a control packet. -/
def loadControlPacket (buffer : Buffer UInt8 size) (start : ℕ) : Checked ControlPacket := do
  let commandType ← loadByte buffer start
  let srcId ← loadByte buffer (start + 1)
  let destId ← loadByte buffer (start + 2)
  let requestId ← loadLe16 buffer (start + 3)
  let length ← loadLe16 buffer (start + 5)
  return { commandType, srcId, destId, requestId, length, payload := start + 7 }

/-- The UART header at the start of a buffer. -/
def uartHeader (buffer : Buffer UInt8 size) : UartPacket where
  startToken := byteAt buffer 0
  length := le16At buffer 1
  protocolVersion := byteAt buffer 3
  type := byteAt buffer 4
  payload := 5

/-- The generic header at a position of a buffer. -/
def genericHeader (buffer : Buffer UInt8 size) (start : ℕ) : GenericPacket where
  protocolVersion := byteAt buffer start
  type := byteAt buffer (start + 1)
  length := le16At buffer (start + 2)
  payload := start + 4

/-- The control header at a position of a buffer. -/
def controlHeader (buffer : Buffer UInt8 size) (start : ℕ) : ControlPacket where
  commandType := byteAt buffer start
  srcId := byteAt buffer (start + 1)
  destId := byteAt buffer (start + 2)
  requestId := le16At buffer (start + 3)
  length := le16At buffer (start + 5)
  payload := start + 7

/-- The CRC that the sender of a UART packet should have computed. -/
def calculatedCrc (buffer : Buffer UInt8 size) : UInt16 :=
  crc16_ccitt uartCrcSeed (buffer.slice 3 ((le16At buffer 1).toNat - 2))

/-- The CRC field of a UART packet. -/
def receivedCrc (buffer : Buffer UInt8 size) : UInt16 :=
  le16At buffer ((le16At buffer 1).toNat + 1)

/-- The length field of a UART packet leaves room for a CRC field, and the packet ends inside the
buffer. -/
def UartLengthInside (buffer : Buffer UInt8 size) : Prop :=
  2 ≤ (le16At buffer 1).toNat ∧ (le16At buffer 1).toNat + 3 ≤ size

instance (buffer : Buffer UInt8 size) : Decidable (UartLengthInside buffer) :=
  inferInstanceAs (Decidable (_ ∧ _))

theorem loadGenericPacket_eq (buffer : Buffer UInt8 size) (start : ℕ) (h : start + 4 ≤ size) :
    loadGenericPacket buffer start = .ok (genericHeader buffer start,
      if byteAt buffer start ≠ protocolVersion then
        some (.protocolMismatch protocolVersion (byteAt buffer start)) else none) := by
  simp [loadGenericPacket, loadByte, loadLe16, genericHeader, bind, pure, Except.pure,
    show start < size by omega, show start + 1 < size by omega, show start + 2 + 2 ≤ size by omega]

theorem loadControlPacket_eq (buffer : Buffer UInt8 size) (start : ℕ) (h : start + 7 ≤ size) :
    loadControlPacket buffer start = .ok (controlHeader buffer start) := by
  simp [loadControlPacket, loadByte, loadLe16, controlHeader, bind, pure, Except.pure,
    show start < size by omega, show start + 1 < size by omega, show start + 2 < size by omega,
    show start + 3 + 2 ≤ size by omega, show start + 5 + 2 ≤ size by omega]

theorem sizeOfInt_sub_two (length : UInt16) :
    sizeOfInt ((length.toNat : ℤ) - 2) =
      if 2 ≤ length.toNat then length.toNat - 2 else 2 ^ 32 - 2 + length.toNat := by
  have hlength : length.toNat < 2 ^ 16 := length.toNat_lt
  unfold sizeOfInt
  split_ifs <;> omega

/-- A UART packet whose declared length keeps the accesses of its loader in the buffer is loaded. -/
theorem loadUartPacket_of_inside (buffer : Buffer UInt8 size) (h : UartLengthInside buffer) :
    loadUartPacket crc16_ccitt buffer = .ok (uartHeader buffer,
      if calculatedCrc crc16_ccitt buffer ≠ receivedCrc buffer then
        some (.crcMismatch (calculatedCrc crc16_ccitt buffer) (receivedCrc buffer)) else none) := by
  obtain ⟨hlength, hend⟩ := h
  have hctr : (5 + (((le16At buffer 1).toNat : ℤ) - 4)).toNat = (le16At buffer 1).toNat + 1 := by
    omega
  simp only [loadUartPacket, loadByte, loadLe16, bind, pure, Except.pure, Buffer.load, bind_guard,
    guard_guard, hctr, sizeOfInt_sub_two, if_pos hlength]
  exact if_pos (by omega)

/-- The UART loader returns exactly when the declared length keeps its accesses in the buffer. -/
theorem loadUartPacket_eq (buffer : Buffer UInt8 size) (h : 5 ≤ size) (hsize : size < 2 ^ 31) :
    loadUartPacket crc16_ccitt buffer =
      if UartLengthInside buffer then
        .ok (uartHeader buffer,
          if calculatedCrc crc16_ccitt buffer ≠ receivedCrc buffer then
            some (.crcMismatch (calculatedCrc crc16_ccitt buffer) (receivedCrc buffer)) else none)
      else .error .outOfBounds := by
  by_cases hinside : UartLengthInside buffer
  · rw [if_pos hinside, loadUartPacket_of_inside crc16_ccitt buffer hinside]
  · have hctr : (5 + (((le16At buffer 1).toNat : ℤ) - 4)).toNat = (le16At buffer 1).toNat + 1 := by
      omega
    rw [if_neg hinside]
    simp only [loadUartPacket, loadByte, loadLe16, bind, pure, Except.pure, Buffer.load, bind_guard,
      guard_guard, hctr, sizeOfInt_sub_two]
    rw [UartLengthInside] at hinside
    rw [if_neg]
    split_ifs <;> omega

end Loaders

/-! ## Fields of a written packet -/

section Fields

variable {size : ℕ} (buffer : Buffer UInt8 size)

theorem byteAt_overlay {before written : List UInt8} (index : ℕ) (hindex : index < written.length)
    (hfits : (before ++ written).length ≤ size) :
    byteAt (buffer.overlay (before ++ written)) (before.length + index) = written.getD index 0 := by
  rw [byteAt, Buffer.cells_overlay _ hfits, List.append_assoc,
    List.getD_append_right _ _ _ _ (Nat.le_add_right _ _), Nat.add_sub_cancel_left,
    List.getD_append _ _ _ _ hindex]

theorem le16At_overlay {before written : List UInt8} (index : ℕ) (value : UInt16)
    (hindex : index + 1 < written.length) (hfits : (before ++ written).length ≤ size)
    (hvalue : [written.getD index 0, written.getD (index + 1) 0] = putLe16 value) :
    le16At (buffer.overlay (before ++ written)) (before.length + index) = value := by
  obtain ⟨hlow, hhigh⟩ : written.getD index 0 = value.toUInt8 ∧
      written.getD (index + 1) 0 = (value >>> 8).toUInt8 := by
    simpa [putLe16] using hvalue
  rw [le16At, byteAt_overlay buffer index (Nat.lt_of_succ_lt hindex) hfits, Nat.add_assoc,
    byteAt_overlay buffer (index + 1) hindex hfits, hlow, hhigh, getLe16_putLe16]

theorem slice_overlay_append (before part after : List UInt8)
    (hfits : (before ++ (part ++ after)).length ≤ size) :
    (buffer.overlay (before ++ (part ++ after))).slice before.length part.length = part := by
  rw [Buffer.slice, Buffer.cells_overlay _ hfits]
  simp

/-- The header of a generic packet that has been written behind a prefix. -/
theorem genericHeader_overlay (before after : List UInt8) (type : UInt8) (payload : List UInt8)
    (hfits : (before ++ (genericFrame type payload ++ after)).length ≤ size) :
    genericHeader (buffer.overlay (before ++ (genericFrame type payload ++ after))) before.length =
      { protocolVersion := protocolVersion
        type := type
        length := UInt16.ofNat payload.length
        payload := before.length + 4 } := by
  have hlength : 4 ≤ (genericFrame type payload ++ after).length := by
    simp only [List.length_append, length_genericFrame]
    omega
  have hversion := byteAt_overlay buffer 0 (by omega) hfits
  have htype := byteAt_overlay buffer 1 (by omega) hfits
  have hfield := le16At_overlay buffer 2 (UInt16.ofNat payload.length) (by omega) hfits rfl
  rw [Nat.add_zero] at hversion
  rw [genericHeader, hversion, htype, hfield]
  rfl

/-- The header of a control packet that has been written behind a prefix. -/
theorem controlHeader_overlay (before after : List UInt8) (commandType : UInt8)
    (srcId destId : InstanceId) (requestId : UInt16) (payload : List UInt8)
    (hfits : (before ++ (controlFrame commandType srcId destId requestId payload ++ after)).length ≤
      size) :
    controlHeader (buffer.overlay (before ++
        (controlFrame commandType srcId destId requestId payload ++ after))) before.length =
      { commandType, srcId, destId, requestId
        length := UInt16.ofNat payload.length
        payload := before.length + 7 } := by
  have hlength : 7 ≤
      (controlFrame commandType srcId destId requestId payload ++ after).length := by
    simp only [List.length_append, length_controlFrame]
    omega
  have hcommand := byteAt_overlay buffer 0 (by omega) hfits
  have hsource := byteAt_overlay buffer 1 (by omega) hfits
  have hdest := byteAt_overlay buffer 2 (by omega) hfits
  have hrequest := le16At_overlay buffer 3 requestId (by omega) hfits rfl
  have hfield := le16At_overlay buffer 5 (UInt16.ofNat payload.length) (by omega) hfits rfl
  rw [Nat.add_zero] at hcommand
  rw [controlHeader, hcommand, hsource, hdest, hrequest, hfield]
  rfl

end Fields

end CrownstoneRouter
