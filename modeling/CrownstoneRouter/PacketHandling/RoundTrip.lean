import CrownstoneRouter.PacketHandling.Codec

/-!
# Wrapping and loading packets

The encoders and the loaders of UART and generic packets compute lengths and offsets each in their
own way. They are compared here over the documented frames, for every CRC function, every payload
that the 16-bit length fields can announce and every buffer with room for the packets: a wrapped
payload is loaded again, and a valid UART frame is what wrapping its loaded payload gives.
-/

namespace CrownstoneRouter

open CheckedMemory LittleEndian

variable (crc16_ccitt : UInt16 → List UInt8 → UInt16)

/-- The longest payload that a UART frame can announce. -/
abbrev uartPayloadMaxLen : ℕ := 65531

/-- The longest payload of a generic packet in a UART frame. -/
abbrev genericPayloadMaxLen : ℕ := 65527

/-! ## Frames in a buffer -/

section Frames

variable {size : ℕ} (buffer : Buffer UInt8 size) (type : UInt8) (payload : List UInt8)

theorem slice_uartFrame (hfits : (uartFrame crc16_ccitt type payload).length ≤ size) :
    (buffer.overlay (uartFrame crc16_ccitt type payload)).slice 5 payload.length = payload := by
  have hframe : uartFrame crc16_ccitt type payload =
      (uartStartToken :: lengthField (payload.length + 4) ++ [uartProtocolVersion, type]) ++
        (payload ++ putLe16 (crc16_ccitt uartCrcSeed (uartCovered type payload))) := by
    simp [uartFrame, uartCovered]
  rw [hframe] at hfits ⊢
  exact slice_overlay_append buffer _ payload _ hfits

/-- The header of a UART frame that has been written to the start of a buffer. -/
theorem uartHeader_uartFrame (hfits : (uartFrame crc16_ccitt type payload).length ≤ size) :
    uartHeader (buffer.overlay (uartFrame crc16_ccitt type payload)) =
      { startToken := uartStartToken
        length := UInt16.ofNat (payload.length + 4)
        protocolVersion := uartProtocolVersion
        type := type
        payload := 5 } := by
  have hlength : 5 ≤ (uartFrame crc16_ccitt type payload).length := by
    rw [length_uartFrame]
    omega
  have hfront : ([] ++ uartFrame crc16_ccitt type payload).length ≤ size := hfits
  have htoken := byteAt_overlay buffer 0 (by omega) hfront
  have hfield := le16At_overlay buffer 1 (UInt16.ofNat (payload.length + 4)) (by omega) hfront rfl
  have hversion := byteAt_overlay buffer 3 (by omega) hfront
  have htype := byteAt_overlay buffer 4 (by omega) hfront
  simp only [List.nil_append, List.length_nil, Nat.zero_add] at htoken hfield hversion htype
  rw [uartHeader, htoken, hfield, hversion, htype]
  rfl

/-- A UART frame that has been written to the start of a buffer is loaded with a CRC that
matches. -/
theorem loadUartPacket_uartFrame (hlen : payload.length ≤ uartPayloadMaxLen)
    (hfits : (uartFrame crc16_ccitt type payload).length ≤ size) :
    loadUartPacket crc16_ccitt (buffer.overlay (uartFrame crc16_ccitt type payload)) =
      .ok ({ startToken := uartStartToken
             length := UInt16.ofNat (payload.length + 4)
             protocolVersion := uartProtocolVersion
             type := type
             payload := 5 }, none) := by
  have hheader := uartHeader_uartFrame crc16_ccitt buffer type payload hfits
  have hfield : (le16At (buffer.overlay (uartFrame crc16_ccitt type payload)) 1).toNat =
      payload.length + 4 := by
    rw [show le16At _ 1 = _ from congrArg UartPacket.length hheader]
    have hmax : payload.length ≤ 65531 := hlen
    exact UInt16.toNat_ofNat_of_lt' (show payload.length + 4 < 2 ^ 16 by omega)
  have hinside : UartLengthInside (buffer.overlay (uartFrame crc16_ccitt type payload)) := by
    rw [length_uartFrame] at hfits
    rw [UartLengthInside, hfield]
    omega
  have hcalculated :
      calculatedCrc crc16_ccitt (buffer.overlay (uartFrame crc16_ccitt type payload)) =
        crc16_ccitt uartCrcSeed (uartCovered type payload) := by
    have hslice := slice_overlay_append buffer
      (uartStartToken :: lengthField (payload.length + 4)) (uartCovered type payload)
      (putLe16 (crc16_ccitt uartCrcSeed (uartCovered type payload)))
      (by rwa [← List.append_assoc])
    rw [← List.append_assoc, length_uartCovered] at hslice
    rw [calculatedCrc, hfield, show payload.length + 4 - 2 = 2 + payload.length by omega]
    exact congrArg _ hslice
  have hreceived : receivedCrc (buffer.overlay (uartFrame crc16_ccitt type payload)) =
      crc16_ccitt uartCrcSeed (uartCovered type payload) := by
    have hcrc := le16At_overlay buffer 0 (crc16_ccitt uartCrcSeed (uartCovered type payload))
      (show 0 + 1 < (putLe16 _).length from Nat.one_lt_two) hfits rfl
    have hposition : payload.length + 4 + 1 = (uartStartToken :: lengthField (payload.length + 4) ++
        uartCovered type payload).length + 0 := by
      simp
      omega
    rw [receivedCrc, hfield, hposition]
    exact hcrc
  rw [loadUartPacket_of_inside crc16_ccitt _ hinside, hheader, hcalculated, hreceived]
  simp

end Frames

/-! ## Valid frames -/

/-- A byte string with all fields of a UART frame: start token and protocol version as documented, a
length field that announces the rest, and a CRC that matches. -/
def ValidUartFrame (frame : List UInt8) : Prop :=
  7 ≤ frame.length ∧ frame.getD 0 0 = uartStartToken ∧ frame.getD 3 0 = uartProtocolVersion ∧
    (getLe16 (frame.getD 1 0) (frame.getD 2 0)).toNat = frame.length - 3 ∧
    getLe16 (frame.getD (frame.length - 2) 0) (frame.getD (frame.length - 1) 0) =
      crc16_ccitt uartCrcSeed ((frame.drop 3).take (frame.length - 5))

instance (frame : List UInt8) : Decidable (ValidUartFrame crc16_ccitt frame) :=
  inferInstanceAs (Decidable (_ ∧ _ ∧ _ ∧ _ ∧ _))

/-- A byte string that is long enough for the fields of a UART frame, cut into these fields. -/
theorem exists_fields {frame : List UInt8} (h : 7 ≤ frame.length) :
    ∃ token low high version type payload crcLow crcHigh, frame =
      token :: low :: high :: version :: type :: (payload ++ [crcLow, crcHigh]) := by
  obtain ⟨token, low, high, version, type, rest, rfl⟩ : ∃ token low high version type rest,
      frame = token :: low :: high :: version :: type :: rest := by
    match frame, h with
    | token :: low :: high :: version :: type :: rest, _ =>
      exact ⟨token, low, high, version, type, rest, rfl⟩
  have hrest : 2 ≤ rest.reverse.length := by
    simp only [List.length_cons] at h
    rw [List.length_reverse]
    omega
  obtain ⟨crcHigh, crcLow, front, hreverse⟩ : ∃ crcHigh crcLow front,
      rest.reverse = crcHigh :: crcLow :: front := by
    match rest.reverse, hrest with
    | crcHigh :: crcLow :: front, _ => exact ⟨crcHigh, crcLow, front, rfl⟩
  refine ⟨token, low, high, version, type, front.reverse, crcLow, crcHigh, ?_⟩
  have hsplit : rest = front.reverse ++ [crcLow, crcHigh] := by
    rw [← List.reverse_reverse rest, hreverse]
    simp
  rw [hsplit]

/-- The valid UART frames are the documented ones. -/
theorem eq_uartFrame_of_valid {frame : List UInt8} (h : ValidUartFrame crc16_ccitt frame) :
    ∃ type payload, payload.length ≤ uartPayloadMaxLen ∧
      frame = uartFrame crc16_ccitt type payload := by
  obtain ⟨hlength, htoken, hversion, hfield, hcrc⟩ := h
  obtain ⟨token, low, high, version, type, payload, crcLow, crcHigh, rfl⟩ := exists_fields hlength
  obtain rfl : token = uartStartToken := htoken
  obtain rfl : version = uartProtocolVersion := hversion
  have htotal : (uartStartToken :: low :: high :: uartProtocolVersion :: type ::
      (payload ++ [crcLow, crcHigh])).length = payload.length + 7 := by
    simp
  rw [htotal] at hfield hcrc
  have hannounced : (getLe16 low high).toNat = payload.length + 4 := hfield
  have hmax : (getLe16 low high).toNat < 2 ^ 16 := (getLe16 low high).toNat_lt
  have hlengthField : [low, high] = lengthField (payload.length + 4) := by
    rw [← hannounced, lengthField, UInt16.ofNat_toNat, putLe16_getLe16]
  -- the CRC covers everything between the length field and itself
  have hcovered : getLe16 crcLow crcHigh =
      crc16_ccitt uartCrcSeed (uartCovered type payload) := by
    simpa [uartCovered] using hcrc
  refine ⟨type, payload, show payload.length ≤ 65531 by omega, ?_⟩
  calc
    _ = uartStartToken :: [low, high] ++ uartCovered type payload ++ [crcLow, crcHigh] := by
      simp [uartCovered]
    _ = uartFrame crc16_ccitt type payload := by
      rw [hlengthField, ← putLe16_getLe16, hcovered]
      rfl

/-! ## Both directions -/

/-- What the loaders find in a buffer is the payload of a generic packet in a UART packet, with the
types and the protocol versions that it has been wrapped with and no complaint about its CRC. -/
def LoadsPayload {size : ℕ} (framed : Buffer UInt8 size) (uartType genericType : UInt8)
    (payload : List UInt8) : Prop :=
  ∃ uartPkt genericPkt, loadUartPacket crc16_ccitt framed = .ok (uartPkt, none) ∧
    loadGenericPacket framed uartPkt.payload = .ok (genericPkt, none) ∧
    uartPkt.type = uartType ∧ uartPkt.protocolVersion = uartProtocolVersion ∧
    genericPkt.type = genericType ∧ genericPkt.protocolVersion = protocolVersion ∧
    genericPkt.length.toNat = payload.length ∧
    framed.slice genericPkt.payload payload.length = payload

/-- Wrapping the type and the payload that the UART loader finds in a buffer gives this frame. -/
def RewrapsTo {size targetSize : ℕ} (buffer : Buffer UInt8 size) (target : Buffer UInt8 targetSize)
    (frame : List UInt8) : Prop :=
  ∃ uartPkt written, loadUartPacket crc16_ccitt buffer = .ok (uartPkt, none) ∧
    wrapUartPacket crc16_ccitt uartPkt.type
        ⟨buffer.slice uartPkt.payload (uartPkt.length.toNat - 4), rfl⟩ (uartPkt.length.toNat - 4)
        target = .ok (written, frame.length) ∧
    written.slice 0 frame.length = frame

/-- A generic packet in a UART packet is loaded again. -/
theorem loadsPayload_uartFrame {size : ℕ} (buffer : Buffer UInt8 size)
    (uartType genericType : UInt8) {payload : List UInt8}
    (hlen : payload.length ≤ genericPayloadMaxLen) (hroom : 11 + payload.length ≤ size) :
    LoadsPayload crc16_ccitt
      (buffer.overlay (uartFrame crc16_ccitt uartType (genericFrame genericType payload)))
      uartType genericType payload := by
  have hmax : payload.length ≤ 65527 := hlen
  have hinner : (genericFrame genericType payload).length ≤ uartPayloadMaxLen := by
    rw [length_genericFrame]
    exact show 4 + payload.length ≤ 65531 by omega
  have hfits :
      (uartFrame crc16_ccitt uartType (genericFrame genericType payload)).length ≤ size := by
    rw [length_uartFrame, length_genericFrame]
    omega
  -- the frame, cut in front of the generic packet and in front of its payload
  have hgeneric : uartFrame crc16_ccitt uartType (genericFrame genericType payload) =
      (uartStartToken :: lengthField ((genericFrame genericType payload).length + 4) ++
        [uartProtocolVersion, uartType]) ++ (genericFrame genericType payload ++
        putLe16 (crc16_ccitt uartCrcSeed
          (uartCovered uartType (genericFrame genericType payload)))) := by
    simp [uartFrame, uartCovered]
  have hpayload : uartFrame crc16_ccitt uartType (genericFrame genericType payload) =
      (uartStartToken :: lengthField ((genericFrame genericType payload).length + 4) ++
        [uartProtocolVersion, uartType, protocolVersion, genericType] ++
        lengthField payload.length) ++ (payload ++ putLe16 (crc16_ccitt uartCrcSeed
          (uartCovered uartType (genericFrame genericType payload)))) := by
    simp [uartFrame, uartCovered, genericFrame]
  have hheader := genericHeader_overlay buffer _ _ genericType payload (hgeneric ▸ hfits)
  have hslice := slice_overlay_append buffer _ payload _ (hpayload ▸ hfits)
  rw [← hgeneric] at hheader
  rw [← hpayload] at hslice
  have hload := loadGenericPacket_eq
    (buffer.overlay (uartFrame crc16_ccitt uartType (genericFrame genericType payload))) 5
    (by omega)
  have hversion : byteAt
      (buffer.overlay (uartFrame crc16_ccitt uartType (genericFrame genericType payload))) 5 =
      protocolVersion :=
    congrArg GenericPacket.protocolVersion hheader
  rw [if_neg (not_not.mpr hversion)] at hload
  refine ⟨_, _, loadUartPacket_uartFrame crc16_ccitt buffer uartType _ hinner hfits, hload, rfl,
    rfl, congrArg GenericPacket.type hheader, hversion, ?_, hslice⟩
  rw [show (genericHeader _ 5).length = _ from congrArg GenericPacket.length hheader]
  exact UInt16.toNat_ofNat_of_lt' (show payload.length < 2 ^ 16 by omega)

/-- A valid frame at the start of a buffer is wrapped again. -/
theorem rewrapsTo_of_valid {size targetSize : ℕ} {buffer : Buffer UInt8 size}
    {frame : List UInt8} (hvalid : ValidUartFrame crc16_ccitt frame)
    (hreceived : buffer.slice 0 frame.length = frame) (target : Buffer UInt8 targetSize)
    (hroom : frame.length ≤ targetSize) : RewrapsTo crc16_ccitt buffer target frame := by
  obtain ⟨type, payload, hlen, rfl⟩ := eq_uartFrame_of_valid crc16_ccitt hvalid
  have hmax : payload.length ≤ 65531 := hlen
  have hfits : (uartFrame crc16_ccitt type payload).length ≤ size := by
    have hlength := congrArg List.length hreceived
    rw [Buffer.slice, List.length_take, List.length_drop, Buffer.length_cells] at hlength
    omega
  have hbuffer := buffer.overlay_slice hfits
  rw [hreceived] at hbuffer
  have hload := loadUartPacket_uartFrame crc16_ccitt buffer type payload hlen hfits
  have hslice := slice_uartFrame crc16_ccitt buffer type payload hfits
  rw [hbuffer] at hload hslice
  have hcount : (UInt16.ofNat (payload.length + 4)).toNat - 4 = payload.length := by
    rw [UInt16.toNat_ofNat_of_lt' (show payload.length + 4 < 2 ^ 16 by omega)]
    omega
  have hwrap (bytes : List UInt8) (count : ℕ) (hbytes : bytes = payload)
      (hbytesLength : count = payload.length) :
      wrapUartPacket crc16_ccitt type (⟨bytes, rfl⟩ : Buffer UInt8 bytes.length) count target =
        .ok (target.overlay (uartFrame crc16_ccitt type payload),
          (uartFrame crc16_ccitt type payload).length) := by
    subst hbytes hbytesLength
    have hwhole : (⟨bytes, rfl⟩ : Buffer UInt8 bytes.length).slice 0 bytes.length = bytes :=
      Buffer.slice_all _
    rw [length_uartFrame] at hroom ⊢
    rw [wrapUartPacket_eq, hwhole, if_pos ⟨le_rfl, hroom⟩]
  exact ⟨_, _, hload, hwrap _ _ (by rw [hcount, hslice]) hcount, target.slice_overlay hroom⟩

/-- The codecs are inverse to each other: a payload that is wrapped into a generic packet and then
into a UART packet is loaded again, and wrapping what the UART loader finds in a valid frame gives
this frame. -/
theorem codecs_inverse :
    (∀ {size genericSize uartSize : ℕ} (uartType genericType : UInt8) (payload : Buffer UInt8 size)
      (payloadLen : ℕ) (genericBuf : Buffer UInt8 genericSize) (uartBuf : Buffer UInt8 uartSize),
      payloadLen ≤ size → payloadLen ≤ genericPayloadMaxLen → 4 + payloadLen ≤ genericSize →
      11 + payloadLen ≤ uartSize →
      ∃ generic framed,
        wrapGenericPacket genericType payload payloadLen genericBuf =
          .ok (generic, 4 + payloadLen) ∧
        wrapUartPacket crc16_ccitt uartType generic (4 + payloadLen) uartBuf =
          .ok (framed, 11 + payloadLen) ∧
        LoadsPayload crc16_ccitt framed uartType genericType (payload.slice 0 payloadLen)) ∧
    (∀ {size targetSize : ℕ} (frame : List UInt8) (buffer : Buffer UInt8 size)
      (target : Buffer UInt8 targetSize), ValidUartFrame crc16_ccitt frame →
      buffer.slice 0 frame.length = frame → frame.length ≤ targetSize →
      RewrapsTo crc16_ccitt buffer target frame) := by
  constructor
  · intro size genericSize uartSize uartType genericType payload payloadLen genericBuf uartBuf
      hsource hlen hgeneric huart
    have hlength := payload.length_slice 0 payloadLen (by omega)
    have hinner :
        (genericFrame genericType (payload.slice 0 payloadLen)).length = 4 + payloadLen := by
      rw [length_genericFrame, hlength]
    have hwrapped := wrapGenericPacket_eq genericType payload payloadLen genericBuf
    have hslice := genericBuf.slice_overlay (hinner.trans_le hgeneric)
    have hframed := wrapUartPacket_eq crc16_ccitt uartType
      (genericBuf.overlay (genericFrame genericType (payload.slice 0 payloadLen))) (4 + payloadLen)
      uartBuf
    rw [hinner] at hslice
    rw [if_pos ⟨hsource, hgeneric⟩] at hwrapped
    rw [if_pos ⟨hgeneric, by omega⟩, hslice, show 7 + (4 + payloadLen) = 11 + payloadLen by omega]
      at hframed
    refine ⟨_, _, hwrapped, hframed, ?_⟩
    exact loadsPayload_uartFrame crc16_ccitt uartBuf uartType genericType (by rwa [hlength])
      (by rwa [hlength])
  · intro size targetSize frame buffer target hvalid hreceived hroom
    exact rewrapsTo_of_valid crc16_ccitt hvalid hreceived target hroom

/-- A payload of two bytes, and the frame of a generic packet with this payload. -/
theorem codecs_inverse_of_two_bytes :
    (∃ generic framed,
      wrapGenericPacket genericTypeData (PacketBuffer.ofBytes [7, 8]).buf 2 PacketBuffer.zero.buf =
        .ok (generic, 6) ∧
      wrapUartPacket zephyrCrc16Ccitt uartTypeGeneric generic 6 PacketBuffer.zero.buf =
        .ok (framed, 13) ∧
      LoadsPayload zephyrCrc16Ccitt framed uartTypeGeneric genericTypeData
        ((PacketBuffer.ofBytes [7, 8]).buf.slice 0 2)) ∧
    RewrapsTo zephyrCrc16Ccitt
      (PacketBuffer.ofBytes (uartFrame zephyrCrc16Ccitt uartTypeGeneric
        (genericFrame genericTypeData [7, 8]))).buf PacketBuffer.zero.buf
      (uartFrame zephyrCrc16Ccitt uartTypeGeneric (genericFrame genericTypeData [7, 8])) := by
  constructor
  · exact (codecs_inverse zephyrCrc16Ccitt).1 uartTypeGeneric genericTypeData _ 2 _ _ (by decide)
      (by decide) (by decide) (by decide)
  · exact (codecs_inverse zephyrCrc16Ccitt).2 _ _ _ (by decide +kernel) (by decide +kernel)
      (by decide)

end CrownstoneRouter
