import CrownstoneRouter.PacketHandling.Delivery

/-!
# Packets end to end

What the nested packets look like when they have passed through `handleIncomingPacket` and
`handleOutgoingPacket`. Up to three layers are wrapped around outgoing data in one buffer of the
size of the data itself, so that the headers decide whether they fit; outgoing data that fits is
dispatched as the documented packet, and a control packet is dispatched in the same way whether it
comes bare from the cloud or in a UART frame from the CM4.

`Dispatched` lists everything that the dispatch of a packet changes and keeps.
-/

namespace CrownstoneRouter

open CheckedMemory LittleEndian

variable (crc16_ccitt : UInt16 → List UInt8 → UInt16)

/-! ## The effect of a dispatch -/

/-- One handler has got a packet and has been submitted, and some requests are pending now; nothing
else has changed. -/
structure Dispatched (sys next : System) (slot : Slot) (packet : List UInt8)
    (pending : Slot → PacketResult) : Prop where
  cells : (next.handler slot).msg.buf.cells =
    packet ++ (sys.handler slot).msg.buf.cells.drop packet.length
  bufLen : (next.handler slot).msg.bufLen.toNat = packet.length
  target : next.handler slot =
    { sys.handler slot with
      workItem := { (sys.handler slot).workItem with queued := true }
      msg := (next.handler slot).msg
      result := pending slot }
  others : ∀ other, other ≠ slot →
    next.handler other = { sys.handler other with result := pending other }
  registry : next.pkth = { sys.pkth with handlers := next.pkth.handlers }
  submitted : next.trace = sys.trace ++ [.submit slot packet]
  workq : next.workq =
    if (sys.handler slot).workItem.queued then sys.workq else sys.workq ++ [slot]

theorem System.registry_deliver (sys : System) (slot : Slot) (change : Handler → Handler) :
    (sys.deliver slot change).pkth =
      { sys.pkth with handlers := (sys.deliver slot change).pkth.handlers } := by
  unfold deliver kWorkSubmit
  split_ifs <;> rfl

/-- Delivering a packet that fits, with a request that is pending from then on. -/
theorem dispatched_deliver (sys : System) (slot : Slot) (change : Handler → Handler)
    {packet : List UInt8} {result : PacketResult} (hfits : packet.length ≤ packetBufSize)
    (hchange : change (sys.handler slot) =
      { sys.handler slot with
        msg :=
          { buf := (sys.handler slot).msg.buf.overlay packet
            bufLen := UInt16.ofNat packet.length }
        result := result }) :
    Dispatched sys (sys.deliver slot change) slot packet fun other ↦
      if other = slot then result else (sys.handler other).result := by
  have hbufLen : (UInt16.ofNat packet.length).toNat = packet.length :=
    UInt16.toNat_ofNat_of_lt' (hfits.trans_lt (by decide))
  have htarget := sys.handler_deliver slot slot change
  rw [if_pos rfl, hchange] at htarget
  constructor
  case cells => rw [htarget, Buffer.cells_overlay _ hfits]
  case bufLen => rw [htarget, hbufLen]
  case target => rw [htarget, if_pos rfl]
  case others =>
    intro other hother
    rw [System.handler_deliver, if_neg hother, if_neg hother]
  case registry => exact sys.registry_deliver slot change
  case submitted =>
    have hslice := (sys.handler slot).msg.buf.slice_overlay hfits
    rw [System.trace_deliver, hchange, PacketBuffer.contents, hbufLen, hslice]
  case workq =>
    rw [System.deliver, System.workq_kWorkSubmit, System.handler_modify_self, hchange,
      System.workq_modify]

/-- A dispatch after a request has been marked as answered. -/
theorem Dispatched.of_answered {sys next : System} {source slot : Slot} {packet : List UInt8}
    {pending : Slot → PacketResult}
    (h : Dispatched (sys.modify source Handler.answered) next slot packet pending) :
    Dispatched sys next slot packet pending := by
  have hanswered (other : Slot) : (sys.modify source Handler.answered).handler other =
      { sys.handler other with
        result := ((sys.modify source Handler.answered).handler other).result } := by
    rw [System.handler_modify]
    split_ifs with hother
    · rw [hother]
      rfl
    · rfl
  have hmsg (other : Slot) : ((sys.modify source Handler.answered).handler other).msg =
      (sys.handler other).msg := by
    rw [hanswered]
  have hwork (other : Slot) : ((sys.modify source Handler.answered).handler other).workItem =
      (sys.handler other).workItem := by
    rw [hanswered]
  constructor
  case cells => rw [h.cells, hmsg]
  case bufLen => exact h.bufLen
  case target =>
    calc
      next.handler slot = _ := h.target
      _ = _ := by rw [hanswered]
  case others =>
    intro other hother
    calc
      next.handler other = _ := h.others other hother
      _ = _ := by rw [hanswered]
  case registry => exact h.registry
  case submitted => exact h.submitted
  case workq => rw [h.workq, hwork, System.workq_modify]

/-- Every packet is dispatched to its target, or to nobody. -/
theorem handlePacketData_dispatched {sys next : System} {data : PacketData}
    (h : handlePacketData crc16_ccitt sys data = .ok next) :
    (dispatchTarget sys data = none ∧ next = sys) ∨
    ∃ slot pending, dispatchTarget sys data = some slot ∧
      Dispatched sys next slot (dispatchedPacket crc16_ccitt sys data) pending := by
  obtain ⟨htype, -, hcontrol, rfl⟩ | ⟨slot, htype, -, hcontrol, hslot, hend, rfl⟩ |
    ⟨source, slot, htype, hsource, hslot, hfits, rfl⟩ := handlePacketData_cases crc16_ccitt h
  · exact .inl ⟨by simp [dispatchTarget, htype, hcontrol], rfl⟩
  · have hpacket : dispatchedPacket crc16_ccitt sys data = controlPayload data := by
      simp [dispatchedPacket, htype]
    have hlength : (controlPayload data).length = (incomingControl data).length.toNat :=
      data.msg.buf.length_slice _ _ hend
    have hfits : (controlPayload data).length ≤ packetBufSize := by
      rw [hlength]
      exact (Nat.le_add_left _ _).trans hend
    have haccepted : acceptCommand data (sys.handler slot) =
        { sys.handler slot with
          msg :=
            { buf := (sys.handler slot).msg.buf.overlay (controlPayload data)
              bufLen := UInt16.ofNat (controlPayload data).length }
          result := (acceptCommand data (sys.handler slot)).result } := by
      rw [hlength, UInt16.ofNat_toNat]
      rfl
    have hdelivered := dispatched_deliver sys slot (acceptCommand data) hfits haccepted
    rw [← hpacket] at hdelivered
    exact .inr ⟨slot, _, by simp [dispatchTarget, htype, hcontrol, hslot], hdelivered⟩
  · have hpacket : dispatchedPacket crc16_ccitt sys data =
        outgoingPacket crc16_ccitt (sys.handler source).result data := by
      simp [dispatchedPacket, htype, hsource]
    have hdelivered := dispatched_deliver (sys.modify source Handler.answered) slot
      (acceptPacket (outgoingPacket crc16_ccitt (sys.handler source).result data)) hfits.2 rfl
    rw [← hpacket] at hdelivered ⊢
    exact .inr ⟨slot, _, by simp [dispatchTarget, htype, hslot], hdelivered.of_answered⟩

/-- The mailbox of the target holds the packet. -/
theorem Dispatched.contents {sys next : System} {slot : Slot} {packet : List UInt8}
    {pending : Slot → PacketResult} (h : Dispatched sys next slot packet pending) :
    (next.handler slot).msg.contents = packet := by
  rw [PacketBuffer.contents, Buffer.slice, List.drop_zero, h.bufLen, h.cells, List.take_left]

theorem Dispatched.keeps {sys next : System} {slot : Slot} {packet : List UInt8}
    {pending : Slot → PacketResult} (h : Dispatched sys next slot packet pending) (other : Slot) :
    (next.handler other).id = (sys.handler other).id ∧
      (next.handler other).targetInst = (sys.handler other).targetInst ∧
      (next.handler other).workItem.handler = (sys.handler other).workItem.handler := by
  by_cases hother : other = slot
  · rw [hother, h.target]
    exact ⟨rfl, rfl, rfl⟩
  · rw [h.others other hother]
    exact ⟨rfl, rfl, rfl⟩

theorem Dispatched.mem_workq {sys next : System} {slot other : Slot} {packet : List UInt8}
    {pending : Slot → PacketResult} (h : Dispatched sys next slot packet pending)
    (hother : other ∈ next.workq) : other ∈ sys.workq ∨ other = slot := by
  rw [h.workq] at hother
  split_ifs at hother
  · exact .inl hother
  · simpa using hother

/-! ## Lengths of outgoing packets -/

/-- The number of bytes that are wrapped around outgoing data. -/
def outgoingHeaders (result : PacketResult) (destId : InstanceId) : ℕ :=
  (if result.id > 0 then 6 else 3) + 4 + if destId = instanceIdUartCm4 then 7 else 0

theorem length_outgoingPacket (result : PacketResult) {data : PacketData}
    (hlen : data.msg.bufLen.toNat ≤ packetBufSize) :
    (outgoingPacket crc16_ccitt result data).length =
      outgoingHeaders result data.destId + data.msg.bufLen.toNat := by
  have hcontents := PacketBuffer.length_contents hlen
  unfold outgoingPacket outgoingBody targetFrame outgoingHeaders
  split_ifs <;> simp <;> omega

theorem outgoingFits_iff (result : PacketResult) (data : PacketData) :
    OutgoingFits crc16_ccitt result data ↔
      outgoingHeaders result data.destId + data.msg.bufLen.toNat ≤ packetBufSize := by
  constructor
  · rintro ⟨hlen, hpacket⟩
    rwa [length_outgoingPacket crc16_ccitt result hlen] at hpacket
  · intro hroom
    have hlen : data.msg.bufLen.toNat ≤ packetBufSize := (Nat.le_add_left _ _).trans hroom
    exact ⟨hlen, (length_outgoingPacket crc16_ccitt result hlen).le.trans hroom⟩

/-- The source of outgoing data is registered, and there is room for the data behind the headers that
its source and its destination ask for. -/
def RoomForHeaders (sys : System) (data : PacketData) : Prop :=
  ∃ source ∈ sys.pkth.getHandler data.srcId,
    outgoingHeaders (sys.handler source).result data.destId + data.msg.bufLen.toNat ≤ packetBufSize

instance (sys : System) (data : PacketData) : Decidable (RoomForHeaders sys data) :=
  decidable_of_iff (∃ source, sys.pkth.getHandler data.srcId = some source ∧
    outgoingHeaders (sys.handler source).result data.destId + data.msg.bufLen.toNat ≤
      packetBufSize) Iff.rfl

/-- Encoding outgoing data stays inside the packet buffers, and data that does not fit is dropped
with nothing changed. -/
structure EncodingSafe (sys : System) (data : PacketData) : Prop where
  returns : ∃ next, handleOutgoingPacket crc16_ccitt sys data = .ok next
  drops : ¬ RoomForHeaders sys data → handleOutgoingPacket crc16_ccitt sys data = .ok sys

/-- The branch of outgoing data stays inside the memory exactly if the data fits behind its headers,
between registered handlers. -/
theorem handleOutgoingPacket_returns_iff (sys : System) (data : PacketData) :
    (∃ next, handleOutgoingPacket crc16_ccitt sys data = .ok next) ↔
      RoomForHeaders sys data ∧ (sys.pkth.getHandler data.destId).isSome := by
  cases hsource : sys.pkth.getHandler data.srcId with
  | none =>
    rw [handleOutgoingPacket_of_unknown_source crc16_ccitt hsource]
    refine iff_of_false (by simp) ?_
    rintro ⟨⟨source, hfound, -⟩, -⟩
    cases hsource.symm.trans hfound
  | some source =>
    have hroom : RoomForHeaders sys data ↔
        OutgoingFits crc16_ccitt (sys.handler source).result data := by
      rw [RoomForHeaders, hsource, outgoingFits_iff]
      simp
    rw [hroom]
    by_cases hfits : OutgoingFits crc16_ccitt (sys.handler source).result data
    · cases hdest : sys.pkth.getHandler data.destId with
      | none =>
        rw [handleOutgoingPacket_of_unknown_dest crc16_ccitt hsource hfits hdest]
        exact iff_of_false (by simp) (by simp)
      | some dest =>
        exact iff_of_true ⟨_, handleOutgoingPacket_of_fits crc16_ccitt hsource hfits hdest⟩
          ⟨hfits, rfl⟩
    · rw [handleOutgoingPacket_of_not_fits crc16_ccitt hsource hfits]
      exact iff_of_false (by simp) fun h ↦ hfits h.1

/-- Encoding outgoing data is safe exactly if there is room for it behind its headers, between
registered handlers: data that does not fit is not dropped, but written behind the end of the packet
buffer. -/
theorem encodingSafe_iff (sys : System) (data : PacketData) :
    EncodingSafe crc16_ccitt sys data ↔
      RoomForHeaders sys data ∧ (sys.pkth.getHandler data.destId).isSome := by
  constructor
  · intro hsafe
    exact (handleOutgoingPacket_returns_iff crc16_ccitt sys data).mp hsafe.returns
  · intro hfits
    exact ⟨(handleOutgoingPacket_returns_iff crc16_ccitt sys data).mpr hfits, absurd hfits.1⟩

/-- A line of 250 characters from the RS485 port, which its driver accepts, for the cloud. -/
def fullLine : PacketData :=
  peripheralData instanceIdUartRs485 instanceIdCloud (List.replicate 250 0x41)

/-- The headers of a full line are written in front of it, and its end behind the packet buffer. -/
theorem fullLine_overflows :
    handleOutgoingPacket zephyrCrc16Ccitt (.boot (PacketHandler.routerRegistry [])) fullLine =
      .error .outOfBounds ∧
    ¬ EncodingSafe zephyrCrc16Ccitt (.boot (PacketHandler.routerRegistry [])) fullLine := by
  have hsource : (System.boot (PacketHandler.routerRegistry [])).pkth.getHandler fullLine.srcId =
      some 2 := by
    decide +kernel
  have hfits : ¬ OutgoingFits zephyrCrc16Ccitt
      ((System.boot (PacketHandler.routerRegistry [])).handler 2).result fullLine := by
    rw [outgoingFits_iff]
    decide +kernel
  have hstep := handleOutgoingPacket_of_not_fits zephyrCrc16Ccitt hsource hfits
  refine ⟨hstep, fun hsafe ↦ ?_⟩
  obtain ⟨next, hnext⟩ := hsafe.returns
  cases hstep.symm.trans hnext

/-! ## The format of outgoing packets -/

/-- A length field, and behind it the bytes that it announces. -/
def Announces (buf : Buffer UInt8 packetBufSize) (position : ℕ) (bytes : List UInt8) : Prop :=
  (le16At buf position).toNat = bytes.length ∧ buf.slice (position + 2) bytes.length = bytes

theorem announces_overlay (buf : Buffer UInt8 packetBufSize) (before bytes after : List UInt8)
    (hfits : (before ++ (lengthField bytes.length ++ (bytes ++ after))).length ≤ packetBufSize) :
    Announces (buf.overlay (before ++ (lengthField bytes.length ++ (bytes ++ after))))
      before.length bytes := by
  have hlength : bytes.length ≤ packetBufSize := by
    simp only [List.length_append] at hfits
    omega
  constructor
  · have hfield := le16At_overlay buf 0 (UInt16.ofNat bytes.length)
      (show 1 < (lengthField bytes.length ++ (bytes ++ after)).length by simp; omega) hfits rfl
    rw [Nat.add_zero] at hfield
    rw [hfield, UInt16.toNat_ofNat_of_lt' (hlength.trans_lt (by decide))]
  · have hslice := slice_overlay_append buf (before ++ lengthField bytes.length) bytes after
      (by simpa using hfits)
    simpa using hslice

/-- The length field of a UART frame announces the rest of the frame. -/
theorem uartFrame_eq_append (type : UInt8) (payload : List UInt8) :
    uartFrame crc16_ccitt type payload = [uartStartToken] ++
      (lengthField ((uartFrame crc16_ccitt type payload).drop 3).length ++
        (uartFrame crc16_ccitt type payload).drop 3) := by
  have hrest : (uartFrame crc16_ccitt type payload).drop 3 =
      uartCovered type payload ++
        putLe16 (crc16_ccitt uartCrcSeed (uartCovered type payload)) := rfl
  have hlength : (uartCovered type payload ++
      putLe16 (crc16_ccitt uartCrcSeed (uartCovered type payload))).length = payload.length + 4 := by
    simp
    omega
  rw [hrest, hlength]
  simp [uartFrame]

theorem announces_uartFrame (buf : Buffer UInt8 packetBufSize) (type : UInt8)
    (payload : List UInt8) (hfits : (uartFrame crc16_ccitt type payload).length ≤ packetBufSize) :
    Announces (buf.overlay (uartFrame crc16_ccitt type payload)) 1
      ((uartFrame crc16_ccitt type payload).drop 3) := by
  have hsplit := uartFrame_eq_append crc16_ccitt type payload
  have hannounces := announces_overlay buf [uartStartToken]
    ((uartFrame crc16_ccitt type payload).drop 3) [] (by rwa [List.append_nil, ← hsplit])
  rwa [List.append_nil, ← hsplit] at hannounces

theorem uartFrame_eq_around (type : UInt8) (payload : List UInt8) :
    ∃ before after, before.length = 5 ∧
      uartFrame crc16_ccitt type payload = before ++ (payload ++ after) := by
  refine ⟨uartStartToken :: lengthField (payload.length + 4) ++ [uartProtocolVersion, type],
    putLe16 (crc16_ccitt uartCrcSeed (uartCovered type payload)), rfl, ?_⟩
  simp [uartFrame, uartCovered]

/-- Where the generic packet starts in a packet for some destination. -/
def targetStart (destId : InstanceId) : ℕ :=
  if destId = instanceIdUartCm4 then 5 else 0

theorem targetFrame_eq_append (destId : InstanceId) (type : UInt8) (body : List UInt8) :
    ∃ before after, before.length = targetStart destId ∧
      targetFrame crc16_ccitt destId type body = before ++ (genericFrame type body ++ after) := by
  unfold targetFrame targetStart
  split_ifs
  · exact uartFrame_eq_around crc16_ccitt uartTypeGeneric (genericFrame type body)
  · exact ⟨[], [], rfl, by simp⟩

/-- The header of a data or result packet without its length field. -/
def outgoingLead (result : PacketResult) (data : PacketData) : List UInt8 :=
  if result.id > 0 then result.type :: data.resultCode :: putLe16 result.id else [data.srcId]

theorem outgoingBody_eq_append (result : PacketResult) (data : PacketData) :
    outgoingBody result data =
      outgoingLead result data ++ (lengthField data.msg.contents.length ++ data.msg.contents) := by
  unfold outgoingBody outgoingLead
  split_ifs <;> simp [resultFrame, dataFrame]

/-- Every length field of an outgoing packet announces what follows it in its layer. -/
structure LengthsAnnounced (buf : Buffer UInt8 packetBufSize) (result : PacketResult)
    (data : PacketData) : Prop where
  uart : data.destId = instanceIdUartCm4 →
    Announces buf 1 ((outgoingPacket crc16_ccitt result data).drop 3)
  generic : Announces buf (targetStart data.destId + 2) (outgoingBody result data)
  body : Announces buf (targetStart data.destId + 4 + if result.id > 0 then 4 else 1)
    data.msg.contents

theorem lengthsAnnounced_overlay (buf : Buffer UInt8 packetBufSize) {result : PacketResult}
    {data : PacketData} (hfits : OutgoingFits crc16_ccitt result data) :
    LengthsAnnounced crc16_ccitt (buf.overlay (outgoingPacket crc16_ccitt result data))
      result data := by
  obtain ⟨before, after, hstart, hframe⟩ := targetFrame_eq_append crc16_ccitt data.destId
    (outgoingType result) (outgoingBody result data)
  -- the packet, cut at each of its length fields
  have hgeneric : outgoingPacket crc16_ccitt result data =
      (before ++ [protocolVersion, outgoingType result]) ++
        (lengthField (outgoingBody result data).length ++ (outgoingBody result data ++ after)) := by
    rw [outgoingPacket, hframe]
    simp [genericFrame]
  have hbody : outgoingPacket crc16_ccitt result data =
      (before ++ [protocolVersion, outgoingType result] ++
        lengthField (outgoingBody result data).length ++ outgoingLead result data) ++
        (lengthField data.msg.contents.length ++ (data.msg.contents ++ after)) := by
    rw [hgeneric]
    nth_rewrite 2 [outgoingBody_eq_append]
    simp
  constructor
  case uart =>
    intro hdest
    have huart : outgoingPacket crc16_ccitt result data = uartFrame crc16_ccitt uartTypeGeneric
        (genericFrame (outgoingType result) (outgoingBody result data)) := by
      rw [outgoingPacket, targetFrame, if_pos hdest]
    have hannounces := announces_uartFrame crc16_ccitt buf uartTypeGeneric
      (genericFrame (outgoingType result) (outgoingBody result data)) (huart ▸ hfits.2)
    rwa [← huart] at hannounces
  case generic =>
    have hannounces := announces_overlay buf _ _ _ (hgeneric ▸ hfits.2)
    rw [← hgeneric] at hannounces
    simpa [hstart] using hannounces
  case body =>
    have hannounces := announces_overlay buf _ _ _ (hbody ▸ hfits.2)
    rw [← hbody] at hannounces
    have hposition : (before ++ [protocolVersion, outgoingType result] ++
        lengthField (outgoingBody result data).length ++ outgoingLead result data).length =
        targetStart data.destId + 4 + if result.id > 0 then 4 else 1 := by
      unfold outgoingLead
      split_ifs <;> simp [hstart]
    rwa [hposition] at hannounces

/-- Outgoing data between registered handlers that fits behind its headers is dispatched as the
documented packet, with every length field right; a pending request is answered by it, and nothing
else changes. -/
theorem outgoing_packet_documented {sys : System} {data : PacketData} {source dest : Slot}
    (hsource : sys.pkth.getHandler data.srcId = some source)
    (hdest : sys.pkth.getHandler data.destId = some dest)
    (hroom : outgoingHeaders (sys.handler source).result data.destId + data.msg.bufLen.toNat ≤
      packetBufSize) :
    ∃ next, handleOutgoingPacket crc16_ccitt sys data = .ok next ∧
      Dispatched sys next dest (outgoingPacket crc16_ccitt (sys.handler source).result data)
        (fun other ↦ if other = source then { (sys.handler source).result with id := 0 }
          else (sys.handler other).result) ∧
      LengthsAnnounced crc16_ccitt (next.handler dest).msg.buf (sys.handler source).result data := by
  have hfits := (outgoingFits_iff crc16_ccitt (sys.handler source).result data).mpr hroom
  refine ⟨_, handleOutgoingPacket_of_fits crc16_ccitt hsource hfits hdest, ?_, ?_⟩
  · have hdelivered := dispatched_deliver (sys.modify source Handler.answered) dest
      (acceptPacket (outgoingPacket crc16_ccitt (sys.handler source).result data)) hfits.2 rfl
    have hpending (other : Slot) : (if other = dest then
        ((sys.modify source Handler.answered).handler dest).result
        else ((sys.modify source Handler.answered).handler other).result) =
        if other = source then { (sys.handler source).result with id := 0 }
        else (sys.handler other).result := by
      calc
        _ = ((sys.modify source Handler.answered).handler other).result := by
          split_ifs with hother
          · rw [hother]
          · rfl
        _ = _ := by
          rw [System.handler_modify]
          split_ifs <;> rfl
    simp only [← hpending]
    exact hdelivered.of_answered
  · rw [System.handler_deliver, if_pos rfl]
    exact lengthsAnnounced_overlay crc16_ccitt _ hfits

def shortLine : PacketData :=
  peripheralData instanceIdUartRs485 instanceIdCloud [7, 8]

/-- A short line is dispatched as a data packet. -/
theorem outgoing_packet_documented_of_shortLine :
    ∃ next, handleOutgoingPacket zephyrCrc16Ccitt (.boot (PacketHandler.routerRegistry []))
        shortLine = .ok next ∧
      Dispatched (.boot (PacketHandler.routerRegistry [])) next 0
        [1, 2, 5, 0, 2, 2, 0, 7, 8] (fun other ↦ if other = 2 then { type := 0, id := 0 }
          else ((System.boot (PacketHandler.routerRegistry [])).handler other).result) ∧
      LengthsAnnounced zephyrCrc16Ccitt (next.handler 0).msg.buf { type := 0, id := 0 }
        shortLine := by
  have hsource : (System.boot (PacketHandler.routerRegistry [])).pkth.getHandler shortLine.srcId =
      some 2 := by
    decide +kernel
  have hdest : (System.boot (PacketHandler.routerRegistry [])).pkth.getHandler shortLine.destId =
      some 0 := by
    decide +kernel
  exact outgoing_packet_documented zephyrCrc16Ccitt hsource hdest (by decide +kernel)

/-! ## The two incoming transports -/

/-- A control packet that has been written into a message where its loader looks for it. -/
structure Carries (data : PacketData) (commandType : UInt8) (srcId destId : InstanceId)
    (requestId : UInt16) (payload : List UInt8) : Prop where
  isControl : IsControl data
  control : incomingControl data =
    { commandType, srcId, destId, requestId
      length := UInt16.ofNat payload.length
      payload := genericStart data + 11 }
  payload : controlPayload data = payload
  inside : controlEnd data ≤ packetBufSize

section Carries

variable {data : PacketData} {commandType : UInt8} {srcId destId : InstanceId}
  {requestId : UInt16} {payload : List UInt8}

theorem carries_of_written (rest : Buffer UInt8 packetBufSize) (before after : List UInt8)
    (hstart : before.length = genericStart data)
    (hbuf : data.msg.buf = rest.overlay (before ++ (genericFrame genericTypeControl
      (controlFrame commandType srcId destId requestId payload) ++ after)))
    (hfits : (before ++ (genericFrame genericTypeControl
      (controlFrame commandType srcId destId requestId payload) ++ after)).length ≤ packetBufSize) :
    Carries data commandType srcId destId requestId payload := by
  -- the message, cut in front of the control packet and in front of its payload
  have hcontrol : before ++ (genericFrame genericTypeControl
      (controlFrame commandType srcId destId requestId payload) ++ after) =
      (before ++ [protocolVersion, genericTypeControl] ++
        lengthField (controlFrame commandType srcId destId requestId payload).length) ++
        (controlFrame commandType srcId destId requestId payload ++ after) := by
    simp [genericFrame]
  have hpayload : before ++ (genericFrame genericTypeControl
      (controlFrame commandType srcId destId requestId payload) ++ after) =
      (before ++ [protocolVersion, genericTypeControl] ++
        lengthField (controlFrame commandType srcId destId requestId payload).length ++
        [commandType, srcId, destId] ++ putLe16 requestId ++ lengthField payload.length) ++
        (payload ++ after) := by
    simp [genericFrame, controlFrame]
  have hroom : genericStart data + 11 + payload.length ≤ packetBufSize := by
    simp only [List.length_append, length_genericFrame, length_controlFrame, hstart] at hfits
    omega
  have hlength : (UInt16.ofNat payload.length).toNat = payload.length :=
    UInt16.toNat_ofNat_of_lt' (((Nat.le_add_left _ _).trans hroom).trans_lt (by decide))
  have hgenericHeader := genericHeader_overlay rest before after genericTypeControl
    (controlFrame commandType srcId destId requestId payload) hfits
  have hcontrolHeader := controlHeader_overlay rest _ after commandType srcId destId requestId
    payload (hcontrol ▸ hfits)
  have hslice := slice_overlay_append rest _ payload after (hpayload ▸ hfits)
  rw [← hbuf, hstart] at hgenericHeader
  rw [← hcontrol, ← hbuf, show (before ++ [protocolVersion, genericTypeControl] ++
      lengthField (controlFrame commandType srcId destId requestId payload).length).length =
      genericStart data + 4 by simp [hstart]] at hcontrolHeader
  rw [← hpayload, ← hbuf, show (before ++ [protocolVersion, genericTypeControl] ++
      lengthField (controlFrame commandType srcId destId requestId payload).length ++
      [commandType, srcId, destId] ++ putLe16 requestId ++ lengthField payload.length).length =
      genericStart data + 11 by simp [hstart]] at hslice
  have hincoming : incomingControl data =
      { commandType, srcId, destId, requestId
        length := UInt16.ofNat payload.length
        payload := genericStart data + 11 } := hcontrolHeader
  constructor
  case isControl => exact congrArg GenericPacket.type hgenericHeader
  case control => exact hincoming
  case payload => rwa [controlPayload, hincoming, hlength]
  case inside =>
    rw [controlEnd, hincoming, hlength]
    exact hroom

/-- What a control packet changes in its handler, whatever carries it. -/
def acceptRequest (commandType : UInt8) (requestId : UInt16) (payload : List UInt8)
    (handler : Handler) : Handler :=
  { handler with
    result := { type := commandType, id := requestId }
    msg :=
      { buf := handler.msg.buf.overlay payload
        bufLen := UInt16.ofNat payload.length } }

/-- A control packet is dispatched in the same way wherever its loader finds it. -/
theorem Carries.handleIncomingPacket_eq {sys : System} {dest : Slot}
    (h : Carries data commandType srcId destId requestId payload) (hloadable : Loadable data)
    (hdest : sys.pkth.getHandler destId = some dest) :
    handleIncomingPacket crc16_ccitt sys data =
      .ok (sys.deliver dest (acceptRequest commandType requestId payload)) := by
  have hfound : sys.pkth.getHandler (incomingControl data).destId = some dest := by
    rw [h.control]
    exact hdest
  rw [handleIncomingPacket_of_control hloadable h.isControl hfound, if_pos h.inside]
  congr 2
  funext handler
  rw [acceptCommand, acceptRequest, h.control, h.payload]

/-- A control packet on its own, as the cloud sends it. -/
theorem carries_bare {cloud : PacketData} (rest : Buffer UInt8 packetBufSize)
    (hcloud : cloud.srcId = instanceIdCloud)
    (hbuf : cloud.msg.buf = rest.overlay (genericFrame genericTypeControl
      (controlFrame commandType srcId destId requestId payload)))
    (hroom : payload.length + 18 ≤ packetBufSize) :
    Loadable cloud ∧ Carries cloud commandType srcId destId requestId payload := by
  have hstart : genericStart cloud = 0 := by
    rw [genericStart, hcloud]
    rfl
  have hloadable : Loadable cloud := by
    intro hcm4
    exact absurd (hcloud.symm.trans hcm4) (by decide)
  refine ⟨hloadable, carries_of_written rest [] [] hstart.symm (by simpa using hbuf) ?_⟩
  simp
  omega

/-- A control packet in a UART packet, as the CM4 sends it. -/
theorem carries_wrapped {cm4 : PacketData} (pktBuf : Buffer UInt8 packetBufSize)
    (hcm4 : cm4.srcId = instanceIdUartCm4)
    (hbuf : cm4.msg.buf = pktBuf.overlay (uartFrame crc16_ccitt uartTypeGeneric
      (genericFrame genericTypeControl
        (controlFrame commandType srcId destId requestId payload))))
    (hroom : payload.length + 18 ≤ packetBufSize) :
    Loadable cm4 ∧ Carries cm4 commandType srcId destId requestId payload := by
  have hframe : (genericFrame genericTypeControl
      (controlFrame commandType srcId destId requestId payload)).length = payload.length + 11 := by
    simp
    omega
  have hfits : (uartFrame crc16_ccitt uartTypeGeneric (genericFrame genericTypeControl
      (controlFrame commandType srcId destId requestId payload))).length ≤ packetBufSize := by
    rw [length_uartFrame, hframe]
    omega
  obtain ⟨before, after, hbefore, hsplit⟩ := uartFrame_eq_around crc16_ccitt uartTypeGeneric
    (genericFrame genericTypeControl (controlFrame commandType srcId destId requestId payload))
  have hstart : before.length = genericStart cm4 := by
    rw [hbefore, genericStart, if_pos hcm4]
  have hloadable : Loadable cm4 := by
    intro _
    obtain ⟨hlength, -⟩ := announces_uartFrame crc16_ccitt pktBuf uartTypeGeneric _ hfits
    rw [List.length_drop, length_uartFrame, hframe] at hlength
    rw [hbuf, UartLengthInside, hlength]
    omega
  exact ⟨hloadable,
    carries_of_written pktBuf before after hstart (hsplit ▸ hbuf) (hsplit ▸ hfits)⟩

/-- Wrapping a control packet into a UART packet. -/
theorem wrapUartPacket_control (rest pktBuf : Buffer UInt8 packetBufSize)
    (hroom : payload.length + 18 ≤ packetBufSize) :
    wrapUartPacket crc16_ccitt uartTypeGeneric
        (rest.overlay (genericFrame genericTypeControl
          (controlFrame commandType srcId destId requestId payload)))
        (payload.length + 11) pktBuf =
      .ok (pktBuf.overlay (uartFrame crc16_ccitt uartTypeGeneric (genericFrame genericTypeControl
        (controlFrame commandType srcId destId requestId payload))), payload.length + 18) := by
  have hframe : (genericFrame genericTypeControl
      (controlFrame commandType srcId destId requestId payload)).length = payload.length + 11 := by
    simp
    omega
  have hbare : (genericFrame genericTypeControl
      (controlFrame commandType srcId destId requestId payload)).length ≤ packetBufSize := by
    omega
  have hslice := rest.slice_overlay hbare
  rw [hframe] at hslice
  rw [wrapUartPacket_eq, if_pos ⟨by omega, by omega⟩, hslice, Nat.add_comm 7]

end Carries

/-- A control packet for a registered handler has the same effect bare from the cloud and wrapped
into a UART packet from the CM4: its payload and request are handed to the handler. -/
theorem transports_agree {sys : System} {dest : Slot} (commandType : UInt8)
    (srcId destId : InstanceId) (requestId : UInt16) (payload : List UInt8)
    (hdest : sys.pkth.getHandler destId = some dest) (hroom : payload.length + 18 ≤ packetBufSize)
    (rest pktBuf : Buffer UInt8 packetBufSize) :
    ∃ wrapped next,
      wrapUartPacket crc16_ccitt uartTypeGeneric
          (rest.overlay (genericFrame genericTypeControl
            (controlFrame commandType srcId destId requestId payload)))
          (payload.length + 11) pktBuf = .ok (wrapped, payload.length + 18) ∧
      (∀ cloud : PacketData, cloud.srcId = instanceIdCloud →
        cloud.msg.buf = rest.overlay (genericFrame genericTypeControl
          (controlFrame commandType srcId destId requestId payload)) →
        handleIncomingPacket crc16_ccitt sys cloud = .ok next) ∧
      (∀ cm4 : PacketData, cm4.srcId = instanceIdUartCm4 → cm4.msg.buf = wrapped →
        handleIncomingPacket crc16_ccitt sys cm4 = .ok next) ∧
      Dispatched sys next dest payload fun other ↦
        if other = dest then { type := commandType, id := requestId }
        else (sys.handler other).result := by
  refine ⟨_, sys.deliver dest (acceptRequest commandType requestId payload),
    wrapUartPacket_control crc16_ccitt rest pktBuf hroom, ?_, ?_,
    dispatched_deliver sys dest _ (by omega) rfl⟩
  · intro cloud hcloud hbuf
    obtain ⟨hloadable, hcarries⟩ := carries_bare rest hcloud hbuf hroom
    exact hcarries.handleIncomingPacket_eq crc16_ccitt hloadable hdest
  · intro cm4 hcm4 hbuf
    obtain ⟨hloadable, hcarries⟩ := carries_wrapped crc16_ccitt pktBuf hcm4 hbuf hroom
    exact hcarries.handleIncomingPacket_eq crc16_ccitt hloadable hdest

/-- A control packet with two bytes of payload for RS485. -/
theorem transports_agree_of_rs485 :
    ∃ wrapped next,
      wrapUartPacket zephyrCrc16Ccitt uartTypeGeneric
          (PacketBuffer.zero.buf.overlay (genericFrame genericTypeControl
            (controlFrame 6 instanceIdUartCm4 instanceIdUartRs485 1 [7, 8])))
          13 PacketBuffer.zero.buf = .ok (wrapped, 20) ∧
      (∀ cloud : PacketData, cloud.srcId = instanceIdCloud →
        cloud.msg.buf = PacketBuffer.zero.buf.overlay (genericFrame genericTypeControl
          (controlFrame 6 instanceIdUartCm4 instanceIdUartRs485 1 [7, 8])) →
        handleIncomingPacket zephyrCrc16Ccitt (.boot (PacketHandler.routerRegistry [])) cloud =
          .ok next) ∧
      (∀ cm4 : PacketData, cm4.srcId = instanceIdUartCm4 → cm4.msg.buf = wrapped →
        handleIncomingPacket zephyrCrc16Ccitt (.boot (PacketHandler.routerRegistry [])) cm4 =
          .ok next) ∧
      Dispatched (.boot (PacketHandler.routerRegistry [])) next 2 [7, 8] fun other ↦
        if other = 2 then { type := 6, id := 1 }
        else ((System.boot (PacketHandler.routerRegistry [])).handler other).result := by
  have hdest : (System.boot (PacketHandler.routerRegistry [])).pkth.getHandler
      instanceIdUartRs485 = some 2 := by
    decide +kernel
  exact transports_agree zephyrCrc16Ccitt 6 instanceIdUartCm4 instanceIdUartRs485 1 [7, 8] hdest
    (by decide) PacketBuffer.zero.buf PacketBuffer.zero.buf

end CrownstoneRouter
