import CrownstoneRouter.Foundation.Mailbox
import CrownstoneRouter.PacketHandling.Codec
import CrownstoneRouter.PacketHandling.Registry

/-!
# Dispatching packets to handlers

The packet thread takes a message from its queue and writes the packet it contains, or the packet
it wraps around it, into the mailbox of one handler, whose work item it submits. Incoming messages
come from the cloud or the CM4 and carry control packets for a peripheral; outgoing messages carry
the data of a peripheral, which is wrapped as the result of the request pending at that peripheral,
or as plain data.

`handleIncomingPacket` and `handleOutgoingPacket` follow the source statement by statement. Their
specifications `handleIncomingPacket_eq` and `handleOutgoingPacket_eq` say in one equation each when
they return and what they write; nothing after them unfolds the two functions.
-/

namespace CrownstoneRouter

open CheckedMemory LittleEndian

variable (crc16_ccitt : UInt16 → List UInt8 → UInt16)

/-- The packet handler, the system work queue, which refers to handlers by their slots, and the
history of submissions and runs of work items. -/
structure System where
  pkth : PacketHandler
  workq : List Slot
  trace : List (Mailbox.Event Slot (List UInt8))

namespace System

/-- The system when a registry has been set up and no packet has been handled yet. -/
def boot (pkth : PacketHandler) : System where
  pkth := pkth
  workq := []
  trace := []

def modify (sys : System) (slot : Slot) (change : Handler → Handler) : System :=
  { sys with pkth := { sys.pkth with
      handlers := Function.update sys.pkth.handlers slot (change (sys.pkth.handlers slot)) } }

def handler (sys : System) (slot : Slot) : Handler :=
  sys.pkth.handlers slot

/-- `k_work_submit`: an item that is queued already stays where it is. -/
def kWorkSubmit (sys : System) (slot : Slot) : System :=
  let submitted : System :=
    { sys with trace := sys.trace ++ [.submit slot (sys.handler slot).msg.contents] }
  if (sys.handler slot).workItem.queued then submitted
  else
    let queued : System := { submitted with workq := sys.workq ++ [slot] }
    queued.modify slot fun handler ↦
      { handler with workItem := { handler.workItem with queued := true } }

/-- The work queue runs its oldest item, whose callback reads the mailbox. -/
def runWork (sys : System) : System :=
  match sys.workq with
  | [] => sys
  | slot :: rest =>
      let taken : System :=
        { sys with
          workq := rest
          trace := sys.trace ++ [.run slot (sys.handler slot).msg.contents] }
      taken.modify slot fun handler ↦
        { handler with workItem := { handler.workItem with queued := false } }

end System

/-- The slot of a handler pointer that is dereferenced. -/
def deref (handler : Option Slot) : Checked Slot :=
  match handler with
  | some slot => .ok slot
  | none => .error .nullPointer

/-! ## Incoming packets -/

/-- The first part of `handleIncomingPacket`: unwrap the generic packet. What the loaders log has no
influence on what is done with it. -/
def loadIncoming (data : PacketData) : Checked GenericPacket := do
  if data.srcId = instanceIdUartCm4 then
    let (uartPkt, _) ← loadUartPacket crc16_ccitt data.msg.buf
    let (genericPkt, _) ← loadGenericPacket data.msg.buf uartPkt.payload
    return genericPkt
  else
    let (genericPkt, _) ← loadGenericPacket data.msg.buf 0
    return genericPkt

/-- Handler for an incoming packet, from either CM4 or cloud. -/
def handleIncomingPacket (sys : System) (data : PacketData) : Checked System := do
  let genericPkt ← loadIncoming crc16_ccitt data
  if genericPkt.type = genericTypeControl then
    let ctrlPkt ← loadControlPacket data.msg.buf genericPkt.payload
    let slot ← deref (sys.pkth.getHandler ctrlPkt.destId)
    let outh := sys.handler slot
    -- the payload pointer may be anywhere in the message, the length is taken from the packet
    let buf ← outh.msg.buf.memcpy 0 data.msg.buf ctrlPkt.payload ctrlPkt.length.toNat
    let sys := sys.modify slot fun handler ↦
      { handler with
        result := { type := ctrlPkt.commandType, id := ctrlPkt.requestId }
        msg := { buf, bufLen := ctrlPkt.length } }
    return sys.kWorkSubmit slot
  else
    return sys

/-! ## Outgoing packets -/

/-- The first part of `handleOutgoingPacket`: wrap the data as the result of a pending request, or
as data. -/
def wrapPending (result : PacketResult) (data : PacketData) (pktBuf : Buffer UInt8 packetBufSize) :
    Checked (Buffer UInt8 packetBufSize × ℕ × UInt8) := do
  if result.id > 0 then
    let (pktBuf, pktLen) ← wrapResultPacket result.type data.resultCode result.id data.msg.buf
      data.msg.bufLen.toNat pktBuf
    return (pktBuf, pktLen, genericTypeResult)
  else
    let (pktBuf, pktLen) ← wrapDataPacket data.srcId data.msg.buf data.msg.bufLen.toNat pktBuf
    return (pktBuf, pktLen, genericTypeData)

/-- The second part: wrap the packet into a generic packet, and for CM4 that into a UART packet. The
temporary buffers have exactly the length of what they hold. -/
def wrapForTarget (destId : InstanceId) (pktType : UInt8) (pktBuf : Buffer UInt8 packetBufSize)
    (pktLen : ℕ) : Checked (Buffer UInt8 packetBufSize × ℕ) := do
  let tmp ← pktBuf.load 0 pktLen
  let tmpBuf := Buffer.ofList tmp
  let (pktBuf, genericPktLen) ← wrapGenericPacket pktType tmpBuf pktLen pktBuf
  if destId = instanceIdUartCm4 then
    let genericTmp ← pktBuf.load 0 genericPktLen
    let genericPktTmpBuf := Buffer.ofList genericTmp
    wrapUartPacket crc16_ccitt uartTypeGeneric genericPktTmpBuf genericPktLen pktBuf
  else
    return (pktBuf, genericPktLen)

/-- Handler for data coming from peripherals. The local packet buffer is not initialized in the
source; every byte of it that is read has been written before. -/
def handleOutgoingPacket (sys : System) (data : PacketData) : Checked System := do
  let source ← deref (sys.pkth.getHandler data.srcId)
  let result := (sys.handler source).result
  let (pktBuf, pktLen, pktType) ← wrapPending result data (Buffer.fill packetBufSize 0)
  -- request handled, reset the result id
  let sys := if result.id > 0 then
      sys.modify source fun handler ↦ { handler with result := { handler.result with id := 0 } }
    else sys
  let (pktBuf, pktLen) ← wrapForTarget crc16_ccitt data.destId pktType pktBuf pktLen
  let slot ← deref (sys.pkth.getHandler data.destId)
  let outh := sys.handler slot
  let buf ← outh.msg.buf.memcpy 0 pktBuf 0 pktLen
  let sys := sys.modify slot fun handler ↦
    { handler with msg := { buf, bufLen := UInt16.ofNat pktLen } }
  return sys.kWorkSubmit slot

/-- The loop body of `handlePacketBuffers` for a message taken from the queue. -/
def handlePacketData (sys : System) (data : PacketData) : Checked System :=
  match data.type with
  | .incoming => handleIncomingPacket crc16_ccitt sys data
  | .outgoing => handleOutgoingPacket crc16_ccitt sys data

/-! ## What changing a handler changes -/

namespace System

variable (sys : System) (slot other : Slot) (change : Handler → Handler)

theorem handler_modify :
    (sys.modify slot change).handler other =
      if other = slot then change (sys.handler slot) else sys.handler other := by
  simp [modify, handler, Function.update_apply]

@[simp]
theorem handler_modify_self : (sys.modify slot change).handler slot = change (sys.handler slot) := by
  simp [handler_modify]

@[simp]
theorem trace_modify : (sys.modify slot change).trace = sys.trace := rfl

@[simp]
theorem workq_modify : (sys.modify slot change).workq = sys.workq := rfl

/-- A change that keeps the id is invisible to lookups. -/
theorem getHandler_modify (hid : ∀ handler, (change handler).id = handler.id) (instId : InstanceId) :
    (sys.modify slot change).pkth.getHandler instId = sys.pkth.getHandler instId := by
  have hids (index : Slot) : ((sys.modify slot change).pkth.handlers index).id =
      (sys.pkth.handlers index).id := by
    have h := handler_modify sys slot index change
    simp only [handler] at h
    rw [h]
    split_ifs with hindex
    · rw [hid, hindex]
    · rfl
  have hctr : (sys.modify slot change).pkth.handlerCtr = sys.pkth.handlerCtr := rfl
  have hinit : (sys.modify slot change).pkth.initialized = sys.pkth.initialized := rfl
  simp only [PacketHandler.getHandler, PacketHandler.findSlot, hids, hctr, hinit]

theorem modify_eq_self (h : change (sys.handler slot) = sys.handler slot) :
    sys.modify slot change = sys := by
  simp only [handler] at h
  simp [modify, h]

/-- A submission marks the work item of its handler as queued and changes no handler otherwise. -/
theorem handler_kWorkSubmit :
    (sys.kWorkSubmit slot).handler other =
      if other = slot then
        { sys.handler slot with workItem := { (sys.handler slot).workItem with queued := true } }
      else sys.handler other := by
  unfold kWorkSubmit
  by_cases hqueued : (sys.handler slot).workItem.queued = true
  · rw [if_pos hqueued]
    split_ifs with hother
    · rw [hother, ← hqueued]
      rfl
    · rfl
  · rw [if_neg hqueued, handler_modify]
    rfl

@[simp]
theorem trace_kWorkSubmit :
    (sys.kWorkSubmit slot).trace =
      sys.trace ++ [.submit slot (sys.handler slot).msg.contents] := by
  unfold kWorkSubmit
  split_ifs <;> rfl

theorem getHandler_kWorkSubmit (instId : InstanceId) :
    (sys.kWorkSubmit slot).pkth.getHandler instId = sys.pkth.getHandler instId := by
  unfold kWorkSubmit
  split_ifs
  · rfl
  · rw [getHandler_modify]
    exact fun _ ↦ rfl

/-- Change a handler and submit its work item: the effect of a dispatch. -/
def deliver : System :=
  (sys.modify slot change).kWorkSubmit slot

theorem handler_deliver :
    (sys.deliver slot change).handler other =
      if other = slot then
        { change (sys.handler slot) with
          workItem := { (change (sys.handler slot)).workItem with queued := true } }
      else sys.handler other := by
  rw [deliver, handler_kWorkSubmit, handler_modify_self, handler_modify]
  split_ifs <;> rfl

@[simp]
theorem trace_deliver :
    (sys.deliver slot change).trace =
      sys.trace ++ [.submit slot (change (sys.handler slot)).msg.contents] := by
  simp [deliver]

@[simp]
theorem pkthMsgq_modify : (sys.modify slot change).pkth.pkthMsgq = sys.pkth.pkthMsgq := rfl

@[simp]
theorem pkthMsgq_deliver : (sys.deliver slot change).pkth.pkthMsgq = sys.pkth.pkthMsgq := by
  unfold deliver kWorkSubmit
  split_ifs <;> rfl

theorem getHandler_deliver (hid : ∀ handler, (change handler).id = handler.id)
    (instId : InstanceId) :
    (sys.deliver slot change).pkth.getHandler instId = sys.pkth.getHandler instId := by
  rw [deliver, getHandler_kWorkSubmit, getHandler_modify sys slot change hid]

theorem deliver_ne_self : sys.deliver slot change ≠ sys := by
  intro heq
  have htrace := congrArg (fun sys ↦ sys.trace.length) heq
  simp at htrace

end System

/-! ## Specification of `handleIncomingPacket` -/

/-- Where the generic packet starts in an incoming message. -/
def genericStart (data : PacketData) : ℕ :=
  if data.srcId = instanceIdUartCm4 then 5 else 0

def incomingGeneric (data : PacketData) : GenericPacket :=
  genericHeader data.msg.buf (genericStart data)

/-- The control packet of an incoming message, if it is one. -/
def incomingControl (data : PacketData) : ControlPacket :=
  controlHeader data.msg.buf (genericStart data + 4)

/-- The message is marked as a control packet. -/
def IsControl (data : PacketData) : Prop :=
  (incomingGeneric data).type = genericTypeControl

instance (data : PacketData) : Decidable (IsControl data) :=
  inferInstanceAs (Decidable (_ = _))

/-- A message from CM4 declares a length that the UART loader can follow inside the buffer. -/
def Loadable (data : PacketData) : Prop :=
  data.srcId = instanceIdUartCm4 → UartLengthInside data.msg.buf

instance (data : PacketData) : Decidable (Loadable data) :=
  inferInstanceAs (Decidable (_ → _))

/-- The bytes that the control packet announces as its payload. -/
def controlPayload (data : PacketData) : List UInt8 :=
  data.msg.buf.slice (incomingControl data).payload (incomingControl data).length.toNat

/-- The end of the announced control payload in the message. -/
def controlEnd (data : PacketData) : ℕ :=
  (incomingControl data).payload + (incomingControl data).length.toNat

/-- What a control packet changes in the handler it is dispatched to. -/
def acceptCommand (data : PacketData) (handler : Handler) : Handler :=
  { handler with
    result := { type := (incomingControl data).commandType, id := (incomingControl data).requestId }
    msg :=
      { buf := handler.msg.buf.overlay (controlPayload data)
        bufLen := (incomingControl data).length } }

theorem genericStart_le (data : PacketData) : genericStart data ≤ 5 := by
  unfold genericStart
  split_ifs <;> omega

theorem loadIncoming_eq (data : PacketData) :
    loadIncoming crc16_ccitt data =
      if Loadable data then .ok (incomingGeneric data) else .error .outOfBounds := by
  unfold loadIncoming
  by_cases hsrc : data.srcId = instanceIdUartCm4
  · rw [if_pos hsrc, loadUartPacket_eq crc16_ccitt data.msg.buf (by decide) (by decide)]
    simp [bind, pure, Except.pure, Loadable, hsrc, uartHeader, incomingGeneric, genericStart,
      loadGenericPacket_eq data.msg.buf 5 (by decide)]
  · rw [if_neg hsrc, loadGenericPacket_eq data.msg.buf 0 (by decide)]
    simp [bind, pure, Except.pure, Loadable, hsrc, incomingGeneric, genericStart]

theorem handleIncomingPacket_eq (sys : System) (data : PacketData) :
    handleIncomingPacket crc16_ccitt sys data =
      if Loadable data then
        if IsControl data then
          match sys.pkth.getHandler (incomingControl data).destId with
          | none => .error .nullPointer
          | some slot =>
              if controlEnd data ≤ packetBufSize then .ok (sys.deliver slot (acceptCommand data))
              else .error .outOfBounds
        else .ok sys
      else .error .outOfBounds := by
  have hstart := genericStart_le data
  have hsize : packetBufSize = 250 := rfl
  have hcontrol : loadControlPacket data.msg.buf (incomingGeneric data).payload =
      .ok (incomingControl data) :=
    loadControlPacket_eq data.msg.buf (genericStart data + 4) (by omega)
  unfold handleIncomingPacket
  rw [loadIncoming_eq]
  simp only [bind, bind_guard]
  refine if_ctx_congr Iff.rfl (fun _ ↦ ?_) (fun _ ↦ rfl)
  refine if_ctx_congr Iff.rfl (fun _ ↦ ?_) (fun _ ↦ rfl)
  rw [hcontrol, bind_ok]
  cases sys.pkth.getHandler (incomingControl data).destId with
  | none => rfl
  | some slot =>
    simp only [deref, bind_ok, Buffer.memcpy_zero, bind_guard]
    refine if_ctx_congr ?_ (fun _ ↦ rfl) (fun _ ↦ rfl)
    simp only [controlEnd]
    omega

section Incoming

variable {crc16_ccitt} {sys : System} {data : PacketData}

theorem handleIncomingPacket_of_not_loadable (h : ¬ Loadable data) :
    handleIncomingPacket crc16_ccitt sys data = .error .outOfBounds := by
  rw [handleIncomingPacket_eq, if_neg h]

theorem handleIncomingPacket_of_not_control (h : Loadable data) (hcontrol : ¬ IsControl data) :
    handleIncomingPacket crc16_ccitt sys data = .ok sys := by
  rw [handleIncomingPacket_eq, if_pos h, if_neg hcontrol]

theorem handleIncomingPacket_of_unknown (h : Loadable data) (hcontrol : IsControl data)
    (hdest : sys.pkth.getHandler (incomingControl data).destId = none) :
    handleIncomingPacket crc16_ccitt sys data = .error .nullPointer := by
  rw [handleIncomingPacket_eq, if_pos h, if_pos hcontrol, hdest]

theorem handleIncomingPacket_of_control (h : Loadable data) (hcontrol : IsControl data)
    {slot : Slot} (hdest : sys.pkth.getHandler (incomingControl data).destId = some slot) :
    handleIncomingPacket crc16_ccitt sys data =
      if controlEnd data ≤ packetBufSize then .ok (sys.deliver slot (acceptCommand data))
      else .error .outOfBounds := by
  rw [handleIncomingPacket_eq, if_pos h, if_pos hcontrol, hdest]

end Incoming

theorem contents_acceptCommand {data : PacketData} (h : controlEnd data ≤ packetBufSize)
    (handler : Handler) : (acceptCommand data handler).msg.contents = controlPayload data := by
  have hlength : (controlPayload data).length = (incomingControl data).length.toNat :=
    data.msg.buf.length_slice _ _ h
  have hfits : (controlPayload data).length ≤ packetBufSize := by
    rw [hlength]
    exact (Nat.le_add_left _ _).trans h
  have hslice := handler.msg.buf.slice_overlay hfits
  rwa [hlength] at hslice

/-! ## Specification of `handleOutgoingPacket` -/

/-- The result or data packet that is made of outgoing data. -/
def outgoingBody (result : PacketResult) (data : PacketData) : List UInt8 :=
  if result.id > 0 then resultFrame result.type data.resultCode result.id data.msg.contents
  else dataFrame data.srcId data.msg.contents

/-- The type of that packet. -/
def outgoingType (result : PacketResult) : UInt8 :=
  if result.id > 0 then genericTypeResult else genericTypeData

/-- A packet in the framing of the handler that it goes to. -/
def targetFrame (destId : InstanceId) (type : UInt8) (body : List UInt8) : List UInt8 :=
  if destId = instanceIdUartCm4 then uartFrame crc16_ccitt uartTypeGeneric (genericFrame type body)
  else genericFrame type body

/-- The packet that outgoing data is dispatched as. -/
def outgoingPacket (result : PacketResult) (data : PacketData) : List UInt8 :=
  targetFrame crc16_ccitt data.destId (outgoingType result) (outgoingBody result data)

/-- Outgoing data and the packet made of it fit their buffers. -/
def OutgoingFits (result : PacketResult) (data : PacketData) : Prop :=
  data.msg.bufLen.toNat ≤ packetBufSize ∧
    (outgoingPacket crc16_ccitt result data).length ≤ packetBufSize

instance (result : PacketResult) (data : PacketData) :
    Decidable (OutgoingFits crc16_ccitt result data) :=
  inferInstanceAs (Decidable (_ ∧ _))

/-- Mark the request pending at a handler as answered. -/
def Handler.answered (handler : Handler) : Handler :=
  { handler with result := { handler.result with id := 0 } }

theorem Handler.answered_of_id {handler : Handler} (h : handler.result.id = 0) :
    handler.answered = handler := by
  simp [answered, ← h]

/-- What a packet changes in the handler it is dispatched to. -/
def acceptPacket (packet : List UInt8) (handler : Handler) : Handler :=
  { handler with
    msg := { buf := handler.msg.buf.overlay packet, bufLen := UInt16.ofNat packet.length } }

theorem length_le_targetFrame (destId : InstanceId) (type : UInt8) (body : List UInt8) :
    4 + body.length ≤ (targetFrame crc16_ccitt destId type body).length := by
  unfold targetFrame
  split_ifs <;> simp

theorem wrapPending_eq (result : PacketResult) (data : PacketData)
    (pktBuf : Buffer UInt8 packetBufSize) :
    wrapPending result data pktBuf =
      if data.msg.bufLen.toNat ≤ packetBufSize ∧
          (outgoingBody result data).length ≤ packetBufSize then
        .ok (pktBuf.overlay (outgoingBody result data), (outgoingBody result data).length,
          outgoingType result)
      else .error .outOfBounds := by
  by_cases hlen : data.msg.bufLen.toNat ≤ packetBufSize
  · have hcontents := PacketBuffer.length_contents hlen
    unfold wrapPending outgoingBody outgoingType
    split_ifs with hid <;>
      simp_all [wrapResultPacket_eq, wrapDataPacket_eq, bind, pure, Except.pure,
        ← PacketBuffer.contents.eq_1]
  · rw [if_neg fun h ↦ hlen h.1]
    unfold wrapPending
    split_ifs <;> simp [wrapResultPacket_eq, wrapDataPacket_eq, bind, hlen]

theorem wrapForTarget_eq (destId : InstanceId) (type : UInt8) {body : List UInt8}
    (hbody : body.length ≤ packetBufSize) (pktBuf : Buffer UInt8 packetBufSize) :
    wrapForTarget crc16_ccitt destId type (pktBuf.overlay body) body.length =
      if (targetFrame crc16_ccitt destId type body).length ≤ packetBufSize then
        .ok (pktBuf.overlay (targetFrame crc16_ccitt destId type body),
          (targetFrame crc16_ccitt destId type body).length)
      else .error .outOfBounds := by
  have hload (written : List UInt8) (h : written.length ≤ packetBufSize) :
      (pktBuf.overlay written).load 0 written.length = .ok written := by
    rw [Buffer.load, if_pos (by omega), Buffer.slice_overlay _ h]
  have hall (bytes : List UInt8) :
      (⟨bytes, rfl⟩ : Buffer UInt8 bytes.length).slice 0 bytes.length = bytes := by
    simp [Buffer.slice]
  simp only [wrapForTarget, bind, hload body hbody, bind_ok, wrapGenericPacket_eq, hall]
  by_cases hgeneric : (genericFrame type body).length ≤ packetBufSize
  · have hcover : (pktBuf.overlay body).overlay (genericFrame type body) =
        pktBuf.overlay (genericFrame type body) :=
      pktBuf.overlay_overlay (by simp) hgeneric
    have hguard : body.length ≤ body.length ∧ 4 + body.length ≤ packetBufSize := by
      simpa using hgeneric
    rw [if_pos hguard, bind_ok, hcover, ← length_genericFrame type body]
    unfold targetFrame
    by_cases hdest : destId = instanceIdUartCm4
    · simp only [if_pos hdest, hload _ hgeneric, bind_ok, wrapUartPacket_eq, hall,
        length_uartFrame, le_refl, true_and]
      refine if_ctx_congr Iff.rfl (fun hframe ↦ ?_) (fun _ ↦ rfl)
      rw [pktBuf.overlay_overlay (by simp) (by simpa using hframe)]
    · simp only [if_neg hdest, if_pos hgeneric]
      rfl
  · have hguard : ¬ (body.length ≤ body.length ∧ 4 + body.length ≤ packetBufSize) := by
      simpa using hgeneric
    have hframe : ¬ (targetFrame crc16_ccitt destId type body).length ≤ packetBufSize := by
      intro h
      exact hguard ⟨le_rfl, (length_le_targetFrame crc16_ccitt destId type body).trans h⟩
    rw [if_neg hguard, if_neg hframe, bind_error]

theorem handleOutgoingPacket_eq (sys : System) (data : PacketData) :
    handleOutgoingPacket crc16_ccitt sys data =
      match sys.pkth.getHandler data.srcId with
      | none => .error .nullPointer
      | some source =>
          if OutgoingFits crc16_ccitt (sys.handler source).result data then
            match sys.pkth.getHandler data.destId with
            | none => .error .nullPointer
            | some slot =>
                .ok ((sys.modify source Handler.answered).deliver slot
                  (acceptPacket (outgoingPacket crc16_ccitt (sys.handler source).result data)))
          else .error .outOfBounds := by
  unfold handleOutgoingPacket
  cases sys.pkth.getHandler data.srcId with
  | none => rfl
  | some source =>
    -- resetting a result id that is zero changes nothing
    have hreset : (if (sys.handler source).result.id > 0 then
        sys.modify source fun handler ↦ { handler with result := { handler.result with id := 0 } }
        else sys) = sys.modify source Handler.answered := by
      split_ifs with hid
      · rfl
      · have hzero : (sys.handler source).result.id = 0 := by
          simpa using hid
        exact (sys.modify_eq_self source _ (Handler.answered_of_id hzero)).symm
    simp only [deref, bind, bind_ok, hreset, wrapPending_eq, bind_guard]
    by_cases hbody : data.msg.bufLen.toNat ≤ packetBufSize ∧
        (outgoingBody (sys.handler source).result data).length ≤ packetBufSize
    · have hlookup : (sys.modify source Handler.answered).pkth.getHandler data.destId =
          sys.pkth.getHandler data.destId :=
        sys.getHandler_modify source Handler.answered (fun _ ↦ rfl) data.destId
      simp only [if_pos hbody, wrapForTarget_eq crc16_ccitt _ _ hbody.2, bind_guard, hlookup]
      refine if_ctx_congr ?_ (fun hfits ↦ ?_) (fun _ ↦ rfl)
      · simp [OutgoingFits, outgoingPacket, hbody.1]
      · cases sys.pkth.getHandler data.destId with
        | none => rfl
        | some slot =>
          have hlength := hfits.2
          simp only [outgoingPacket] at hlength ⊢
          simp only [bind_ok, Buffer.memcpy_zero, Nat.zero_add, and_self, if_pos hlength,
            Buffer.slice_overlay _ hlength]
          rfl
    · rw [if_neg hbody, if_neg]
      intro hfits
      refine hbody ⟨hfits.1, ?_⟩
      have hlength := length_le_targetFrame crc16_ccitt data.destId
        (outgoingType (sys.handler source).result) (outgoingBody (sys.handler source).result data)
      exact (Nat.le_add_left _ _).trans (hlength.trans hfits.2)

section Outgoing

variable {sys : System} {data : PacketData} {source dest : Slot}

theorem handleOutgoingPacket_of_unknown_source (hsource : sys.pkth.getHandler data.srcId = none) :
    handleOutgoingPacket crc16_ccitt sys data = .error .nullPointer := by
  simp only [handleOutgoingPacket_eq, hsource]

/-- Outgoing data that does not fit is written behind the end of a buffer. -/
theorem handleOutgoingPacket_of_not_fits (hsource : sys.pkth.getHandler data.srcId = some source)
    (hfits : ¬ OutgoingFits crc16_ccitt (sys.handler source).result data) :
    handleOutgoingPacket crc16_ccitt sys data = .error .outOfBounds := by
  simp only [handleOutgoingPacket_eq, hsource, if_neg hfits]

theorem handleOutgoingPacket_of_unknown_dest
    (hsource : sys.pkth.getHandler data.srcId = some source)
    (hfits : OutgoingFits crc16_ccitt (sys.handler source).result data)
    (hdest : sys.pkth.getHandler data.destId = none) :
    handleOutgoingPacket crc16_ccitt sys data = .error .nullPointer := by
  simp only [handleOutgoingPacket_eq, hsource, if_pos hfits, hdest]

theorem handleOutgoingPacket_of_fits (hsource : sys.pkth.getHandler data.srcId = some source)
    (hfits : OutgoingFits crc16_ccitt (sys.handler source).result data)
    (hdest : sys.pkth.getHandler data.destId = some dest) :
    handleOutgoingPacket crc16_ccitt sys data =
      .ok ((sys.modify source Handler.answered).deliver dest
        (acceptPacket (outgoingPacket crc16_ccitt (sys.handler source).result data))) := by
  simp only [handleOutgoingPacket_eq, hsource, if_pos hfits, hdest]

end Outgoing

theorem toNat_bufLen_acceptPacket {packet : List UInt8} (h : packet.length ≤ packetBufSize)
    (handler : Handler) : (acceptPacket packet handler).msg.bufLen.toNat = packet.length :=
  UInt16.toNat_ofNat_of_lt' (h.trans_lt (by decide))

theorem contents_acceptPacket {packet : List UInt8} (h : packet.length ≤ packetBufSize)
    (handler : Handler) : (acceptPacket packet handler).msg.contents = packet := by
  rw [PacketBuffer.contents, toNat_bufLen_acceptPacket h]
  exact handler.msg.buf.slice_overlay h

/-! ## One packet -/

/-- The handler that a packet is dispatched to, if any. -/
def dispatchTarget (sys : System) (data : PacketData) : Option Slot :=
  match data.type with
  | .incoming => if IsControl data then sys.pkth.getHandler (incomingControl data).destId else none
  | .outgoing => sys.pkth.getHandler data.destId

/-- Everything that the packet thread can do with a packet. -/
theorem handlePacketData_cases {sys next : System} {data : PacketData}
    (h : handlePacketData crc16_ccitt sys data = .ok next) :
    (data.type = .incoming ∧ Loadable data ∧ ¬ IsControl data ∧ next = sys) ∨
    (∃ slot, data.type = .incoming ∧ Loadable data ∧ IsControl data ∧
      sys.pkth.getHandler (incomingControl data).destId = some slot ∧
      controlEnd data ≤ packetBufSize ∧ next = sys.deliver slot (acceptCommand data)) ∨
    ∃ source slot, data.type = .outgoing ∧ sys.pkth.getHandler data.srcId = some source ∧
      sys.pkth.getHandler data.destId = some slot ∧
      OutgoingFits crc16_ccitt (sys.handler source).result data ∧
      next = (sys.modify source Handler.answered).deliver slot
        (acceptPacket (outgoingPacket crc16_ccitt (sys.handler source).result data)) := by
  cases htype : data.type with
  | incoming =>
    simp only [handlePacketData, htype, handleIncomingPacket_eq] at h
    split at h
    · next hloadable =>
      split at h
      · next hcontrol =>
        split at h
        · cases h
        · next slot hslot =>
          obtain ⟨hend, rfl⟩ := guard_eq_ok.mp h
          exact .inr (.inl ⟨slot, rfl, hloadable, hcontrol, hslot, hend, rfl⟩)
      · next hcontrol =>
        cases h
        exact .inl ⟨rfl, hloadable, hcontrol, rfl⟩
    · cases h
  | outgoing =>
    simp only [handlePacketData, htype, handleOutgoingPacket_eq] at h
    split at h
    · cases h
    · next source hsource =>
      split at h
      · next hfits =>
        split at h
        · cases h
        · next slot hslot =>
          cases h
          exact .inr (.inr ⟨source, slot, rfl, hsource, hslot, hfits, rfl⟩)
      · cases h

/-- What the packet thread does with outgoing data. -/
theorem handlePacketData_outgoing {sys next : System} {data : PacketData}
    (h : handlePacketData crc16_ccitt sys data = .ok next) (htype : data.type = .outgoing) :
    ∃ source slot, sys.pkth.getHandler data.srcId = some source ∧
      sys.pkth.getHandler data.destId = some slot ∧
      OutgoingFits crc16_ccitt (sys.handler source).result data ∧
      next = (sys.modify source Handler.answered).deliver slot
        (acceptPacket (outgoingPacket crc16_ccitt (sys.handler source).result data)) := by
  obtain ⟨hincoming, -⟩ | ⟨_, hincoming, -⟩ | ⟨source, slot, -, houtgoing⟩ :=
    handlePacketData_cases crc16_ccitt h
  · cases htype.symm.trans hincoming
  · cases htype.symm.trans hincoming
  · exact ⟨source, slot, houtgoing⟩

/-- Handling a packet keeps every handler where lookups find it. -/
theorem getHandler_handlePacketData {sys next : System} {data : PacketData}
    (h : handlePacketData crc16_ccitt sys data = .ok next) (instId : InstanceId) :
    next.pkth.getHandler instId = sys.pkth.getHandler instId := by
  obtain ⟨-, -, -, rfl⟩ | ⟨slot, -, -, -, -, -, rfl⟩ | ⟨source, slot, -, -, -, -, rfl⟩ :=
    handlePacketData_cases crc16_ccitt h
  · rfl
  · exact sys.getHandler_deliver slot (acceptCommand data) (fun _ ↦ rfl) instId
  · have hdeliver := (sys.modify source Handler.answered).getHandler_deliver slot
      (acceptPacket (outgoingPacket crc16_ccitt (sys.handler source).result data)) (fun _ ↦ rfl)
      instId
    rw [hdeliver, sys.getHandler_modify source Handler.answered fun _ ↦ rfl]

/-- Outgoing data leaves every pending request but that of its source. -/
theorem result_deliver_acceptPacket (sys : System) (source slot other : Slot)
    (packet : List UInt8) :
    (((sys.modify source Handler.answered).deliver slot (acceptPacket packet)).handler other).result =
      if other = source then (sys.handler source).answered.result else (sys.handler other).result := by
  have hkeeps : (((sys.modify source Handler.answered).deliver slot
      (acceptPacket packet)).handler other).result =
      ((sys.modify source Handler.answered).handler other).result := by
    rw [System.handler_deliver]
    split_ifs with hother
    · rw [hother]
      rfl
    · rfl
  rw [hkeeps, System.handler_modify]
  split_ifs <;> rfl

theorem msg_deliver_acceptPacket (sys : System) (source : Slot) {slot other : Slot}
    (hother : other ≠ slot) (packet : List UInt8) :
    (((sys.modify source Handler.answered).deliver slot (acceptPacket packet)).handler other).msg =
      (sys.handler other).msg := by
  rw [System.handler_deliver, if_neg hother, System.handler_modify]
  split_ifs with hsource
  · rw [hsource]
    rfl
  · rfl

end CrownstoneRouter
