import CrownstoneRouter.Foundation.RequestSlot
import CrownstoneRouter.Foundation.Transition
import CrownstoneRouter.PacketHandling.Dispatch

/-!
# Requests and results

A control packet leaves its command type and request id in the handler that it is dispatched to, and
the next data of that handler is sent as the result of this request. For each device this is the
overwritable slot of `RequestSlot`: `deviceLog_run` shows that the control packets dispatched to a
device and the packets emitted for its data are the log of a slot, whatever the other devices do in
between. What is known about such logs decides which results are sent, and where.
-/

namespace CrownstoneRouter

open CheckedMemory CheckedRun LittleEndian

variable (crc16_ccitt : UInt16 → List UInt8 → UInt16)

/-! ## What is seen of a run -/

/-- The command type and request id that identify a request. -/
abbrev RequestLabel := UInt8 × UInt16

/-- The request that is pending, if there is one. -/
def PacketResult.label (result : PacketResult) : Option RequestLabel :=
  if result.id > 0 then some (result.type, result.id) else none

/-- A control packet that has been dispatched, or a packet that has been written to a handler for
the data of a device. -/
inductive Observation
  | command (destId : InstanceId) (request : PacketResult)
  | emitted (srcId destId : InstanceId) (packet : List UInt8)
  deriving DecidableEq

/-- The request that a control packet makes. -/
def acceptedRequest (data : PacketData) : PacketResult where
  type := (incomingControl data).commandType
  id := (incomingControl data).requestId

/-- What is seen of a packet that has been handled. -/
def observe (next : System) (data : PacketData) : List Observation :=
  match data.type with
  | .incoming =>
      if IsControl data then [.command (incomingControl data).destId (acceptedRequest data)]
      else []
  | .outgoing =>
      match next.pkth.getHandler data.destId with
      | some slot => [.emitted data.srcId data.destId (next.handler slot).msg.contents]
      | none => []

/-- The system and what has been seen so far. -/
structure RequestRun where
  sys : System
  log : List Observation

/-- A registry that no packet has been handled with. -/
def RequestRun.start (pkth : PacketHandler) : RequestRun where
  sys := .boot pkth
  log := []

def requestStep (state : RequestRun) (data : PacketData) : Checked RequestRun := do
  let next ← handlePacketData crc16_ccitt state.sys data
  return { sys := next, log := state.log ++ observe next data }

/-! ## Reading emitted packets -/

/-- The generic packet in a packet that has been written to a handler. -/
def genericPart (destId : InstanceId) (packet : List UInt8) : List UInt8 :=
  if destId = instanceIdUartCm4 then packet.drop 5 else packet

/-- The type of a packet that has been written to a handler. -/
def packetType (destId : InstanceId) (packet : List UInt8) : UInt8 :=
  (genericPart destId packet).getD 1 0

/-- The request that a packet is the result of, if it is a result packet. -/
def resultLabel (destId : InstanceId) (packet : List UInt8) : Option RequestLabel :=
  let generic := genericPart destId packet
  if packetType destId packet = genericTypeResult then
    some (generic.getD 4 0, getLe16 (generic.getD 6 0) (generic.getD 7 0))
  else none

/-- The device whose data a packet carries, if it is a data packet. -/
def dataSource (destId : InstanceId) (packet : List UInt8) : Option InstanceId :=
  if packetType destId packet = genericTypeData then some ((genericPart destId packet).getD 4 0)
  else none

theorem genericPart_targetFrame (destId : InstanceId) (type : UInt8) (body : List UInt8) :
    ∃ rest, genericPart destId (targetFrame crc16_ccitt destId type body) =
      genericFrame type body ++ rest := by
  unfold genericPart targetFrame
  split_ifs
  · exact ⟨_, by simp [uartFrame, uartCovered, lengthField, putLe16]; rfl⟩
  · exact ⟨[], (List.append_nil _).symm⟩

theorem genericPart_outgoingPacket (result : PacketResult) (data : PacketData) :
    ∃ rest, genericPart data.destId (outgoingPacket crc16_ccitt result data) =
      genericFrame (outgoingType result) (outgoingBody result data) ++ rest :=
  genericPart_targetFrame crc16_ccitt data.destId (outgoingType result) (outgoingBody result data)

@[simp]
theorem packetType_outgoingPacket (result : PacketResult) (data : PacketData) :
    packetType data.destId (outgoingPacket crc16_ccitt result data) = outgoingType result := by
  obtain ⟨rest, hgeneric⟩ := genericPart_outgoingPacket crc16_ccitt result data
  simp [packetType, hgeneric, genericFrame]

/-- A packet is the result of the request that is pending, if there is one. -/
@[simp]
theorem resultLabel_outgoingPacket (result : PacketResult) (data : PacketData) :
    resultLabel data.destId (outgoingPacket crc16_ccitt result data) = result.label := by
  obtain ⟨rest, hgeneric⟩ := genericPart_outgoingPacket crc16_ccitt result data
  by_cases hid : result.id > 0
  · have htype : outgoingType result = genericTypeResult := if_pos hid
    have hbody : outgoingBody result data =
        resultFrame result.type data.resultCode result.id data.msg.contents := if_pos hid
    simp [resultLabel, htype, hgeneric, hbody, genericFrame, resultFrame, lengthField, putLe16,
      PacketResult.label, hid]
  · have htype : outgoingType result = genericTypeData := if_neg hid
    rw [resultLabel, packetType_outgoingPacket, htype, PacketResult.label, if_neg hid]
    exact if_neg (by decide)

theorem dataSource_outgoingPacket {result : PacketResult} (hlabel : result.label = none)
    (data : PacketData) :
    dataSource data.destId (outgoingPacket crc16_ccitt result data) = some data.srcId := by
  obtain ⟨rest, hgeneric⟩ := genericPart_outgoingPacket crc16_ccitt result data
  have hid : ¬ result.id > 0 := by
    simpa [PacketResult.label] using hlabel
  have htype : outgoingType result = genericTypeData := if_neg hid
  have hbody : outgoingBody result data = dataFrame data.srcId data.msg.contents := if_neg hid
  simp [dataSource, htype, hgeneric, hbody, genericFrame, dataFrame, lengthField, putLe16]

/-! ## The slot of a device -/

/-- What a packet means for the pending request of a device, if it concerns the device. -/
def deviceOp (device : InstanceId) (data : PacketData) : Option (RequestSlot.Op RequestLabel) :=
  match data.type with
  | .incoming =>
      if IsControl data ∧ (incomingControl data).destId = device then
        some (.command (acceptedRequest data).label)
      else none
  | .outgoing => if data.srcId = device then some .reply else none

/-- The commands and replies of a device among some packets. -/
def deviceOps (device : InstanceId) (packets : List PacketData) :
    List (RequestSlot.Op RequestLabel) :=
  packets.filterMap (deviceOp device)

/-- What is seen of a device. -/
def deviceEntry (device : InstanceId) : Observation → Option (RequestSlot.Entry RequestLabel)
  | .command destId request => if destId = device then some (.command request.label) else none
  | .emitted srcId destId packet =>
      if srcId = device then some (.answer (resultLabel destId packet)) else none

/-- The commands dispatched to a device and the packets emitted for its data. -/
def deviceLog (device : InstanceId) (log : List Observation) :
    List (RequestSlot.Entry RequestLabel) :=
  log.filterMap (deviceEntry device)

/-- The request pending at a device. -/
def pending (sys : System) (device : InstanceId) : Option RequestLabel :=
  match sys.pkth.getHandler device with
  | some slot => (sys.handler slot).result.label
  | none => none

section Simulation

variable {crc16_ccitt} {sys next : System} {data : PacketData}

theorem result_deliver_acceptCommand (sys : System) (slot other : Slot) (data : PacketData) :
    ((sys.deliver slot (acceptCommand data)).handler other).result =
      if other = slot then acceptedRequest data else (sys.handler other).result := by
  rw [System.handler_deliver]
  split_ifs <;> rfl

theorem pending_of_getHandler {device : InstanceId} {slot : Slot}
    (h : sys.pkth.getHandler device = some slot) :
    pending sys device = (sys.handler slot).result.label := by
  simp [pending, h]

/-- Changing what is pending at one handler changes the request pending at one device. -/
theorem pending_of_update
    (hlookup : ∀ instId, next.pkth.getHandler instId = sys.pkth.getHandler instId)
    {owner : InstanceId} {slot : Slot} (hslot : sys.pkth.getHandler owner = some slot)
    {result : PacketResult} (hresult : ∀ other, (next.handler other).result =
      if other = slot then result else (sys.handler other).result) (device : InstanceId) :
    pending next device = if owner = device then result.label else pending sys device := by
  unfold pending
  rw [hlookup]
  cases hdevice : sys.pkth.getHandler device with
  | none =>
    have hne : owner ≠ device := by
      rintro rfl
      simp [hslot] at hdevice
    rw [if_neg hne]
  | some other =>
    have hiff : other = slot ↔ owner = device :=
      eq_comm.trans (PacketHandler.getHandler_eq_iff hslot hdevice)
    simp only [hresult, hiff]
    split_ifs <;> rfl

/-- Handling a packet acts on the request pending at a device like a slot operation, if the packet
concerns the device, and else not at all. -/
theorem pending_handlePacketData (h : handlePacketData crc16_ccitt sys data = .ok next)
    (device : InstanceId) :
    pending next device =
      (deviceOp device data).elim (pending sys device) RequestSlot.next := by
  have hlookup := getHandler_handlePacketData crc16_ccitt h
  obtain ⟨htype, -, hcontrol, rfl⟩ | ⟨slot, htype, -, hcontrol, hslot, -, rfl⟩ |
    ⟨source, slot, htype, hsource, -, -, rfl⟩ := handlePacketData_cases crc16_ccitt h
  · simp [deviceOp, htype, hcontrol]
  · rw [pending_of_update hlookup hslot fun other ↦
      result_deliver_acceptCommand sys slot other data]
    simp only [deviceOp, htype, hcontrol, true_and]
    split_ifs <;> rfl
  · rw [pending_of_update hlookup hsource fun other ↦
      result_deliver_acceptPacket sys source slot other _]
    simp only [deviceOp, htype]
    split_ifs <;> rfl

theorem observe_outgoing (h : handlePacketData crc16_ccitt sys data = .ok next)
    (htype : data.type = .outgoing) {source : Slot}
    (hsource : sys.pkth.getHandler data.srcId = some source) :
    observe next data = [.emitted data.srcId data.destId
      (outgoingPacket crc16_ccitt (sys.handler source).result data)] := by
  have hlookup := getHandler_handlePacketData crc16_ccitt h data.destId
  obtain ⟨other, slot, hother, hslot, hfits, rfl⟩ := handlePacketData_outgoing crc16_ccitt h htype
  obtain rfl : source = other := Option.some.inj (hsource.symm.trans hother)
  simp only [observe, htype, hlookup, hslot, System.handler_deliver, if_true,
    contents_acceptPacket hfits.2]

/-- What is seen of a packet is what is seen of the slot operation. -/
theorem deviceLog_observe (h : handlePacketData crc16_ccitt sys data = .ok next)
    (device : InstanceId) :
    deviceLog device (observe next data) =
      ((deviceOp device data).map (RequestSlot.entry (pending sys device))).toList := by
  obtain ⟨htype, -, hcontrol, rfl⟩ | ⟨slot, htype, -, hcontrol, hslot, -, rfl⟩ |
    ⟨source, slot, htype, hsource, hslot, hfits, rfl⟩ := handlePacketData_cases crc16_ccitt h
  · simp [observe, deviceOp, htype, hcontrol, deviceLog]
  · simp only [observe, deviceOp, htype, hcontrol, true_and, if_true, deviceLog]
    split_ifs with hdevice <;> simp [deviceEntry, hdevice, RequestSlot.entry]
  · rw [observe_outgoing h htype hsource]
    simp only [deviceOp, htype, deviceLog]
    split_ifs with hdevice
    · have hpending := pending_of_getHandler (hdevice ▸ hsource)
      simp [deviceEntry, hdevice, RequestSlot.entry, hpending]
    · simp [deviceEntry, hdevice]

end Simulation

/-! ## Runs -/

section Runs

variable {crc16_ccitt} {state next last : RequestRun} {data : PacketData}
  {packets : List PacketData}

theorem requestStep_eq_ok :
    requestStep crc16_ccitt state data = .ok next ↔
      ∃ sys, handlePacketData crc16_ccitt state.sys data = .ok sys ∧
        { sys, log := state.log ++ observe sys data } = next := by
  simp [requestStep, bind, bind_eq_ok, pure, Except.pure]

/-- Over a run the log of a device grows by the log of a slot, from the request pending at first. -/
theorem deviceLog_run (hrun : run (requestStep crc16_ccitt) state packets = .ok last)
    (device : InstanceId) :
    deviceLog device last.log = deviceLog device state.log ++
      RequestSlot.log (pending state.sys device) (deviceOps device packets) := by
  induction packets generalizing state with
  | nil =>
    cases hrun
    simp [deviceOps, RequestSlot.log]
  | cons data packets ih =>
    obtain ⟨next, hstep, hrest⟩ := run_cons_eq_ok.mp hrun
    obtain ⟨sys, hhandle, rfl⟩ := requestStep_eq_ok.mp hstep
    calc
      deviceLog device last.log =
          deviceLog device (state.log ++ observe sys data) ++
            RequestSlot.log (pending sys device) (deviceOps device packets) := ih hrest
      _ = deviceLog device state.log ++ (deviceLog device (observe sys data) ++
            RequestSlot.log (pending sys device) (deviceOps device packets)) := by
        simp [deviceLog]
      _ = deviceLog device state.log ++
            RequestSlot.log (pending state.sys device) (deviceOps device (data :: packets)) := by
        rw [deviceLog_observe hhandle, pending_handlePacketData hhandle, deviceOps, deviceOps]
        cases hop : deviceOp device data <;> simp [hop, RequestSlot.log]

/-- Over a run the request pending at a device changes with the operations of the device only. -/
theorem pending_run {sys last : System}
    (hrun : run (handlePacketData crc16_ccitt) sys packets = .ok last) (device : InstanceId) :
    pending last device =
      (deviceOps device packets).foldl (fun _ op ↦ RequestSlot.next op) (pending sys device) := by
  induction packets generalizing sys with
  | nil =>
    cases hrun
    rfl
  | cons data packets ih =>
    obtain ⟨next, hstep, hrest⟩ := run_cons_eq_ok.mp hrun
    rw [ih hrest, pending_handlePacketData hstep, deviceOps, deviceOps]
    cases hop : deviceOp device data <;> simp [hop]

theorem pending_boot {pkth : PacketHandler} (hfresh : pkth.Fresh) (device : InstanceId) :
    pending (.boot pkth) device = none := by
  unfold pending
  cases hslot : (System.boot pkth).pkth.getHandler device with
  | none => rfl
  | some slot =>
    obtain ⟨instId, inst, cb, hnew⟩ := hfresh.used slot (PacketHandler.getHandler_spec hslot).1
    simp [System.boot, System.handler, hnew, PacketHandler.newHandler, PacketResult.label]

theorem deviceLog_start {pkth : PacketHandler} (hfresh : pkth.Fresh)
    (hrun : run (requestStep crc16_ccitt) (.start pkth) packets = .ok last) (device : InstanceId) :
    deviceLog device last.log = RequestSlot.log none (deviceOps device packets) := by
  rw [deviceLog_run hrun device, ← pending_boot hfresh device]
  rfl

/-- Every emitted packet that is no result is a data packet of its source. -/
def ResultOrData (log : List Observation) : Prop :=
  ∀ srcId destId packet, .emitted srcId destId packet ∈ log →
    resultLabel destId packet = none → dataSource destId packet = some srcId

theorem resultOrData_observe {sys next : System}
    (h : handlePacketData crc16_ccitt sys data = .ok next) : ResultOrData (observe next data) := by
  intro srcId destId packet hmem hlabel
  obtain ⟨htype, -, hcontrol, -⟩ | ⟨slot, htype, -, hcontrol, -⟩ |
    ⟨source, slot, htype, hsource, -⟩ := handlePacketData_cases crc16_ccitt h
  · simp [observe, htype, hcontrol] at hmem
  · simp [observe, htype, hcontrol] at hmem
  · rw [observe_outgoing h htype hsource, List.mem_singleton] at hmem
    obtain ⟨rfl, rfl, rfl⟩ := Observation.emitted.inj hmem
    rw [resultLabel_outgoingPacket] at hlabel
    exact dataSource_outgoingPacket crc16_ccitt hlabel data

theorem resultOrData_run {pkth : PacketHandler}
    (hrun : run (requestStep crc16_ccitt) (.start pkth) packets = .ok last) :
    ResultOrData last.log := by
  refine run_invariant (fun state ↦ ResultOrData state.log) (fun hbefore hstep ↦ ?_) ?_ hrun
  · obtain ⟨sys, hhandle, rfl⟩ := requestStep_eq_ok.mp hstep
    intro srcId destId packet hmem
    rcases List.mem_append.mp hmem with hold | hnew
    · exact hbefore srcId destId packet hold
    · exact resultOrData_observe hhandle srcId destId packet hnew
  · intro srcId destId packet hmem
    cases hmem

end Runs

/-! ## Results are never invented -/

/-- The destination of an incoming control packet is registered, and the packet lies in its
buffer. -/
def RegularIncoming (sys : System) (data : PacketData) : Prop :=
  Loadable data ∧ (IsControl data →
    (∃ slot, sys.pkth.getHandler (incomingControl data).destId = some slot) ∧
      controlEnd data ≤ packetBufSize)

/-- Source and destination of outgoing data are registered, and the packet made of it fits. -/
def RegularOutgoing (sys : System) (data : PacketData) : Prop :=
  (∃ source, sys.pkth.getHandler data.srcId = some source ∧
    OutgoingFits crc16_ccitt (sys.handler source).result data) ∧
    ∃ slot, sys.pkth.getHandler data.destId = some slot

/-- All ids that a packet uses are registered, and the packet fits the buffers. -/
def Regular (sys : System) (data : PacketData) : Prop :=
  (data.type = .incoming → RegularIncoming sys data) ∧
    (data.type = .outgoing → RegularOutgoing crc16_ccitt sys data)

instance (sys : System) (data : PacketData) : Decidable (RegularIncoming sys data) :=
  inferInstanceAs (Decidable (_ ∧ (_ → (∃ _ : Slot, _) ∧ _)))

instance (sys : System) (data : PacketData) : Decidable (RegularOutgoing crc16_ccitt sys data) :=
  inferInstanceAs (Decidable ((∃ _ : Slot, _ ∧ _) ∧ ∃ _ : Slot, _))

instance (sys : System) (data : PacketData) : Decidable (Regular crc16_ccitt sys data) :=
  inferInstanceAs (Decidable ((_ → _) ∧ (_ → _)))

/-- Regular packets are handled. -/
theorem handlePacketData_of_regular {sys : System} {data : PacketData}
    (h : Regular crc16_ccitt sys data) :
    ∃ next, handlePacketData crc16_ccitt sys data = .ok next := by
  unfold handlePacketData
  cases htype : data.type with
  | incoming =>
    obtain ⟨hloadable, hregular⟩ := h.1 htype
    by_cases hcontrol : IsControl data
    · obtain ⟨⟨slot, hslot⟩, hend⟩ := hregular hcontrol
      exact ⟨_, (handleIncomingPacket_of_control hloadable hcontrol hslot).trans (if_pos hend)⟩
    · exact ⟨sys, handleIncomingPacket_of_not_control hloadable hcontrol⟩
  | outgoing =>
    obtain ⟨⟨source, hsource, hfits⟩, slot, hslot⟩ := h.2 htype
    simp only [handleOutgoingPacket_eq, hsource, hslot, if_pos hfits]
    exact ⟨_, rfl⟩

/-- What a device's results have to do with the commands dispatched to it. -/
structure HonestResults (device : InstanceId) (log : List Observation) : Prop where
  /-- No request is answered more often than it was made. -/
  counted : ∀ id : UInt16, id > 0 →
    RequestSlot.answerCount (fun label ↦ label.2 == id) (deviceLog device log) ≤
      RequestSlot.commandCount (fun label ↦ label.2 == id) (deviceLog device log)
  /-- A result carries the command type and request id of the last command. -/
  labelled : ∀ before label after,
    deviceLog device log = before ++ .answer (some label) :: after →
      RequestSlot.lastCommand before = some (some label)
  /-- After a result no packet is a result until there is a command with a request id. -/
  spent : ∀ before label between answered after,
    deviceLog device log =
      before ++ .answer (some label) :: (between ++ .answer answered :: after) →
      (∀ label, .command (some label) ∉ between) → answered = none
  /-- What is not sent as a result is sent as data. -/
  data : ResultOrData log

theorem honestResults_run {pkth : PacketHandler} (hfresh : pkth.Fresh) {packets : List PacketData}
    {last : RequestRun} (hrun : run (requestStep crc16_ccitt) (.start pkth) packets = .ok last)
    (device : InstanceId) : HonestResults device last.log := by
  have hlog := deviceLog_start hfresh hrun device
  refine ⟨fun id _ ↦ ?_, fun before label after h ↦ ?_,
    fun before label between answered after h ↦ ?_, resultOrData_run hrun⟩
  · rw [hlog]
    exact RequestSlot.answerCount_log_le _ none (deviceOps device packets)
  · exact RequestSlot.lastCommand_of_answer rfl (hlog.symm.trans h)
  · exact RequestSlot.answer_eq_none (hlog.symm.trans h)

/-- Over a registry built by registrations regular packets in any order are handled, and in every
run no result is invented, duplicated or labelled with a stale command. -/
theorem results_never_invented {handlers : Slot → Handler}
    {cells : Fin (msgqBufSize / sizeofPacketData) → Option PacketData}
    {registrations : List (InstanceId × Address × Address)} {pkth : PacketHandler}
    (hregister : (PacketHandler.booted handlers cells).registerAll registrations = .ok pkth)
    (packets : List PacketData) :
    (Along (requestStep crc16_ccitt) (fun state data ↦ Regular crc16_ccitt state.sys data)
        (.start pkth) packets →
      ∃ last, run (requestStep crc16_ccitt) (.start pkth) packets = .ok last) ∧
    ∀ last, run (requestStep crc16_ccitt) (.start pkth) packets = .ok last →
      ∀ device, HonestResults device last.log := by
  have hfresh := (PacketHandler.fresh_booted handlers cells).registerAll hregister
  refine ⟨fun hregular ↦ ?_, fun last hrun ↦ honestResults_run crc16_ccitt hfresh hrun⟩
  have hreturns := run_returns_along (fun _ : RequestRun ↦ True)
    (fun {state data} _ hpacket ↦ ?_) trivial hregular
  · obtain ⟨last, hrun, -⟩ := hreturns
    exact ⟨last, hrun⟩
  · obtain ⟨next, hhandle⟩ := handlePacketData_of_regular crc16_ccitt hpacket
    exact ⟨_, requestStep_eq_ok.mpr ⟨next, hhandle, rfl⟩, trivial⟩

/-- A request of the cloud, its result and the data after it. -/
def requestAndReplies : List PacketData :=
  [cloudControl 6 instanceIdUartRs485 7 [1],
    peripheralData instanceIdUartRs485 instanceIdCloud [2],
    peripheralData instanceIdUartRs485 instanceIdCloud [3]]

/-- A request is answered once, and what is sent after it is data. -/
theorem results_never_invented_of_request :
    Along (requestStep zephyrCrc16Ccitt)
      (fun state data ↦ Regular zephyrCrc16Ccitt state.sys data)
      (.start (PacketHandler.routerRegistry [])) requestAndReplies ∧
    ∃ last, run (requestStep zephyrCrc16Ccitt) (.start (PacketHandler.routerRegistry []))
      requestAndReplies = .ok last ∧
      deviceLog instanceIdUartRs485 last.log =
        [.command (some (6, 7)), .answer (some (6, 7)), .answer none] ∧
      ∀ device, HonestResults device last.log := by
  have hresults := results_never_invented zephyrCrc16Ccitt
    (show (PacketHandler.booted PacketHandler.zeroedHandlers PacketHandler.zeroedCells).registerAll
      (PacketHandler.routerHandlers ++ []) = .ok (PacketHandler.routerRegistry []) from rfl)
    requestAndReplies
  exact ⟨by decide +kernel, _, rfl, by decide +kernel, hresults.2 _ rfl⟩

/-! ## Requests are answered under their own ids -/

/-- Every packet of a device is the result of the request it answers, or data if it answers a
command without a request id. -/
def AnsweredUnderOwnIds (device : InstanceId) (log : List Observation) : Prop :=
  RequestSlot.AnswersMatch [] (deviceLog device log) ∧ ResultOrData log

/-- A device that answers its commands in order answers them under their own ids if each command
finds all earlier ones answered, or carries no request id and no unanswered one does. If it answers
every command, it answers them under their own ids only then. -/
theorem answered_under_own_ids_iff {pkth : PacketHandler} (hfresh : pkth.Fresh)
    {packets : List PacketData} {last : RequestRun}
    (hrun : run (requestStep crc16_ccitt) (.start pkth) packets = .ok last) (device : InstanceId) :
    (RequestSlot.RepliesInOrder [] (deviceOps device packets) →
      RequestSlot.OneAtATime [] (deviceOps device packets) →
      AnsweredUnderOwnIds device last.log) ∧
    (RequestSlot.RepliesEach [] (deviceOps device packets) →
      (AnsweredUnderOwnIds device last.log ↔
        RequestSlot.OneAtATime [] (deviceOps device packets))) := by
  have hlog := deviceLog_start hfresh hrun device
  have hdata := resultOrData_run hrun
  have hmatches (horder : RequestSlot.RepliesInOrder [] (deviceOps device packets))
      (hone : RequestSlot.OneAtATime [] (deviceOps device packets)) :
      AnsweredUnderOwnIds device last.log := by
    refine ⟨?_, hdata⟩
    rw [hlog]
    exact RequestSlot.answersMatch_log (.inr ⟨rfl, by simp⟩) horder hone
  refine ⟨hmatches, fun heach ↦ ⟨fun h ↦ ?_, hmatches heach.repliesInOrder⟩⟩
  have hmatch := h.1
  rw [hlog] at hmatch
  exact RequestSlot.oneAtATime_of_answersMatch heach hmatch

def requestsInTurn : List PacketData :=
  [cloudControl 6 instanceIdUartRs485 1 [], peripheralData instanceIdUartRs485 instanceIdCloud [1],
    cloudControl 6 instanceIdUartRs485 2 [], peripheralData instanceIdUartRs485 instanceIdCloud [2]]

/-- Requests made in turn are answered under their own ids. -/
theorem answered_under_own_ids_of_turns :
    ∃ last, run (requestStep zephyrCrc16Ccitt) (.start (PacketHandler.routerRegistry []))
      requestsInTurn = .ok last ∧ AnsweredUnderOwnIds instanceIdUartRs485 last.log := by
  have hreturns : ∃ last, run (requestStep zephyrCrc16Ccitt)
      (.start (PacketHandler.routerRegistry [])) requestsInTurn = .ok last := ⟨_, rfl⟩
  have hops : deviceOps instanceIdUartRs485 requestsInTurn =
      [.command (some (6, 1)), .reply, .command (some (6, 2)), .reply] := by decide +kernel
  obtain ⟨last, hrun⟩ := hreturns
  have hanswers := answered_under_own_ids_iff zephyrCrc16Ccitt
    (PacketHandler.fresh_routerRegistry []) hrun instanceIdUartRs485
  rw [hops] at hanswers
  exact ⟨last, hrun, (hanswers.2 rfl).mpr (by simp [RequestSlot.OneAtATime])⟩

/-- Two requests, the second of which is made before the first one is answered. -/
def overlappingRequests : List PacketData :=
  [cloudControl 6 instanceIdUartRs485 1 [], cloudControl 6 instanceIdUartRs485 2 [],
    peripheralData instanceIdUartRs485 instanceIdCloud [1],
    peripheralData instanceIdUartRs485 instanceIdCloud [2]]

/-- Every request is answered, but the reply to the first one is sent as the result of the second
one, and the reply to the second one as data. -/
theorem overlapping_requests_mixed :
    ∃ last, run (requestStep zephyrCrc16Ccitt) (.start (PacketHandler.routerRegistry []))
      overlappingRequests = .ok last ∧
      RequestSlot.RepliesEach [] (deviceOps instanceIdUartRs485 overlappingRequests) ∧
      deviceLog instanceIdUartRs485 last.log =
        [.command (some (6, 1)), .command (some (6, 2)), .answer (some (6, 2)), .answer none] ∧
      ¬ AnsweredUnderOwnIds instanceIdUartRs485 last.log := by
  have hreturns : ∃ last, run (requestStep zephyrCrc16Ccitt)
      (.start (PacketHandler.routerRegistry [])) overlappingRequests = .ok last ∧
      deviceLog instanceIdUartRs485 last.log =
        [.command (some (6, 1)), .command (some (6, 2)), .answer (some (6, 2)), .answer none] :=
    ⟨_, rfl, by decide +kernel⟩
  have hops : deviceOps instanceIdUartRs485 overlappingRequests =
      [.command (some (6, 1)), .command (some (6, 2)), .reply, .reply] := by decide +kernel
  obtain ⟨last, hrun, hlog⟩ := hreturns
  refine ⟨last, hrun, ?_, hlog, fun h ↦ ?_⟩
  · rw [hops]
    rfl
  · have hmatch := h.1
    rw [hlog] at hmatch
    simp [RequestSlot.AnswersMatch] at hmatch

/-! ## Results return to the requester -/

/-- The last thing that happened is that a result packet was written to the handler of the
requester, in its framing, and submitted. -/
def ReturnsTo (sys : System) (requester : InstanceId) (result : List UInt8) : Prop :=
  ∃ slot, sys.pkth.getHandler requester = some slot ∧
    (sys.handler slot).msg.contents =
      targetFrame crc16_ccitt requester genericTypeResult result ∧
    sys.trace.getLast? =
      some (.submit slot (targetFrame crc16_ccitt requester genericTypeResult result))

instance (sys : System) (requester : InstanceId) (result : List UInt8) :
    Decidable (ReturnsTo crc16_ccitt sys requester result) :=
  inferInstanceAs (Decidable (∃ _, _))

section Route

variable {sys middle last : System}

theorem getHandler_run {packets : List PacketData}
    (hrun : run (handlePacketData crc16_ccitt) sys packets = .ok last) (instId : InstanceId) :
    last.pkth.getHandler instId = sys.pkth.getHandler instId :=
  run_invariant (fun state ↦ state.pkth.getHandler instId = sys.pkth.getHandler instId)
    (fun hbefore hstep ↦ (getHandler_handlePacketData crc16_ccitt hstep instId).trans hbefore)
    rfl hrun

/-- A pending request is answered with a result packet in the framing of the destination. -/
theorem outgoingPacket_of_label {result : PacketResult} {type : UInt8} {id : UInt16}
    (hlabel : result.label = some (type, id)) (data : PacketData) :
    outgoingPacket crc16_ccitt result data =
      targetFrame crc16_ccitt data.destId genericTypeResult
        (resultFrame type data.resultCode id data.msg.contents) := by
  unfold PacketResult.label at hlabel
  split_ifs at hlabel with hid
  obtain ⟨rfl, rfl⟩ := Prod.mk.inj (Option.some.inj hlabel)
  simp [outgoingPacket, outgoingType, outgoingBody, hid]

/-- The reply to a pending request goes to the handler that the driver names, and so to the
requester exactly if the driver names the requester. -/
theorem returnsTo_iff_of_pending {reply : PacketData} {requester : InstanceId} {slot : Slot}
    (hrequester : middle.pkth.getHandler requester = some slot)
    (htype : reply.type = .outgoing) {type : UInt8} {id : UInt16}
    (hpending : pending middle reply.srcId = some (type, id))
    (hreply : handlePacketData crc16_ccitt middle reply = .ok last) :
    ReturnsTo crc16_ccitt last requester
        (resultFrame type reply.resultCode id reply.msg.contents) ↔
      reply.destId = requester := by
  have hlookup := getHandler_handlePacketData crc16_ccitt hreply
  obtain ⟨source, target, hsource, htarget, hfits, rfl⟩ :=
    handlePacketData_outgoing crc16_ccitt hreply htype
  have hpacket := outgoingPacket_of_label crc16_ccitt
    ((pending_of_getHandler hsource).symm.trans hpending) reply
  have hcontents := contents_acceptPacket hfits.2
  have hiff := PacketHandler.getHandler_eq_iff htarget hrequester
  constructor
  · rintro ⟨other, hother, -, hlast⟩
    obtain rfl : slot = other := by
      rw [hlookup, hrequester] at hother
      exact Option.some.inj hother
    simp only [System.trace_deliver, List.getLast?_concat, Option.some.injEq,
      Mailbox.Event.submit.injEq] at hlast
    exact hiff.mp hlast.1
  · rintro rfl
    refine ⟨target, (hlookup _).trans htarget, ?_, ?_⟩
    · rw [System.handler_deliver, if_pos rfl]
      exact (hcontents _).trans hpacket
    · rw [System.trace_deliver, List.getLast?_concat, hcontents, hpacket]

end Route

/-- After a control packet with a request id has been dispatched, and before anything else concerns
its destination, the driver of the destination sends a packet. The result packet made of it goes to
the requester that the control packet names, in its framing, exactly if the driver names the
requester as the destination of its packets. -/
theorem result_returns_iff {sys middle last : System} {control reply : PacketData}
    {between : List PacketData} {requester : Slot}
    (htype : control.type = .incoming) (hcontrol : IsControl control)
    (hid : (incomingControl control).requestId > 0)
    (hrequester : sys.pkth.getHandler (incomingControl control).srcId = some requester)
    (hrun : run (handlePacketData crc16_ccitt) sys (control :: between) = .ok middle)
    (hbetween : deviceOps (incomingControl control).destId between = [])
    (hreply : reply.type = .outgoing) (hsource : reply.srcId = (incomingControl control).destId)
    (hlast : handlePacketData crc16_ccitt middle reply = .ok last) :
    ReturnsTo crc16_ccitt last (incomingControl control).srcId
        (resultFrame (incomingControl control).commandType reply.resultCode
          (incomingControl control).requestId reply.msg.contents) ↔
      reply.destId = (incomingControl control).srcId := by
  have hop : deviceOp (incomingControl control).destId control =
      some (.command (acceptedRequest control).label) := by
    simp [deviceOp, htype, hcontrol]
  have hpending : pending middle reply.srcId =
      some ((incomingControl control).commandType, (incomingControl control).requestId) := by
    have hrunPending := pending_run hrun reply.srcId
    rw [hsource] at hrunPending ⊢
    simpa [deviceOps, hop, show List.filterMap _ between = [] from hbetween, RequestSlot.next,
      PacketResult.label, acceptedRequest, hid] using hrunPending
  exact returnsTo_iff_of_pending crc16_ccitt ((getHandler_run crc16_ccitt hrun _).trans hrequester)
    hreply hpending hlast

def cm4Registry : PacketHandler :=
  PacketHandler.routerRegistry [(instanceIdUartCm4, 4, 4)]

def cm4Request : PacketData :=
  cm4Message (controlUartFrame zephyrCrc16Ccitt 6 instanceIdUartCm4 instanceIdUartRs485 1 [])

/-- The result of a request of the CM4 returns if the driver of RS485 sends to the CM4. -/
theorem result_returns_of_cm4_driver :
    ∃ middle last, run (handlePacketData zephyrCrc16Ccitt) (.boot cm4Registry) [cm4Request] =
        .ok middle ∧
      handlePacketData zephyrCrc16Ccitt middle
        (peripheralData instanceIdUartRs485 instanceIdUartCm4 [2]) = .ok last ∧
      ReturnsTo zephyrCrc16Ccitt last instanceIdUartCm4 (resultFrame 6 0 1 [2]) := by
  have hmiddle : ∃ middle, run (handlePacketData zephyrCrc16Ccitt) (.boot cm4Registry)
      [cm4Request] = .ok middle ∧ ∃ last, handlePacketData zephyrCrc16Ccitt middle
        (peripheralData instanceIdUartRs485 instanceIdUartCm4 [2]) = .ok last := ⟨_, rfl, _, rfl⟩
  obtain ⟨middle, hrun, last, hlast⟩ := hmiddle
  have hrequester : ∃ slot, (System.boot cm4Registry).pkth.getHandler
      (incomingControl cm4Request).srcId = some slot := ⟨3, by decide +kernel⟩
  obtain ⟨requester, hrequester⟩ := hrequester
  have hreturns := result_returns_iff zephyrCrc16Ccitt rfl (by decide +kernel) (by decide +kernel)
    hrequester hrun rfl rfl (by decide +kernel) hlast
  exact ⟨middle, last, hrun, hlast, hreturns.mpr (by decide +kernel)⟩

/-- The result of a request of the CM4 goes to the cloud if the driver of RS485 sends to the
cloud. -/
theorem cm4_request_answered_to_cloud :
    ∃ middle last, run (handlePacketData zephyrCrc16Ccitt) (.boot cm4Registry) [cm4Request] =
        .ok middle ∧
      handlePacketData zephyrCrc16Ccitt middle
        (peripheralData instanceIdUartRs485 instanceIdCloud [2]) = .ok last ∧
      ReturnsTo zephyrCrc16Ccitt last instanceIdCloud (resultFrame 6 0 1 [2]) ∧
      ¬ ReturnsTo zephyrCrc16Ccitt last instanceIdUartCm4 (resultFrame 6 0 1 [2]) :=
  ⟨_, _, rfl, rfl, by decide +kernel, by decide +kernel⟩

end CrownstoneRouter
