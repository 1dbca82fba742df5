import CrownstoneRouter.Router.Bringup
import CrownstoneRouter.Router.Handover
import CrownstoneRouter.Router.PortTurns

/-!
# The router serves dialogues

Under every schedule of its actors the router does in a polite dialogue what the dialogue says, for
as long as its packet queue has slots that have not been used, and faults when it has not.
-/

namespace CrownstoneRouter

open CheckedMemory CheckedRun LittleEndian

variable {hex2bin : Hex2Bin} {crc16_ccitt : UInt16 → List UInt8 → UInt16} {text : BtAddrText}

/-! ## What a turn looks like inside of the router -/

/-- The packet of a request of the cloud. -/
def Request.packet (request : Request) : PacketData where
  type := .incoming
  destId := 0
  srcId := instanceIdCloud
  resultCode := 0
  msg := .ofBytes request.message

/-- The request that is pending at a handler. -/
def PacketResult.Notes (result : PacketResult) : Option Request → Prop
  | some request => result = { type := request.commandType, id := request.requestId }
  | none => result.id = 0

namespace Turn

/-- What the packet thread has not seen. -/
def queued : Turn → List PacketData
  | .requested request => [request.packet]
  | .replied _ line => [replyPacket line]
  | _ => []

/-- What the work queue has still to run. -/
def workq (cloud rs485 : Slot) : Turn → List Slot
  | .commanded _ => [rs485]
  | .answered _ _ => [cloud]
  | _ => []

/-- What the handlers of the cloud and of the port hold. -/
def Held (turn : Turn) (cloud rs485 : Handler) : Prop :=
  match turn with
  | .listening pending _ | .heard pending _ | .replied pending _ => rs485.result.Notes pending
  | .answered pending line =>
      rs485.result.Notes none ∧ cloud.msg.contents = answer pending line
  | .requested request => request.message.length ≤ packetBufSize
  | .commanded request =>
      rs485.result.Notes (some request) ∧ rs485.msg.contents = request.payload ∧
        rs485.msg.bufLen.toNat ≤ packetBufSize
  | .transmitting request _ => rs485.result.Notes (some request)

theorem interrupt_keeps (turn : Turn) (irq : UartIrq) :
    (turn.interrupt irq).queued = turn.queued ∧
      (∀ cloud rs485, (turn.interrupt irq).workq cloud rs485 = turn.workq cloud rs485) ∧
      ∀ cloud rs485, turn.Held cloud rs485 → (turn.interrupt irq).Held cloud rs485 := by
  unfold interrupt
  split
  · split_ifs <;> exact ⟨rfl, fun _ _ ↦ rfl, fun _ _ ↦ id⟩
  · split_ifs <;> exact ⟨rfl, fun _ _ ↦ rfl, fun _ _ ↦ id⟩
  · exact ⟨rfl, fun _ _ ↦ rfl, fun _ _ ↦ id⟩

end Turn

/-- The receive thread has received some bytes of the next message of the cloud. -/
structure Receiving (ws : ReceiveThread) (front : List UInt8) : Prop where
  running : ws.running = true
  hasPktHandler : ws.hasPktHandler = true
  srcId : ws.srcId = instanceIdCloud
  holds : ws.Holds front

/-- `main` waits for its threads and everything that a dialogue needs is set up. -/
structure Standing (crc16_ccitt : UInt16 → List UInt8 → UInt16) (cloud rs485 : Slot)
    (run : RouterRun) : Prop where
  explained : Explained crc16_ccitt run
  joining : run.point = .joining
  webSocket : run.webSocket.initialized = true ∧ run.webSocket.connectedEvent = true
  cloudFound : run.sys.pkth.getHandler instanceIdCloud = some cloud
  rs485Found : run.sys.pkth.getHandler instanceIdUartRs485 = some rs485

/-- The router is where the dialogue is. -/
structure Follows (cloud rs485 : Slot) (run : RouterRun) (dialogue : Dialogue) : Prop where
  receiver : Receiving run.receiver dialogue.front
  port : PortAttends dialogue.turn run.rs485
  queue : QueueInvariant ⟨run.sys.pkth, run.accepted, run.handled⟩ dialogue.turn.queued
  packets : run.accepted.length = dialogue.packets
  workq : run.sys.workq = dialogue.turn.workq cloud rs485
  held : dialogue.turn.Held (run.sys.handler cloud) (run.sys.handler rs485)
  sent : run.sentMessages = dialogue.sent
  given : run.given = dialogue.given

/-- The router is set up and where the dialogue is. -/
structure Attends (crc16_ccitt : UInt16 → List UInt8 → UInt16) (cloud rs485 : Slot)
    (run : RouterRun) (dialogue : Dialogue) : Prop extends
    Standing crc16_ccitt cloud rs485 run, Follows cloud rs485 run dialogue

section Standing

variable {cloud rs485 : Slot} {run next : RouterRun}

/-- No actor takes down what is set up. -/
theorem Standing.step (h : Standing crc16_ccitt cloud rs485 run) {action : RouterAction}
    (hstep : run.step hex2bin crc16_ccitt text action = .ok next) :
    Standing crc16_ccitt cloud rs485 next := by
  have hexplained := h.explained.step hstep
  cases hanswers : action.mainAnswers with
  | none =>
    have hsame := RouterRun.Undisturbed.of_step hanswers hstep
    constructor
    case explained => exact hexplained
    case joining => exact hsame.point.trans h.joining
    case webSocket =>
      rw [hsame.webSocket]
      exact h.webSocket
    case cloudFound => exact (hsame.handlers.getHandler _).trans h.cloudFound
    case rs485Found => exact (hsame.handlers.getHandler _).trans h.rs485Found
  | some answers =>
    obtain rfl : action = .main answers := by
      cases action <;> cases hanswers
      rfl
    have hidle : run.step hex2bin crc16_ccitt text (.main answers) = .ok run := by
      simp [RouterRun.step, RouterRun.mainStep, h.joining]
    obtain rfl := Except.ok.inj (hidle.symm.trans hstep)
    exact h

end Standing

/-! ## Dispatching -/

theorem Dispatched.workq_of_idle {sys next : System} {slot : Slot} {packet : List UInt8}
    {pending : Slot → PacketResult} (h : Dispatched sys next slot packet pending)
    (hconsistent : sys.Consistent) (hused : slot.val < sys.pkth.handlerCtr)
    (hidle : sys.workq = []) : next.workq = [slot] := by
  have hnot : (sys.handler slot).workItem.queued ≠ true := by
    rw [Ne, hconsistent.queued_iff slot hused, hidle]
    exact List.not_mem_nil
  rw [h.workq, if_neg hnot, hidle, List.nil_append]

theorem Request.length_payload_le (request : Request)
    (hfits : request.message.length ≤ packetBufSize) : request.payload.length ≤ packetBufSize := by
  rw [message, length_genericFrame, length_controlFrame] at hfits
  omega

/-- A request is dispatched to the port. -/
theorem handlePacketData_request {sys : System} {rs485 : Slot} {request : Request}
    (hfound : sys.pkth.getHandler instanceIdUartRs485 = some rs485)
    (hfits : request.message.length ≤ packetBufSize) :
    ∃ next pending, handlePacketData crc16_ccitt sys request.packet = .ok next ∧
      Dispatched sys next rs485 request.payload pending ∧
      (pending rs485).Notes (some request) := by
  have hcloud : request.packet.srcId ≠ instanceIdUartCm4 := by
    change instanceIdCloud ≠ instanceIdUartCm4
    decide
  have hstart : genericStart request.packet = 0 := if_neg hcloud
  have hcarries : Carries request.packet request.commandType request.srcId instanceIdUartRs485
      request.requestId request.payload := by
    apply carries_of_written (Buffer.fill packetBufSize 0) [] [] hstart.symm
    · rw [List.append_nil]
      rfl
    · rw [List.append_nil]
      exact hfits
  have hloadable : Loadable request.packet := fun hcm4 ↦ absurd hcm4 hcloud
  exact ⟨_, _, hcarries.handleIncomingPacket_eq crc16_ccitt hloadable hfound,
    dispatched_deliver sys rs485 _ (request.length_payload_le hfits) rfl, if_pos rfl⟩

/-- What a line is dispatched as. -/
theorem outgoingPacket_replyPacket {result : PacketResult} {pending : Option Request}
    {line : List UInt8} (hnotes : result.Notes pending) (hfits : line.length ≤ packetBufSize) :
    outgoingPacket crc16_ccitt result (replyPacket line) = answer pending line := by
  have hcontents : (replyPacket line).msg.contents = line := PacketBuffer.contents_ofBytes hfits
  have htarget : (replyPacket line).destId ≠ instanceIdUartCm4 := by
    change instanceIdCloud ≠ instanceIdUartCm4
    decide
  rw [outgoingPacket, targetFrame, if_neg htarget, outgoingBody, outgoingType, hcontents]
  cases pending with
  | none =>
    have hid : ¬ result.id > 0 := by
      rw [show result.id = 0 from hnotes]
      decide
    rw [if_neg hid, if_neg hid]
    rfl
  | some request =>
    obtain rfl : result = _ := hnotes
    simp only [answer]
    split_ifs <;> rfl

/-- A line is dispatched to the cloud. -/
theorem handlePacketData_reply {sys : System} {cloud rs485 : Slot} {pending : Option Request}
    {line : List UInt8} (hcloud : sys.pkth.getHandler instanceIdCloud = some cloud)
    (hrs485 : sys.pkth.getHandler instanceIdUartRs485 = some rs485)
    (hnotes : (sys.handler rs485).result.Notes pending) (hfits : line.length ≤ longestLine) :
    ∃ next results, handlePacketData crc16_ccitt sys (replyPacket line) = .ok next ∧
      Dispatched sys next cloud (answer pending line) results ∧
      (next.handler rs485).result.Notes none := by
  have hsizes : longestLine + 10 ≤ packetBufSize := by decide
  have hline : line.length ≤ packetBufSize := by omega
  have hheaders : outgoingHeaders (sys.handler rs485).result (replyPacket line).destId ≤ 10 := by
    have htarget : (replyPacket line).destId ≠ instanceIdUartCm4 := by
      change instanceIdCloud ≠ instanceIdUartCm4
      decide
    rw [outgoingHeaders, if_neg htarget]
    split_ifs <;> decide
  have hroom : OutgoingFits crc16_ccitt (sys.handler rs485).result (replyPacket line) := by
    rw [outgoingFits_iff]
    have hlength : (replyPacket line).msg.bufLen.toNat = line.length :=
      PacketBuffer.toNat_bufLen_ofBytes hline
    omega
  have hpacket : outgoingPacket crc16_ccitt (sys.handler rs485).result (replyPacket line) =
      answer pending line := outgoingPacket_replyPacket hnotes hline
  have hhandled := handleOutgoingPacket_of_fits crc16_ccitt hrs485 hroom hcloud
  have hdelivered := dispatched_deliver (sys.modify rs485 Handler.answered) cloud
    (acceptPacket (outgoingPacket crc16_ccitt (sys.handler rs485).result (replyPacket line)))
    hroom.2 rfl
  have hresult := result_deliver_acceptPacket sys rs485 cloud rs485
    (outgoingPacket crc16_ccitt (sys.handler rs485).result (replyPacket line))
  rw [hpacket] at hhandled hdelivered hresult
  rw [if_pos rfl] at hresult
  refine ⟨_, _, hhandled, hdelivered.of_answered, ?_⟩
  rw [hresult]
  rfl

/-! ## The receive thread -/

namespace Receiving

variable {ws : ReceiveThread} {front bytes : List UInt8} {pkth : PacketHandler}

theorem chunk (h : Receiving ws front) (hfits : (front ++ bytes).length ≤ packetBufSize)
    {remaining : ℕ} (hmore : 0 < remaining) (pkth : PacketHandler) :
    ∃ next, ws.handleMessageReceived (.stored bytes remaining) pkth = .ok (next, pkth, none) ∧
      Receiving next (front ++ bytes) := by
  obtain ⟨next, hstored, hholds, hsrc, hpkth, hrunning, -⟩ := h.holds.stored hfits remaining
  refine ⟨next, ?_, ⟨hrunning.trans h.running, hpkth.trans h.hasPktHandler, hsrc.trans h.srcId,
    hholds⟩⟩
  rw [ReceiveThread.handleMessageReceived, if_neg (by simp [h.running]), hstored]
  simp [hmore, bind, pure, Except.pure]

/-- The rest of a request. -/
theorem complete (h : Receiving ws front) {request : Request}
    (hrequest : request.message = front ++ bytes)
    (hfits : (front ++ bytes).length ≤ packetBufSize) (pkth : PacketHandler) :
    ∃ ended next, Receiving next [] ∧
      ws.handleMessageReceived (.stored bytes 0) pkth =
        (pkth.handlePacket request.packet).bind fun (ret, after) ↦
          .ok (if ret = .aborted then ended else next, after, some request.packet) := by
  obtain ⟨stored, hstored, hholds, hsrc, hpkth, hrunning, -⟩ := h.holds.stored hfits 0
  have hpacket : stored.packet (front ++ bytes) = request.packet := by
    rw [ReceiveThread.packet, hsrc, h.srcId, ← hrequest]
    rfl
  refine ⟨{ stored with running := false },
    { stored with readPos := 0, totalRead := 0, remainingBytes := ullongMax },
    ⟨hrunning.trans h.running, hpkth.trans h.hasPktHandler, hsrc.trans h.srcId,
      ⟨rfl, rfl, Nat.zero_le _, rfl⟩⟩, ?_⟩
  rw [ReceiveThread.handleMessageReceived, if_neg (by simp [h.running]), hstored]
  change stored.dispatch pkth = _
  rw [hholds.dispatch_eq, if_pos (hpkth.trans h.hasPktHandler), hpacket]

end Receiving

/-! ## Actors -/

namespace Follows

variable {cloud rs485 : Slot} {run : RouterRun} {dialogue : Dialogue}

theorem bounded (h : Follows cloud rs485 run dialogue) : dialogue.packets ≤ packetQueueSize := by
  rw [← h.packets]
  exact h.queue.bounded

theorem hands (h : Follows cloud rs485 run dialogue) (hidle : dialogue.turn.queued = [])
    (hroom : dialogue.packets < packetQueueSize) (data : PacketData) :
    ∃ pkthMsgq, run.sys.pkth.handlePacket data = .ok (.ok, { run.sys.pkth with pkthMsgq }) ∧
      QueueInvariant ⟨{ run.sys.pkth with pkthMsgq }, run.accepted ++ [data], run.handled⟩ [data] := by
  have hqueue := h.queue
  rw [hidle] at hqueue
  exact hqueue.accepts (by rw [h.packets]; exact hroom) data

/-- The receive thread hands over a request. -/
theorem receive_request (h : Follows cloud rs485 run dialogue) {bytes : List UInt8}
    {request : Request} (hrequest : request.message = dialogue.front ++ bytes)
    (hfits : (dialogue.front ++ bytes).length ≤ packetBufSize) (hopen : dialogue.turn.Open) :
    (dialogue.packets < packetQueueSize →
      ∃ next, run.receive (.stored bytes 0) = .ok next ∧
        Follows cloud rs485 next
          { dialogue with
            front := []
            turn := .requested request
            packets := dialogue.packets + 1 }) ∧
    (¬ dialogue.packets < packetQueueSize →
      run.receive (.stored bytes 0) = .error .outOfBounds) := by
  obtain ⟨pending, hturn⟩ : ∃ pending, dialogue.turn = .listening pending [] := by
    cases hturn : dialogue.turn with
    | listening pending line =>
      rw [hturn] at hopen
      obtain rfl : line = [] := hopen
      exact ⟨pending, rfl⟩
    | _ =>
      rw [hturn] at hopen
      exact hopen.elim
  obtain ⟨ended, receiver, hreceiver, hround⟩ := h.receiver.complete hrequest hfits run.sys.pkth
  constructor
  · intro hroom
    obtain ⟨pkthMsgq, hhandle, hqueue⟩ := h.hands (by rw [hturn]; rfl) hroom request.packet
    have haccepted : (run.accepted ++ [request.packet]).length = dialogue.packets + 1 := by
      rw [List.length_append, h.packets, List.length_singleton]
    refine ⟨{ run with
      sys := { run.sys with pkth := { run.sys.pkth with pkthMsgq } }
      receiver
      accepted := run.accepted ++ [request.packet] }, ?_, ?_⟩
    · rw [RouterRun.receive, hround, hhandle]
      change Except.ok { run.handedOver _ [request.packet] with receiver } = _
      rw [RouterRun.handedOver_of_accepted hhandle]
    · have hport := h.port
      have hworkq := h.workq
      rw [hturn] at hport hworkq
      constructor
      case receiver => exact hreceiver
      case port => exact hport.same rfl rfl rfl sayable_nil
      case queue => exact hqueue
      case packets => exact haccepted
      case workq => exact hworkq
      case held =>
        change request.message.length ≤ packetBufSize
        rwa [hrequest]
      case sent => exact h.sent
      case given => exact h.given
  · intro hfull
    have hqueue := h.queue
    have hoverrun := hqueue.overruns (by rwa [h.packets]) request.packet
    rw [RouterRun.receive, hround, hoverrun]
    rfl

/-- The receive thread takes what the cloud sends, unless it has no slot for the packet. -/
theorem receive (h : Follows cloud rs485 run dialogue) {answer : RecvMsg}
    (hpolite : dialogue.Polite (.receive answer)) :
    ((dialogue.receive answer).packets ≤ packetQueueSize →
      ∃ next, run.receive answer = .ok next ∧
        Follows cloud rs485 next (dialogue.receive answer)) ∧
    (¬ (dialogue.receive answer).packets ≤ packetQueueSize →
      run.receive answer = .error .outOfBounds) := by
  cases answer with
  | again =>
    have hidle : run.receive .again = .ok run := by
      rw [RouterRun.receive, ReceiveThread.handleMessageReceived,
        if_neg (by simp [h.receiver.running])]
      change Except.ok { run.handedOver run.sys.pkth [] with receiver := run.receiver } = _
      rw [RouterRun.handedOver_nil]
    exact ⟨fun _ ↦ ⟨run, hidle, h⟩, fun hbeyond ↦ absurd h.bounded hbeyond⟩
  | failed => exact hpolite.elim
  | stored bytes remaining =>
    obtain ⟨hfits, hcomplete⟩ := hpolite
    by_cases hmore : 0 < remaining
    · obtain ⟨receiver, hround, hreceiver⟩ := h.receiver.chunk hfits hmore run.sys.pkth
      rw [Dialogue.receive, if_pos hmore]
      refine ⟨fun _ ↦ ⟨{ run with receiver }, ?_, { h with receiver := hreceiver }⟩,
        fun hbeyond ↦ absurd h.bounded hbeyond⟩
      rw [RouterRun.receive, hround]
      change Except.ok { run.handedOver run.sys.pkth [] with receiver } = _
      rw [RouterRun.handedOver_nil]
    · obtain rfl : remaining = 0 := Nat.eq_zero_of_not_pos hmore
      obtain ⟨hopen, hsome⟩ := hcomplete rfl
      obtain ⟨request, hrequest⟩ := Option.isSome_iff_exists.mp hsome
      have hmessage := Request.message_of_ofMessage hrequest
      rw [Dialogue.receive, if_neg hmore, hrequest]
      exact h.receive_request hmessage hfits hopen

/-- The UART thread hands over a line, unless it has no slot for the packet. -/
theorem uartThread (h : Follows cloud rs485 run dialogue) :
    ((dialogue.step .uartThread).packets ≤ packetQueueSize →
      ∃ next, run.uartThread = .ok next ∧
        Follows cloud rs485 next (dialogue.step .uartThread)) ∧
    (¬ (dialogue.step .uartThread).packets ≤ packetQueueSize →
      run.uartThread = .error .outOfBounds) := by
  have hport := h.port
  have hqueue := h.queue
  have hworkq := h.workq
  have hheld := h.held
  unfold Dialogue.step
  cases hturn : dialogue.turn with
  | heard pending line =>
    rw [hturn] at hport hqueue hworkq hheld
    constructor
    · intro hroom
      obtain ⟨pkthMsgq, hhandle, hnext⟩ := h.hands (by rw [hturn]; rfl) hroom (replyPacket line)
      obtain ⟨next, hround, hattends⟩ := hport.reply hhandle
      refine ⟨{ run with
        sys := { run.sys with pkth := { run.sys.pkth with pkthMsgq } }
        rs485 := next
        accepted := run.accepted ++ [replyPacket line] }, ?_, ?_⟩
      · rw [RouterRun.uartThread, hround]
        change Except.ok { run.handedOver _ [replyPacket line] with rs485 := next } = _
        rw [RouterRun.handedOver_of_accepted hhandle]
      · constructor
        case receiver => exact h.receiver
        case port => exact hattends
        case queue => exact hnext
        case packets =>
          change (run.accepted ++ [replyPacket line]).length = _
          rw [List.length_append, h.packets, List.length_singleton]
        case workq => exact hworkq
        case held => exact hheld
        case sent => exact h.sent
        case given => exact h.given
    · intro hfull
      have hoverrun := hqueue.overruns (by rwa [h.packets]) (replyPacket line)
      rw [RouterRun.uartThread, hport.reply_overruns hoverrun]
      rfl
  | _ =>
    rw [hturn] at hport
    have hidle : run.uartThread = .ok run := by
      rw [RouterRun.uartThread, hport.waits rfl]
      change Except.ok { run.handedOver run.sys.pkth [] with rs485 := run.rs485 } = _
      rw [RouterRun.handedOver_nil]
    exact ⟨fun _ ↦ ⟨run, hidle, h⟩, fun hbeyond ↦ absurd h.bounded hbeyond⟩

end Follows

namespace Attends

variable {cloud rs485 : Slot} {run : RouterRun} {dialogue : Dialogue}

/-- The packet thread dispatches what it takes. -/
theorem packetThread (h : Attends crc16_ccitt cloud rs485 run dialogue) :
    ∃ next, run.packetThread crc16_ccitt = .ok next ∧
      Follows cloud rs485 next (dialogue.step .packetThread) := by
  have hport := h.port
  have hqueue := h.queue
  have hworkq := h.workq
  have hheld := h.held
  unfold Dialogue.step
  cases hturn : dialogue.turn with
  | requested request =>
    rw [hturn] at hport hqueue hworkq hheld
    obtain ⟨pkthMsgq, hget, hnext⟩ := hqueue.takes
    have hfound : ({ run.sys.pkth with pkthMsgq } : PacketHandler).getHandler
        instanceIdUartRs485 = some rs485 := h.rs485Found
    obtain ⟨sys, pending, hhandle, hdispatched, hnotes⟩ :=
      @handlePacketData_request crc16_ccitt { run.sys with pkth := { run.sys.pkth with pkthMsgq } }
        rs485 request hfound hheld
    have hconsistent : System.Consistent { run.sys with pkth := { run.sys.pkth with pkthMsgq } } :=
      ⟨h.explained.consistent.used, h.explained.consistent.nodup,
        h.explained.consistent.queued_iff⟩
    have hused := (PacketHandler.getHandler_spec h.rs485Found).1
    have hresult : (sys.handler rs485).result = pending rs485 := by
      rw [hdispatched.target]
    refine ⟨{ run with sys, handled := run.handled ++ [request.packet] }, ?_, ?_⟩
    · rw [RouterRun.packetThread_of_get hget, hhandle]
      rfl
    · constructor
      case receiver => exact h.receiver
      case port => exact hport.same rfl rfl rfl sayable_nil
      case queue => exact hnext.of_dispatched hdispatched
      case packets => exact h.packets
      case workq => exact hdispatched.workq_of_idle hconsistent hused hworkq
      case held =>
        exact ⟨hresult ▸ hnotes, hdispatched.contents,
          hdispatched.bufLen.trans_le (request.length_payload_le hheld)⟩
      case sent => exact h.sent
      case given => exact h.given
  | replied pending line =>
    rw [hturn] at hport hqueue hworkq hheld
    obtain ⟨pkthMsgq, hget, hnext⟩ := hqueue.takes
    obtain ⟨sys, results, hhandle, hdispatched, hnotes⟩ :=
      @handlePacketData_reply crc16_ccitt { run.sys with pkth := { run.sys.pkth with pkthMsgq } }
        cloud rs485 pending line h.cloudFound h.rs485Found hheld hport.sayable.fits
    have hconsistent : System.Consistent { run.sys with pkth := { run.sys.pkth with pkthMsgq } } :=
      ⟨h.explained.consistent.used, h.explained.consistent.nodup,
        h.explained.consistent.queued_iff⟩
    have hused := (PacketHandler.getHandler_spec h.cloudFound).1
    refine ⟨{ run with sys, handled := run.handled ++ [replyPacket line] }, ?_, ?_⟩
    · rw [RouterRun.packetThread_of_get hget, hhandle]
      rfl
    · constructor
      case receiver => exact h.receiver
      case port => exact hport.same rfl rfl rfl hport.sayable
      case queue => exact hnext.of_dispatched hdispatched
      case packets => exact h.packets
      case workq => exact hdispatched.workq_of_idle hconsistent hused hworkq
      case held => exact ⟨hnotes, hdispatched.contents⟩
      case sent => exact h.sent
      case given => exact h.given
  | _ =>
    rw [hturn] at hqueue
    have hidle : run.packetThread crc16_ccitt = .ok run := by
      have hget := hqueue.represents.get_nil
      simp [RouterRun.packetThread, PacketHandler.getPacket, hget, bind, pure, Except.pure]
    exact ⟨run, hidle, h.toFollows⟩

/-- The work queue runs the transport whose turn it is. -/
theorem work (h : Attends crc16_ccitt cloud rs485 run dialogue) (bt : BtAnswers) :
    ∃ next, run.work text bt = .ok next ∧ Follows cloud rs485 next (dialogue.step (.work bt)) := by
  have hport := h.port
  have hqueue := h.queue
  have hworkq := h.workq
  have hheld := h.held
  have hcallback (transport : Transport) (slot : Slot)
      (hfound : run.sys.pkth.getHandler transport.owner = some slot) :
      Transport.ofAddress (run.sys.runWork.handler slot).workItem.handler = some transport := by
    obtain ⟨queued, hrun⟩ := run.sys.handler_runWork slot
    rw [hrun]
    exact h.explained.callback_of_getHandler hfound
  unfold Dialogue.step
  cases hturn : dialogue.turn with
  | commanded request =>
    rw [hturn] at hport hqueue hworkq hheld
    obtain ⟨hnotes, hpayload, hfits⟩ := hheld
    obtain ⟨queued, hrun⟩ := run.sys.handler_runWork rs485
    have hmsg : (run.sys.runWork.handler rs485).msg = (run.sys.handler rs485).msg := by rw [hrun]
    obtain ⟨next, after, hsend, hattends⟩ := hport.send (hmsg ▸ hpayload) (hmsg ▸ hfits)
    refine ⟨{ run with sys := run.sys.behindWork rs485 after.workLock, rs485 := next }, ?_, ?_⟩
    · rw [RouterRun.work, hworkq]
      change run.transport text rs485 bt = _
      simp only [RouterRun.transport, hcallback .sendUartMessage rs485 h.rs485Found, hsend]
      rfl
    · constructor
      case receiver => exact h.receiver
      case port => exact hattends
      case queue => exact hqueue.behindWork _ rs485
      case packets => exact h.packets
      case workq => exact System.workq_behindWork _ hworkq
      case held =>
        change PacketResult.Notes _ (some request)
        rw [System.result_behindWork]
        exact hnotes
      case sent => exact h.sent
      case given => exact h.given
  | answered pending line =>
    rw [hturn] at hport hqueue hworkq hheld
    obtain ⟨hnotes, hanswer⟩ := hheld
    obtain ⟨queued, hrun⟩ := run.sys.handler_runWork cloud
    have hmsg : (run.sys.runWork.handler cloud).msg = (run.sys.handler cloud).msg := by rw [hrun]
    have hsend : run.webSocket.sendMessage (run.sys.runWork.handler cloud) =
        some ((run.sys.runWork.handler cloud).lockWork.unlockWork,
          [.websocketSendMsg run.webSocket.websockId (run.sys.runWork.handler cloud).msg]) := by
      simp [WebSocket.sendMessage, h.webSocket, Handler.lockWork]
    refine ⟨{ run with
      sys := run.sys.behindWork cloud
        (run.sys.runWork.handler cloud).lockWork.unlockWork.workLock
      sent := run.sent ++
        [.websocketSendMsg run.webSocket.websockId (run.sys.runWork.handler cloud).msg] }, ?_, ?_⟩
    · rw [RouterRun.work, hworkq]
      change run.transport text cloud bt = _
      simp only [RouterRun.transport, hcallback .sendMessage cloud h.cloudFound, hsend]
      rfl
    · constructor
      case receiver => exact h.receiver
      case port => exact hport.same rfl rfl rfl sayable_nil
      case queue => exact hqueue.behindWork _ cloud
      case packets => exact h.packets
      case workq => exact System.workq_behindWork _ hworkq
      case held =>
        change PacketResult.Notes _ none
        rw [System.result_behindWork]
        exact hnotes
      case sent =>
        rw [RouterRun.sentMessages, List.filterMap_append, hmsg]
        change run.sentMessages ++ [(run.sys.handler cloud).msg.contents] = _
        rw [h.sent, hanswer]
      case given => exact h.given
  | _ =>
    rw [hturn] at hworkq
    have hidle : run.work text bt = .ok run := by rw [RouterRun.work, hworkq]; rfl
    exact ⟨run, hidle, h.toFollows⟩

/-- An interrupt at the port. -/
theorem interrupt (h : Attends crc16_ccitt cloud rs485 run dialogue) {irq : UartIrq}
    (hraises : dialogue.turn.Raises irq) :
    ∃ next, run.interrupt irq = .ok next ∧
      Follows cloud rs485 next (dialogue.step (.interrupt irq)) := by
  obtain ⟨next, hinterrupt, hattends⟩ := h.port.interrupt hraises
  obtain ⟨hqueued, hworkq, hheld⟩ := dialogue.turn.interrupt_keeps irq
  have hinit : ¬ (!run.rs485.initialized) = true := by
    have hset : run.rs485.initialized = true := h.port.duplex.initialized
    simp [hset]
  refine ⟨{ run with
    rs485 := next
    given := run.given ++ dialogue.turn.transmitted irq }, ?_, ?_⟩
  · rw [RouterRun.interrupt, if_neg hinit, hinterrupt]
    rfl
  · constructor
    case receiver => exact h.receiver
    case port => exact hattends
    case queue =>
      change QueueInvariant _ (dialogue.turn.interrupt irq).queued
      rw [hqueued]
      exact h.queue
    case packets => exact h.packets
    case workq =>
      change run.sys.workq = (dialogue.turn.interrupt irq).workq cloud rs485
      rw [hworkq]
      exact h.workq
    case held => exact hheld _ _ h.held
    case sent => exact h.sent
    case given =>
      change run.given ++ _ = dialogue.given ++ _
      rw [h.given]

/-- Whatever an actor does in a polite dialogue, the router does what the dialogue says, unless the
packet queue has no slot left. -/
theorem step (h : Attends crc16_ccitt cloud rs485 run dialogue) {action : RouterAction}
    (hpolite : dialogue.Polite action) :
    ((dialogue.step action).packets ≤ packetQueueSize →
      ∃ next, run.step hex2bin crc16_ccitt text action = .ok next ∧
        Attends crc16_ccitt cloud rs485 next (dialogue.step action)) ∧
    (¬ (dialogue.step action).packets ≤ packetQueueSize →
      run.step hex2bin crc16_ccitt text action = .error .outOfBounds) := by
  have hpoint : run.point ≠ .returned := by
    rw [h.joining]
    nofun
  have hattends {next : RouterRun} {other : Dialogue}
      (hstep : run.step hex2bin crc16_ccitt text action = .ok next ∧
        Follows cloud rs485 next other) : Attends crc16_ccitt cloud rs485 next other :=
    { h.toStanding.step hstep.1, hstep.2 with }
  -- only the receive thread and the UART thread make packets
  cases action with
  | main answers =>
    have hidle : run.step hex2bin crc16_ccitt text (.main answers) = .ok run := by
      simp [RouterRun.step, RouterRun.mainStep, h.joining]
    exact ⟨fun _ ↦ ⟨run, hidle, h⟩, fun hbeyond ↦ absurd h.bounded hbeyond⟩
  | receive answer =>
    have hstep : run.step hex2bin crc16_ccitt text (.receive answer) = run.receive answer :=
      if_neg hpoint
    rw [hstep] at hattends ⊢
    obtain ⟨hreturns, hfaults⟩ := h.toFollows.receive hpolite
    refine ⟨fun hroom ↦ ?_, hfaults⟩
    obtain ⟨next, hnext⟩ := hreturns hroom
    exact ⟨next, hnext.1, hattends hnext⟩
  | callback event hcallback => exact hpolite.elim
  | interrupt irq =>
    have hstep : run.step hex2bin crc16_ccitt text (.interrupt irq) = run.interrupt irq :=
      if_neg hpoint
    rw [hstep] at hattends ⊢
    obtain ⟨next, hnext⟩ := h.interrupt hpolite
    exact ⟨fun _ ↦ ⟨next, hnext.1, hattends hnext⟩, fun hbeyond ↦ absurd hnext.2.bounded hbeyond⟩
  | uartThread =>
    have hstep : run.step hex2bin crc16_ccitt text .uartThread = run.uartThread := if_neg hpoint
    rw [hstep] at hattends ⊢
    obtain ⟨hreturns, hfaults⟩ := h.toFollows.uartThread
    refine ⟨fun hroom ↦ ?_, hfaults⟩
    obtain ⟨next, hnext⟩ := hreturns hroom
    exact ⟨next, hnext.1, hattends hnext⟩
  | packetThread =>
    have hstep : run.step hex2bin crc16_ccitt text .packetThread = run.packetThread crc16_ccitt :=
      if_neg hpoint
    rw [hstep] at hattends ⊢
    obtain ⟨next, hnext⟩ := h.packetThread
    exact ⟨fun _ ↦ ⟨next, hnext.1, hattends hnext⟩, fun hbeyond ↦ absurd hnext.2.bounded hbeyond⟩
  | work bt =>
    have hstep : run.step hex2bin crc16_ccitt text (.work bt) = run.work text bt := if_neg hpoint
    rw [hstep] at hattends ⊢
    obtain ⟨next, hnext⟩ := h.work bt
    exact ⟨fun _ ↦ ⟨next, hnext.1, hattends hnext⟩, fun hbeyond ↦ absurd hnext.2.bounded hbeyond⟩

end Attends

/-- Packets are not unmade. -/
theorem Dialogue.packets_le_step (dialogue : Dialogue) (action : RouterAction) :
    dialogue.packets ≤ (dialogue.step action).packets := by
  unfold Dialogue.step
  cases action with
  | receive answer =>
    change _ ≤ (dialogue.receive answer).packets
    unfold Dialogue.receive
    split
    · split_ifs
      · exact le_rfl
      · split
        · exact Nat.le_succ _
        · exact le_rfl
    · exact le_rfl
    · exact le_rfl
  | uartThread =>
    dsimp only
    split
    · exact Nat.le_succ _
    · exact le_rfl
  | packetThread =>
    dsimp only
    split <;> exact le_rfl
  | work bt =>
    dsimp only
    split <;> exact le_rfl
  | _ => exact le_rfl

/-- A polite dialogue with a router that attends it from its start. -/
theorem Attends.run {cloud rs485 : Slot} {up : RouterRun} {dialogue : Dialogue}
    {actions : List RouterAction} (h : Attends crc16_ccitt cloud rs485 up dialogue)
    (hpolite : Along (total Dialogue.step) Dialogue.Polite dialogue actions) :
    ((actions.foldl Dialogue.step dialogue).packets ≤ packetQueueSize →
      ∃ last, CheckedRun.run (RouterRun.step hex2bin crc16_ccitt text) up actions = .ok last ∧
        Attends crc16_ccitt cloud rs485 last (actions.foldl Dialogue.step dialogue)) ∧
    (¬ (actions.foldl Dialogue.step dialogue).packets ≤ packetQueueSize →
      ∃ fault, CheckedRun.run (RouterRun.step hex2bin crc16_ccitt text) up actions =
        .error fault) := by
  obtain ⟨hreturns, hfaults⟩ :=
    @run_simulates_within _ _ _ (RouterRun.step hex2bin crc16_ccitt text) Dialogue.step
      Dialogue.Polite up dialogue actions (fun state ↦ state.packets ≤ packetQueueSize)
      (Attends crc16_ccitt cloud rs485)
      (fun hattends haction hroom ↦ (hattends.step haction).1 hroom)
      (fun hattends haction hbeyond ↦ ⟨_, (hattends.step haction).2 hbeyond⟩)
      (fun {state action} hroom ↦ (state.packets_le_step action).trans hroom) h hpolite
  exact ⟨hreturns, hfaults h.bounded⟩

end CrownstoneRouter
