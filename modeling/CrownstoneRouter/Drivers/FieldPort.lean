import CrownstoneRouter.Drivers.PortBounds
import CrownstoneRouter.PacketHandling.Lookups
import CrownstoneRouter.PacketHandling.Queue

/-!
# Field ports

A port other than the one to the CM4 connects a field device, whose input must not be able to issue
commands. The UART thread decides by the first byte of a line, not by the port, whether the line is
a command: a line of a field port is handed over as data of the port exactly if it does not start
with the start token of a frame. A stream changes no message but that of the handler the port sends
to, and leaves no request pending, exactly as long as no such line is handed over and none of its
lines overruns the packet queue or the packet buffer.
-/

namespace CrownstoneRouter

open CheckedMemory CheckedRun

variable (crc16_ccitt : UInt16 → List UInt8 → UInt16)

/-- The packet is data that the port sends to its destination. -/
def FromPort (uart : Uart) (data : PacketData) : Prop :=
  data.type = .outgoing ∧ data.srcId = uart.srcId ∧ data.destId = uart.destId

/-- On a field port a message becomes data of the port exactly if it does not start with the start
token. -/
theorem fromPort_packetOfMessage_iff {uart : Uart} {msgBuf : Buffer UInt8 uartBufferSize}
    {data : PacketData} (h : uart.packetOfMessage msgBuf = .ok data) :
    FromPort uart data ↔ byteAt msgBuf 0 ≠ uartStartToken := by
  rw [Uart.packetOfMessage_eq] at h
  obtain ⟨-, rfl⟩ := guard_eq_ok.mp h
  split_ifs with htoken <;> simp [FromPort, htoken]

/-! ## A port at work -/

/-- A port, the system it belongs to, and the packets that its thread has handed over. -/
structure FieldPort where
  uart : Uart
  sys : System
  handed : List PacketData

/-- What happens at a port: a byte is received, or one of the UART thread, the packet thread and the
work queue takes a step. -/
inductive PortAction
  | receive (c : UInt8)
  | message
  | packet
  | work
  deriving DecidableEq

/-- One step of a port. -/
def portStep (port : FieldPort) : PortAction → Checked FieldPort
  | .receive c => do
      let (uart, _) ← port.uart.handleUartInterrupt (.received c)
      return { port with uart := uart }
  | .message => do
      let (uart, pkth, handed) ← port.uart.handleUartMessages port.sys.pkth
      return { uart, sys := { port.sys with pkth }, handed := port.handed ++ handed.toList }
  | .packet => do
      let (data, pkth) ← port.sys.pkth.getPacket
      let sys := { port.sys with pkth }
      match data with
      | none => return { port with sys := sys }
      | some data =>
          let sys ← handlePacketData crc16_ccitt sys data
          return { port with sys := sys }
  | .work => .ok { port with sys := port.sys.runWork }

/-! ## Conditions on a step -/

/-- No line starts with the start token. -/
def NoStartToken (port : FieldPort) : PortAction → Prop
  | .receive c => port.uart.uartBufCtr = 0 → c ≠ uartStartToken
  | _ => True

/-- The packet that the packet thread handles next. -/
def PacketHandler.nextPacket (pkth : PacketHandler) : Option PacketData :=
  match pkth.pkthMsgq.get with
  | .ok (data, _) => data
  | .error _ => none

/-- A line that is handed over does not start with the start token. -/
def HandsOverData (port : FieldPort) : PortAction → Prop
  | .message => ∀ line ∈ port.uart.nextLine, byteAt line 0 ≠ uartStartToken
  | .receive _ | .packet | .work => True

/-- There is a slot for the packet of a line that is handed over, and a packet that is handled fits
behind its headers, between registered handlers. -/
def HandsOverInside (port : FieldPort) : PortAction → Prop
  | .message => port.uart.nextLine.isSome → port.sys.pkth.HasSlot
  | .packet => ∀ data ∈ port.sys.pkth.nextPacket, Handleable port.sys data
  | .receive _ | .work => True

instance (port : FieldPort) : DecidablePred (HandsOverData port)
  | .message => by
      unfold HandsOverData
      infer_instance
  | .receive _ | .packet | .work => isTrue trivial

instance (port : FieldPort) : DecidablePred (HandsOverInside port)
  | .message => inferInstanceAs (Decidable (_ → _))
  | .packet => by
      unfold HandsOverInside
      infer_instance
  | .receive _ | .work => isTrue trivial

/-! ## Invariants -/

/-- Nothing is being received or queued at an initialized port. -/
structure Quiet (port : FieldPort) : Prop where
  initialized : port.uart.initialized = true
  bounded : port.uart.Bounded
  uartBufCtr : port.uart.uartBufCtr = 0
  uartMsgq : port.uart.uartMsgq.Represents []
  packets : port.sys.pkth.OwnSlots []
  handed : port.handed = []

/-- Nothing but data of the port has been handed over, and only its destination has seen any of
it. -/
structure Isolated (start port : FieldPort) : Prop where
  handed : ∀ data ∈ port.handed, FromPort start.uart data
  msg : ∀ slot, start.sys.pkth.getHandler start.uart.destId ≠ some slot →
    (port.sys.handler slot).msg = (start.sys.handler slot).msg
  pending : ∀ slot, (port.sys.handler slot).result.id = 0 ∨
    (port.sys.handler slot).result = (start.sys.handler slot).result

/-- The invariant of a port that hands over data only. -/
structure PortInvariant (start port : FieldPort) : Prop extends Isolated start port where
  same : Uart.SamePort start.uart port.uart
  initialized : port.uart.initialized = true
  bounded : port.uart.Bounded
  packets : ∃ packets, port.sys.pkth.OwnSlots packets ∧ ∀ data ∈ packets, FromPort start.uart data
  lookup : ∀ instId, port.sys.pkth.getHandler instId = start.sys.pkth.getHandler instId

theorem Quiet.invariant {port : FieldPort} (h : Quiet port) : PortInvariant port port where
  handed := by simp [h.handed]
  msg _ _ := rfl
  pending _ := .inr rfl
  same := .refl port.uart
  initialized := h.initialized
  bounded := h.bounded
  packets := ⟨[], h.packets, by simp⟩
  lookup _ := rfl

/-- What is in the receive buffer and in the queue does not start with the start token. -/
structure CleanLines (port : FieldPort) : Prop where
  unfinished : 0 < port.uart.uartBufCtr → byteAt port.uart.uartBuf 0 ≠ uartStartToken
  lines : ∃ lines, port.uart.uartMsgq.Represents lines ∧
    ∀ line ∈ lines, byteAt line 0 ≠ uartStartToken

theorem Quiet.cleanLines {port : FieldPort} (h : Quiet port) : CleanLines port where
  unfinished hctr := absurd h.uartBufCtr hctr.ne'
  lines := ⟨[], h.uartMsgq, by simp⟩

section Step

variable {crc16_ccitt} {start port next : FieldPort}

/-! ## Clean lines -/

theorem byteAt_set_zero {buffer after : Buffer UInt8 uartBufferSize} {position : ℕ} {c : UInt8}
    (h : buffer.store position [c] = .ok after) :
    byteAt after 0 = if position = 0 then c else byteAt buffer 0 := by
  obtain ⟨hposition, hcells⟩ := Buffer.store_singleton_eq_ok h
  have hlength := buffer.length_cells
  simp only [byteAt, hcells, List.getD_eq_getElem?_getD, List.getElem?_set]
  split_ifs <;> simp_all

/-- Receiving a byte keeps the lines clean, if the byte is not the start token of a new line. -/
theorem CleanLines.receive (h : CleanLines port) {c : UInt8}
    (hclean : NoStartToken port (.receive c))
    (hstep : portStep crc16_ccitt port (.receive c) = .ok next) : CleanLines next := by
  simp only [portStep, Uart.handleUartInterrupt_received, bind, bind_eq_ok] at hstep
  obtain ⟨⟨uart, _⟩, ⟨received, hreceive, hreceived⟩, hnext⟩ := hstep
  cases hreceived
  cases hnext
  obtain ⟨lines, hlines, hcleanLines⟩ := h.lines
  obtain rfl | ⟨hctr, uartBuf, taken, uartMsgq, hstore, hput, rfl⟩ |
    ⟨uartBuf, -, -, -, hstore, rfl⟩ := Uart.receiveByte_cases hreceive
  · exact h
  · have hfirst : byteAt uartBuf 0 ≠ uartStartToken := by
      rw [byteAt_set_zero hstore, if_neg hctr.ne']
      exact h.unfinished hctr
    have hqueue := hlines.of_put hput
    refine ⟨fun hzero ↦ absurd hzero (lt_irrefl 0), ?_⟩
    cases taken with
    | true =>
      exact ⟨lines ++ [uartBuf], hqueue,
        List.forall_mem_append.mpr ⟨hcleanLines, List.forall_mem_singleton.mpr hfirst⟩⟩
    | false => exact ⟨[], hqueue.purge, by simp⟩
  · refine ⟨fun _ ↦ ?_, ⟨lines, hlines, hcleanLines⟩⟩
    rw [byteAt_set_zero hstore]
    split_ifs with hzero
    · exact hclean hzero
    · exact h.unfinished (Nat.pos_of_ne_zero hzero)

/-- A round of the UART thread takes the oldest line, if it takes any. -/
theorem CleanLines.message (h : CleanLines port)
    (hstep : portStep crc16_ccitt port .message = .ok next) : CleanLines next := by
  obtain ⟨⟨uart, pkth, handed⟩, hround, hnext⟩ := bind_eq_ok.mp hstep
  cases hnext
  obtain ⟨lines, hlines, hcleanLines⟩ := h.lines
  have htail : ∀ line ∈ lines.tail, byteAt line 0 ≠ uartStartToken := fun line hline ↦
    hcleanLines line (List.mem_of_mem_tail hline)
  obtain ⟨rfl, -⟩ | ⟨uartMsgq, hget, rfl, -⟩ | ⟨msgBuf, data, uartMsgq, threadRunning, hget, -, rfl, -⟩ :=
    Uart.handleUartMessages_cases hround
  · exact ⟨h.unfinished, h.lines⟩
  · exact ⟨h.unfinished, lines.tail, (hlines.of_get hget).2, htail⟩
  · exact ⟨h.unfinished, lines.tail, (hlines.of_get hget).2, htail⟩

theorem CleanLines.step (h : CleanLines port) {action : PortAction}
    (hclean : NoStartToken port action) (hstep : portStep crc16_ccitt port action = .ok next) :
    CleanLines next := by
  cases action with
  | receive c => exact h.receive hclean hstep
  | message => exact h.message hstep
  | packet =>
    obtain ⟨⟨found, pkth⟩, -, hnext⟩ := bind_eq_ok.mp hstep
    cases found with
    | none =>
      cases hnext
      exact ⟨h.unfinished, h.lines⟩
    | some data =>
      obtain ⟨sys, -, hresult⟩ := bind_eq_ok.mp hnext
      cases hresult
      exact ⟨h.unfinished, h.lines⟩
  | work =>
    cases hstep
    exact ⟨h.unfinished, h.lines⟩

theorem CleanLines.handsOverData (h : CleanLines port) (action : PortAction) :
    HandsOverData port action := by
  cases action with
  | message =>
    intro line hline
    obtain ⟨lines, hlines, hcleanLines⟩ := h.lines
    have hhead := ((Uart.mem_nextLine_iff hlines).mp hline).2.2
    exact hcleanLines line (List.mem_of_mem_head? hhead)
  | receive c => trivial
  | packet => trivial
  | work => trivial

/-! ## Steps that stay inside -/

/-- A byte is received inside the buffer. -/
theorem PortInvariant.receive (h : PortInvariant start port)
    (crc16_ccitt : UInt16 → List UInt8 → UInt16) (c : UInt8) :
    ∃ next, portStep crc16_ccitt port (.receive c) = .ok next ∧ PortInvariant start next := by
  obtain ⟨uart, hreceive, hbounded, -⟩ := h.bounded.receiveByte h.initialized c
  have hstep : portStep crc16_ccitt port (.receive c) = .ok { port with uart := uart } := by
    simp only [portStep, Uart.handleUartInterrupt_received, hreceive, bind, bind_ok]
    rfl
  have hport := Uart.SamePort.of_receiveByte hreceive
  exact ⟨_, hstep, { h with
    same := h.same.trans hport
    initialized := hport.initialized.trans h.initialized
    bounded := hbounded }⟩

theorem PortInvariant.message_returns_iff (h : PortInvariant start port) :
    (∃ next, portStep crc16_ccitt port .message = .ok next) ↔ HandsOverInside port .message := by
  obtain ⟨packets, hpackets, -⟩ := h.packets
  obtain ⟨uartMsgq, data, -, -, hround⟩ := h.bounded.handleUartMessages_eq port.sys.pkth
  refine (bind_returns_iff fun _ ↦ ⟨_, rfl⟩).trans ?_
  rw [HandsOverInside, h.bounded.isSome_nextLine, hround]
  by_cases hline : port.uart.HasLine
  · rw [if_pos hline]
    by_cases hserved : port.uart.hasPktHandler = true
    · rw [if_pos hserved, forall_prop_of_true ⟨hline, hserved⟩,
        ← hpackets.handlePacket_returns_iff data]
      exact bind_returns_iff fun _ ↦ ⟨_, rfl⟩
    · rw [if_neg hserved]
      exact iff_of_true ⟨_, rfl⟩ fun h ↦ absurd h.2 hserved
  · rw [if_neg hline]
    exact iff_of_true ⟨_, rfl⟩ fun h ↦ absurd h.1 hline

/-- Everything that a round of the UART thread can do: hand nothing over, or hand over the packet of
a line, which is data of the port exactly if the line does not start with the start token. -/
theorem PortInvariant.message_cases (h : PortInvariant start port)
    (hstep : portStep crc16_ccitt port .message = .ok next) :
    PortInvariant start { port with uart := next.uart } ∧
      (port.uart.nextLine = none ∧ next = { port with uart := next.uart } ∨
        ∃ line ∈ port.uart.nextLine, ∃ data ret after,
          (FromPort start.uart data ↔ byteAt line 0 ≠ uartStartToken) ∧
          port.sys.pkth.handlePacket data = .ok (ret, after) ∧
          next = { next with
            sys := { port.sys with pkth := after }
            handed := port.handed ++ [data] }) := by
  obtain ⟨⟨uart, pkth, handed⟩, hround, hnext⟩ := bind_eq_ok.mp hstep
  cases hnext
  have hport := Uart.SamePort.of_handleUartMessages hround
  refine ⟨{ h with
    same := h.same.trans hport
    initialized := hport.initialized.trans h.initialized
    bounded := h.bounded.of_handleUartMessages hround }, ?_⟩
  obtain ⟨uartMsgq, data, -, hmade, hequation⟩ := h.bounded.handleUartMessages_eq port.sys.pkth
  have hready := h.bounded.isSome_nextLine
  cases hnextLine : port.uart.nextLine with
  | none =>
    have hidle : ¬ (port.uart.HasLine ∧ port.uart.hasPktHandler = true) :=
      fun hboth ↦ absurd (hready.mpr hboth) (by simp [hnextLine])
    rw [hequation] at hround
    split_ifs at hround with hline hserved
    · exact absurd ⟨hline, hserved⟩ hidle
    · cases hround
      exact .inl ⟨rfl, by simp⟩
    · cases hround
      exact .inl ⟨rfl, by simp⟩
  | some line =>
    obtain ⟨hline, hserved⟩ := hready.mp (by simp [hnextLine])
    rw [hequation, if_pos hline, if_pos hserved] at hround
    obtain ⟨⟨ret, after⟩, hhandle, hresult⟩ := bind_eq_ok.mp hround
    cases hresult
    have hfrom := fromPort_packetOfMessage_iff (hmade line (by simp [hnextLine]))
    rw [FromPort] at hfrom
    simp only [h.same.srcId, h.same.destId] at hfrom
    exact .inr ⟨line, rfl, data, ret, pkth, hfrom, hhandle, rfl⟩

/-- A round of the UART thread that hands over data keeps the invariant. -/
theorem PortInvariant.message (h : PortInvariant start port)
    (hdata : HandsOverData port .message)
    (hstep : portStep crc16_ccitt port .message = .ok next) : PortInvariant start next := by
  obtain ⟨hround, ⟨-, hnext⟩ | ⟨line, hline, data, ret, after, hport, hhandle, hnext⟩⟩ :=
    h.message_cases hstep
  · rw [hnext]
    exact hround
  · have hfrom := hport.mpr (hdata line hline)
    obtain ⟨packets, hpackets, hown⟩ := h.packets
    rw [hnext]
    have hhanded := List.forall_mem_append.mpr ⟨h.handed, List.forall_mem_singleton.mpr hfrom⟩
    obtain rfl | ⟨pkthMsgq, rfl, hslots⟩ := hpackets.of_handlePacket hhandle
    · exact { hround with handed := hhanded }
    · exact { hround with
        handed := hhanded
        packets := ⟨_, hslots, List.forall_mem_append.mpr
          ⟨hown, List.forall_mem_singleton.mpr hfrom⟩⟩ }

/-- A line that starts with the start token leaves a packet that is not data of the port. -/
theorem PortInvariant.marked (h : PortInvariant start port) {action : PortAction}
    (htoken : ¬ HandsOverData port action) (hstep : portStep crc16_ccitt port action = .ok next) :
    ∃ data ∈ next.handed, ¬ FromPort start.uart data := by
  cases action with
  | message =>
    obtain ⟨-, ⟨hnone, -⟩ | ⟨line, hline, data, ret, after, hport, -, hnext⟩⟩ := h.message_cases hstep
    · exact absurd (fun line hline ↦ by simp [hnone] at hline) htoken
    · rw [hnext]
      refine ⟨data, by simp, fun hfrom ↦ htoken fun other hother ↦ ?_⟩
      rw [← Option.mem_unique hline hother]
      exact hport.mp hfrom
  | receive c => exact absurd trivial htoken
  | packet => exact absurd trivial htoken
  | work => exact absurd trivial htoken

/-- What has been handed over stays handed over. -/
theorem handed_subset (hstep : portStep crc16_ccitt port action = .ok next) :
    port.handed ⊆ next.handed := by
  cases action with
  | receive c =>
    obtain ⟨received, -, hnext⟩ := bind_eq_ok.mp hstep
    cases hnext
    exact List.Subset.refl _
  | message =>
    obtain ⟨⟨uart, pkth, handed⟩, -, hnext⟩ := bind_eq_ok.mp hstep
    cases hnext
    exact List.subset_append_left _ _
  | packet =>
    obtain ⟨⟨found, pkth⟩, -, hnext⟩ := bind_eq_ok.mp hstep
    cases found with
    | none =>
      cases hnext
      exact List.Subset.refl _
    | some data =>
      obtain ⟨sys, -, hresult⟩ := bind_eq_ok.mp hnext
      cases hresult
      exact List.Subset.refl _
  | work =>
    cases hstep
    exact List.Subset.refl _

/-- Dispatching data of the port changes the message of its destination only, and answers the
pending request of the port. -/
theorem PortInvariant.dispatch (h : PortInvariant start port) {data : PacketData} {sys : System}
    (hport : FromPort start.uart data)
    (hstep : handlePacketData crc16_ccitt port.sys data = .ok sys) :
    PortInvariant start { port with sys := sys } := by
  obtain ⟨htype, -, hdest⟩ := hport
  obtain ⟨source, slot, -, hslot, -, rfl⟩ := handlePacketData_outgoing crc16_ccitt hstep htype
  refine { h with
    packets := ?packets
    lookup := fun instId ↦ ?lookup
    msg := fun other hother ↦ ?msg
    pending := fun other ↦ ?pending }
  case packets =>
    obtain ⟨packets, hpackets, hown⟩ := h.packets
    exact ⟨packets, hpackets.of_queue (by simp), hown⟩
  case lookup => exact (getHandler_handlePacketData crc16_ccitt hstep instId).trans (h.lookup instId)
  case msg =>
    have hne : other ≠ slot := by
      rintro rfl
      rw [h.lookup, hdest] at hslot
      exact hother hslot
    exact (msg_deliver_acceptPacket port.sys source hne _).trans (h.msg other hother)
  case pending =>
    rw [result_deliver_acceptPacket]
    split_ifs
    · exact .inl rfl
    · exact h.pending other

/-- The packet thread handles the oldest packet, if there is one. -/
theorem PortInvariant.packet_eq (h : PortInvariant start port)
    (crc16_ccitt : UInt16 → List UInt8 → UInt16) :
    ∃ pkthMsgq,
      PortInvariant start
        { port with sys := { port.sys with pkth := { port.sys.pkth with pkthMsgq } } } ∧
      (∀ data ∈ port.sys.pkth.nextPacket, FromPort start.uart data) ∧
      portStep crc16_ccitt port .packet =
        match port.sys.pkth.nextPacket with
        | none => .ok { port with sys := { port.sys with pkth := { port.sys.pkth with pkthMsgq } } }
        | some data => (handlePacketData crc16_ccitt
            { port.sys with pkth := { port.sys.pkth with pkthMsgq } } data).bind fun sys ↦
              .ok { port with sys := sys } := by
  obtain ⟨packets, hpackets, hown⟩ := h.packets
  obtain ⟨pkthMsgq, hget, hrest, -⟩ := hpackets.get
  have hhead : port.sys.pkth.nextPacket = packets.head? := by rw [PacketHandler.nextPacket, hget]
  refine ⟨pkthMsgq, { h with packets := ⟨packets.tail, hrest, fun data hdata ↦
    hown data (List.mem_of_mem_tail hdata)⟩ }, fun data hdata ↦ ?_, ?_⟩
  · rw [hhead] at hdata
    exact hown data (List.mem_of_mem_head? hdata)
  · rw [hhead, portStep, PacketHandler.getPacket, hget]
    cases packets.head? with
    | none => rfl
    | some data => rfl

theorem PortInvariant.packet_returns_iff (h : PortInvariant start port) :
    (∃ next, portStep crc16_ccitt port .packet = .ok next) ↔ HandsOverInside port .packet := by
  obtain ⟨pkthMsgq, -, -, hstep⟩ := h.packet_eq crc16_ccitt
  rw [hstep, HandsOverInside]
  cases port.sys.pkth.nextPacket with
  | none => simp
  | some data =>
    refine (bind_returns_iff fun _ ↦ ⟨_, rfl⟩).trans ?_
    rw [handlePacketData_returns_iff]
    simp only [Option.mem_def, Option.some.injEq, forall_eq']
    exact Iff.rfl

/-- A step of the packet thread keeps the invariant. -/
theorem PortInvariant.packet (h : PortInvariant start port)
    (hstep : portStep crc16_ccitt port .packet = .ok next) : PortInvariant start next := by
  obtain ⟨pkthMsgq, htaken, hport, hequation⟩ := h.packet_eq crc16_ccitt
  rw [hequation] at hstep
  cases hnext : port.sys.pkth.nextPacket with
  | none =>
    rw [hnext] at hstep
    cases hstep
    exact htaken
  | some data =>
    rw [hnext] at hstep
    obtain ⟨sys, hdispatch, hresult⟩ := bind_eq_ok.mp hstep
    cases hresult
    exact htaken.dispatch (hport data hnext) hdispatch

/-- A run of a work item keeps the invariant. -/
theorem PortInvariant.work (h : PortInvariant start port) :
    PortInvariant start { port with sys := port.sys.runWork } := by
  have hmsg (slot : Slot) : (port.sys.runWork.handler slot).msg = (port.sys.handler slot).msg := by
    obtain ⟨queued, hhandler⟩ := port.sys.handler_runWork slot
    rw [hhandler]
  have hresult (slot : Slot) :
      (port.sys.runWork.handler slot).result = (port.sys.handler slot).result := by
    obtain ⟨queued, hhandler⟩ := port.sys.handler_runWork slot
    rw [hhandler]
  refine { h with
    packets := ?packets
    lookup := fun instId ↦ ?lookup
    msg := fun slot hslot ↦ ?msg
    pending := fun slot ↦ ?pending }
  case packets =>
    obtain ⟨packets, hpackets, hown⟩ := h.packets
    exact ⟨packets, hpackets.of_queue (by simp), hown⟩
  case lookup => rw [System.getHandler_runWork, h.lookup]
  case msg => rw [hmsg, h.msg slot hslot]
  case pending =>
    rw [hresult]
    exact h.pending slot

/-! ## Steps -/

theorem PortInvariant.step (h : PortInvariant start port) {action : PortAction}
    (hdata : HandsOverData port action) (hstep : portStep crc16_ccitt port action = .ok next) :
    PortInvariant start next := by
  cases action with
  | receive c =>
    obtain ⟨other, hother, hreceived⟩ := h.receive crc16_ccitt c
    cases hstep.symm.trans hother
    exact hreceived
  | message => exact h.message hdata hstep
  | packet => exact h.packet hstep
  | work =>
    cases hstep
    exact h.work

/-- A step stays inside the memory exactly under its condition. -/
theorem PortInvariant.returns_iff (h : PortInvariant start port) (action : PortAction) :
    (∃ next, portStep crc16_ccitt port action = .ok next) ↔ HandsOverInside port action := by
  cases action with
  | receive c =>
    obtain ⟨next, hnext, -⟩ := h.receive crc16_ccitt c
    exact iff_of_true ⟨next, hnext⟩ trivial
  | message => exact h.message_returns_iff
  | packet => exact h.packet_returns_iff
  | work => exact iff_of_true ⟨_, rfl⟩ trivial

end Step

/-- On a field port a message becomes data of the port exactly if it does not start with the start
token. From a quiet state on, a stream returns with nothing but data of the port handed over, no
message changed but that of its destination and no request pending, exactly if every line that is
handed over becomes data and has a slot, and every packet fits between registered handlers. No line
that starts with the start token is handed over if none has been received. -/
theorem field_port_isolated_iff (port : FieldPort) (hquiet : Quiet port) :
    (∀ msgBuf data, port.uart.packetOfMessage msgBuf = .ok data →
      (FromPort port.uart data ↔ byteAt msgBuf 0 ≠ uartStartToken)) ∧
    (∀ actions,
      (∃ last, run (portStep crc16_ccitt) port actions = .ok last ∧ Isolated port last) ↔
        Along (portStep crc16_ccitt)
          (fun port action ↦ HandsOverData port action ∧ HandsOverInside port action) port actions) ∧
    ∀ actions, Along (portStep crc16_ccitt) NoStartToken port actions →
      Along (portStep crc16_ccitt) HandsOverData port actions := by
  refine ⟨fun _ _ ↦ fromPort_packetOfMessage_iff, fun actions ↦ ⟨?_, fun halong ↦ ?_⟩,
    fun actions hclean ↦ ?_⟩
  · rintro ⟨last, hrun, hisolated⟩
    -- a line with the start token that is handed over stays among the packets
    refine along_of_unmarked (PortInvariant port)
      (fun state ↦ ∃ data ∈ state.handed, ¬ FromPort port.uart data)
      (fun h hcondition hstep ↦ h.step hcondition.1 hstep) (fun h hnot hstep ↦ ?_)
      (fun ⟨data, hdata, hother⟩ hstep ↦ ⟨data, handed_subset hstep hdata, hother⟩)
      hquiet.invariant hrun (fun ⟨data, hdata, hother⟩ ↦ hother (hisolated.handed data hdata))
    exact h.marked (fun hdata ↦ hnot ⟨hdata, (h.returns_iff _).mp ⟨_, hstep⟩⟩) hstep
  · obtain ⟨last, hrun, hlast⟩ := run_returns_along (PortInvariant port) (fun h hcondition ↦ by
      obtain ⟨next, hnext⟩ := (h.returns_iff _).mpr hcondition.2
      exact ⟨next, hnext, h.step hcondition.1 hnext⟩) hquiet.invariant halong
    exact ⟨last, hrun, hlast.toIsolated⟩
  · exact along_of_invariant_along (fun h _ ↦ h.handsOverData _)
      (fun h hclean hstep ↦ h.step hclean hstep) hquiet.cleanLines hclean

/-- The RS485 port that `main` sets up, with some more handlers registered. -/
def rs485Port (more : List (InstanceId × Address × Address)) : FieldPort where
  uart := Uart.initial instanceIdUartRs485 instanceIdCloud (Buffer.fill uartBufferSize 0) fun _ ↦ none
  sys := .boot (PacketHandler.routerRegistry more)
  handed := []

theorem quiet_rs485Port : Quiet (rs485Port []) where
  initialized := rfl
  bounded :=
    { counter := by decide
      maxMsgs := fun _ ↦ rfl
      lines := fun _ ↦ ⟨[], RingQueue.represents_init _ (by decide), by simp⟩
      thread := fun _ ↦ rfl }
  uartBufCtr := rfl
  uartMsgq := RingQueue.represents_init _ (by decide)
  packets := ⟨rfl, RingQueue.represents_init _ (by decide), le_rfl, Nat.zero_le _⟩
  handed := rfl

/-- A line of a field device is handed over as data of the port. -/
theorem field_port_isolated_of_reading :
    ∃ last, run (portStep zephyrCrc16Ccitt) (rs485Port [])
      [.receive 0x41, .receive lineFeed, .message, .packet, .work] = .ok last ∧
      Isolated (rs485Port []) last :=
  ((field_port_isolated_iff zephyrCrc16Ccitt (rs485Port []) quiet_rs485Port).2.1 _).mpr
    (by decide +kernel)

/-- A line that starts with the start token is handed over as a packet of the CM4, and a command in
it reaches a handler that is not the destination of the port. -/
theorem start_token_issues_command :
    ∃ last, run (portStep zephyrCrc16Ccitt) (rs485Port [(0, 4, 4)])
      [.receive uartStartToken, .receive 5, .receive lineFeed, .message, .packet] = .ok last ∧
      (∃ data ∈ last.handed, data.type = .incoming ∧ data.srcId = instanceIdUartCm4) ∧
      last.sys.workq = [3] ∧ last.sys.pkth.getHandler instanceIdCloud = some 0 :=
  ⟨_, rfl, ⟨_, List.mem_cons_self, rfl, rfl⟩, by decide +kernel, by decide +kernel⟩

end CrownstoneRouter
