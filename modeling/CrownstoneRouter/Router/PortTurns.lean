import CrownstoneRouter.Drivers.SerialInput
import CrownstoneRouter.Router.Dialogue

/-!
# The turns of the RS485 port

Whatever is said in turn, the RS485 port receives or transmits it: what a turn of the dialogue looks
like inside of the port is an invariant of its interrupts and of the UART thread.
-/

namespace CrownstoneRouter

open CheckedMemory CheckedRun LittleEndian

/-! ## What a turn looks like inside of the port -/

/-- A line, or the beginning of one, that the router can pass on. -/
structure Sayable (line : List UInt8) : Prop where
  clean : 0 ∉ line
  noToken : line.head? ≠ some uartStartToken
  fits : line.length ≤ longestLine

theorem sayable_nil : Sayable [] :=
  ⟨List.not_mem_nil, nofun, Nat.zero_le _⟩

namespace Turn

def spoken : Turn → List UInt8
  | .listening _ line | .heard _ line | .replied _ line | .answered _ line => line
  | .requested _ | .commanded _ | .transmitting _ _ => []

/-- The line that the port is receiving. -/
def line : Turn → List UInt8
  | .listening _ line => line
  | _ => []

/-- The lines that the UART thread has not seen. -/
def heardLines : Turn → List (List UInt8)
  | .heard _ line => [line]
  | _ => []

/-- What the port has still to transmit. -/
def unsent : Turn → List UInt8
  | .transmitting _ unsent => unsent
  | _ => []

def isTransmitting : Turn → Bool
  | .transmitting _ _ => true
  | _ => false

/-- What the port promises. -/
def port (turn : Turn) : Uart.DuplexPromise where
  line := turn.line
  queued := turn.heardLines.length
  lines := []
  unsent := turn.unsent
  given := []

end Turn

/-- The RS485 port at some turn. -/
structure PortAttends (turn : Turn) (uart : Uart) : Prop where
  duplex : Uart.HalfDuplex { uart, lines := [], given := [] } turn.port
  rx : uart.rxIrqEnabled = !turn.isTransmitting
  tx : uart.txIrqEnabled = turn.isTransmitting
  heard : ∃ messages, uart.uartMsgq.Represents messages ∧
    messages.map (fun msgBuf ↦ msgBuf.cells.takeWhile (· ≠ 0)) = turn.heardLines
  sayable : Sayable turn.spoken
  threadRunning : uart.threadRunning = true
  hasPktHandler : uart.hasPktHandler = true
  srcId : uart.srcId = instanceIdUartRs485
  destId : uart.destId = instanceIdCloud

namespace PortAttends

variable {turn : Turn} {uart next : Uart} {irq : UartIrq}

/-- A turn that is the same to the port. -/
theorem same {other : Turn} (h : PortAttends turn uart) (hport : other.port = turn.port)
    (htransmitting : other.isTransmitting = turn.isTransmitting)
    (hheard : other.heardLines = turn.heardLines) (hsayable : Sayable other.spoken) :
    PortAttends other uart where
  duplex := hport ▸ h.duplex
  rx := htransmitting ▸ h.rx
  tx := htransmitting ▸ h.tx
  heard := hheard ▸ h.heard
  sayable := hsayable
  threadRunning := h.threadRunning
  hasPktHandler := h.hasPktHandler
  srcId := h.srcId
  destId := h.destId

/-- The hardware raises what is enabled. -/
theorem raised (h : PortAttends turn uart) (hraises : turn.Raises irq) : Uart.Raised uart irq := by
  have hctr : uart.uartBufCtr = turn.line.length + turn.unsent.length := h.duplex.ctr
  have hrx := h.rx
  have htx := h.tx
  cases turn with
  | transmitting request unsent =>
    obtain ⟨hquiet, hdone⟩ := hraises
    refine ⟨fun hready ↦ ?_, fun _ ↦ htx, fun _ hcomplete ↦ ?_⟩
    · rw [hquiet] at hready
      cases hready
    · rw [hctr]
      exact (Nat.zero_add _).trans_le (hdone hcomplete)
  | _ =>
    refine ⟨fun _ ↦ hrx, fun hready ↦ ?_, fun hready ↦ ?_⟩
    · rw [hraises.1] at hready
      cases hready
    · rw [hraises.1] at hready
      cases hready

/-- An interrupt, in the terms of the life of a port. -/
theorem interrupt_eq (h : PortAttends turn uart) (hraises : turn.Raises irq) :
    ∃ next bytes lines, uart.handleUartInterrupt irq = .ok (next, bytes) ∧
      ((Uart.LifeEvent.interrupt irq).action.elim (.ok { uart, lines := [], given := [] })
        fun action ↦ Uart.duplexStep { uart, lines := [], given := [] } action) =
          .ok { uart := next, lines, given := bytes } ∧
      Uart.HalfDuplex { uart := next, lines := [], given := [] }
        { Uart.promised turn.port (.interrupt irq) with lines := [], given := [] } ∧
      bytes = (Uart.promised turn.port (.interrupt irq)).given := by
  have hraised := h.raised hraises
  have hbetween : Uart.BetweenLines { uart, lines := [], given := [] } (.interrupt irq) := hraised
  obtain ⟨last, hstep, hlast⟩ := h.duplex.step hbetween
  have hlife := Uart.lifeStep_interrupt h.duplex hraised
  rw [hstep] at hlife
  have hinit : ¬ (!uart.initialized) = true := by
    have hset : uart.initialized = true := h.duplex.initialized
    simp [hset]
  simp only [Uart.lifeStep, if_neg hinit] at hstep
  obtain ⟨⟨next, bytes⟩, hinterrupt, hnext⟩ := bind_eq_ok.mp hstep
  cases hnext
  exact ⟨next, bytes, _, hinterrupt, hlife.symm, { hlast with lines := rfl, given := rfl },
    hlast.given⟩

/-- An interrupt receives a byte, transmits, or does nothing. -/
theorem action_cases (irq : UartIrq) :
    (Uart.LifeEvent.interrupt irq).action = none ∨
    (∃ c, (Uart.LifeEvent.interrupt irq).action = some (.received c) ∧ irq.rxReady = true ∧
      irq.fifoRead = some c) ∨
    ((Uart.LifeEvent.interrupt irq).action = some (.transmit irq.fifoSpace irq.txComplete) ∧
      irq.txReady = true) := by
  simp only [Uart.LifeEvent.action]
  split_ifs with hquiet hrx htx
  · exact .inl rfl
  · cases hread : irq.fifoRead with
    | none => exact .inl rfl
    | some c => exact .inr (.inl ⟨c, rfl, hrx, rfl⟩)
  · exact .inr (.inr ⟨rfl, htx⟩)
  · exact .inl rfl

theorem lineEnd (h : PortAttends turn uart) (hline : turn.line = []) (hsilent : turn.unsent = [])
    {c : UInt8} (hend : c = lineFeed ∨ c = carriageReturn) : uart.receiveByte c = .ok uart := by
  have hctr : uart.uartBufCtr = turn.line.length + turn.unsent.length := h.duplex.ctr
  rw [hline, hsilent] at hctr
  exact Uart.receiveByte_of_first (hend.imp_right .inl) (by simp [hctr])

theorem receiveByte_of_duplexStep {c : UInt8} {lines : List PutLine} {bytes : List UInt8}
    (hstep : Uart.duplexStep { uart, lines := [], given := [] } (.received c) =
      .ok { uart := next, lines, given := bytes }) :
    uart.receiveByte c = .ok next ∧ bytes = [] := by
  obtain ⟨⟨received, sent⟩, hinterrupt, hnext⟩ := bind_eq_ok.mp hstep
  cases hnext
  rw [Uart.handleUartInterrupt_received] at hinterrupt
  obtain ⟨last, hreceive, hlast⟩ := bind_eq_ok.mp hinterrupt
  cases hlast
  exact ⟨hreceive, rfl⟩

/-- The end of a line that is not empty. -/
theorem receive_end {pending : Option Request} {line : List UInt8}
    (h : PortAttends (.listening pending line) uart) (hline : line ≠ []) {c : UInt8}
    (hend : c = lineFeed ∨ c = carriageReturn) (hreceive : uart.receiveByte c = .ok next)
    (hduplex : Uart.HalfDuplex { uart := next, lines := [], given := [] }
      { (Turn.port (.listening pending line)).receive c with lines := [], given := [] }) :
    PortAttends (.heard pending line) next := by
  have hctr : uart.uartBufCtr = line.length := h.duplex.ctr
  have hpositive : 0 < uart.uartBufCtr := by
    rw [hctr]
    exact List.length_pos_of_ne_nil hline
  have hlt : uart.uartBufCtr < uartBufferSize := by
    rw [hctr]
    exact h.duplex.line_lt
  obtain ⟨messages, hmessages, hnone⟩ := h.heard
  obtain rfl : messages = [] := List.map_eq_nil_iff.mp hnone
  have hfree : uart.uartMsgq.usedMsgs < uart.uartMsgq.maxMsgs := by
    rw [hmessages.used, h.duplex.maxMsgs]
    decide
  obtain ⟨uartMsgq, hended, -, hkept⟩ :=
    Uart.receiveByte_of_end (hend.imp_right .inl) hpositive hlt h.duplex.maxMsgs hmessages
  rw [if_pos hfree] at hkept
  obtain rfl := Except.ok.inj (hended.symm.trans hreceive)
  have hbuffered : uart.uartBuf.slice 0 uart.uartBufCtr = line := by
    rw [hctr]
    exact h.duplex.line
  have htext : (uart.uartBuf.patch uart.uartBufCtr [0]).cells.takeWhile (· ≠ 0) = line := by
    have hslice := Buffer.slice_patch_singleton uart.uartBuf hlt 0
    rw [hbuffered] at hslice
    apply Uart.takeWhile_of_slice _ h.sayable.clean
    change (uart.uartBuf.patch uart.uartBufCtr [0]).slice 0 (line.length + 1) = line ++ [0]
    rw [← hslice, hctr]
  have hport : (Turn.port (.listening pending line)).receive c =
      { line := [], queued := 1, lines := [(line, true)], unsent := [], given := [] } :=
    (if_pos (hend.imp_right .inl)).trans (if_neg hline)
  constructor
  case duplex =>
    rw [hport] at hduplex
    exact hduplex
  case rx => exact h.rx
  case tx => exact h.tx
  case heard => exact ⟨_, hkept, by rw [List.nil_append, List.map_singleton, htext]; rfl⟩
  case sayable => exact h.sayable
  case threadRunning => exact h.threadRunning
  case hasPktHandler => exact h.hasPktHandler
  case srcId => exact h.srcId
  case destId => exact h.destId

/-- Another byte of a line. -/
theorem receive_char {pending : Option Request} {line : List UInt8}
    (h : PortAttends (.listening pending line) uart) {c : UInt8}
    (hchar : ¬ (c = lineFeed ∨ c = carriageReturn)) (hclean : c ≠ 0)
    (htoken : line = [] → c ≠ uartStartToken) (hfits : line.length < longestLine)
    (hreceive : uart.receiveByte c = .ok next)
    (hduplex : Uart.HalfDuplex { uart := next, lines := [], given := [] }
      { (Turn.port (.listening pending line)).receive c with lines := [], given := [] }) :
    PortAttends (.listening pending (line ++ [c])) next := by
  have hctr : uart.uartBufCtr = line.length := h.duplex.ctr
  have hlength : line.length ≠ uartBufferSize - 1 := by
    have hsizes : longestLine ≤ uartBufferSize - 1 := by decide
    omega
  have hother : ¬ (c = lineFeed ∨ c = carriageReturn ∨ line.length = uartBufferSize - 1) := by
    tauto
  have hlt : uart.uartBufCtr < uartBufferSize := by
    rw [hctr]
    exact h.duplex.line_lt
  have hport : (Turn.port (.listening pending line)).receive c =
      Turn.port (.listening pending (line ++ [c])) := if_neg hother
  have hextended := Uart.receiveByte_of_char (hctr ▸ hother) hlt
  obtain rfl := Except.ok.inj (hextended.symm.trans hreceive)
  constructor
  case duplex =>
    rw [hport] at hduplex
    exact hduplex
  case rx => exact h.rx
  case tx => exact h.tx
  case heard => exact h.heard
  case sayable =>
    refine ⟨?_, ?_, ?_⟩
    · rw [Turn.spoken, List.mem_append, List.mem_singleton, not_or]
      exact ⟨h.sayable.clean, hclean.symm⟩
    · have hbefore := h.sayable.noToken
      cases line with
      | nil => simpa [Turn.spoken] using htoken rfl
      | cons first rest => simpa [Turn.spoken] using hbefore
    · rw [Turn.spoken, List.length_append, List.length_singleton]
      exact hfits
  case threadRunning => exact h.threadRunning
  case hasPktHandler => exact h.hasPktHandler
  case srcId => exact h.srcId
  case destId => exact h.destId

/-- Bytes are given to the FIFO. -/
theorem transmit {request : Request} {unsent : List UInt8}
    (h : PortAttends (.transmitting request unsent) uart) {fifoSpace : ℕ} {txComplete : Bool}
    {lines : List PutLine} {bytes : List UInt8}
    (hdone : txComplete = true → unsent.length ≤ fifoSpace)
    (hstep : Uart.duplexStep { uart, lines := [], given := [] } (.transmit fifoSpace txComplete) =
      .ok { uart := next, lines, given := bytes })
    (hduplex : Uart.HalfDuplex { uart := next, lines := [], given := [] }
      { (Turn.port (.transmitting request unsent)).step (.transmit fifoSpace txComplete) with
        lines := [], given := [] }) :
    PortAttends (if txComplete then .listening (some request) []
      else .transmitting request (unsent.drop fifoSpace)) next := by
  have heq := Uart.duplexStep_transmit (h.duplex.count (.inr rfl)) (h.duplex.fillFifo fifoSpace)
    txComplete
  have hrx : uart.rxIrqEnabled = false := h.rx
  have htx : uart.txIrqEnabled = true := h.tx
  rw [heq] at hstep
  cases hstep
  cases txComplete with
  | true =>
    constructor
    case duplex =>
      have hempty : unsent.drop fifoSpace = [] := List.drop_eq_nil_of_le (hdone rfl)
      have hport : { (Turn.port (.transmitting request unsent)).step (.transmit fifoSpace true) with
          lines := [], given := [] } = Turn.port (.listening (some request) []) := by
        simp [Uart.DuplexPromise.step, Turn.port, Turn.line, Turn.heardLines, Turn.unsent, hempty]
      rw [hport] at hduplex
      exact hduplex
    case rx => rfl
    case tx => rfl
    case heard => exact h.heard
    case sayable => exact sayable_nil
    case threadRunning => exact h.threadRunning
    case hasPktHandler => exact h.hasPktHandler
    case srcId => exact h.srcId
    case destId => exact h.destId
  | false =>
    constructor
    case duplex => exact hduplex
    case rx => exact hrx
    case tx => exact htx
    case heard => exact h.heard
    case sayable => exact sayable_nil
    case threadRunning => exact h.threadRunning
    case hasPktHandler => exact h.hasPktHandler
    case srcId => exact h.srcId
    case destId => exact h.destId

/-- An interrupt does with the port what it is to the dialogue. -/
theorem interrupt (h : PortAttends turn uart) (hraises : turn.Raises irq) :
    ∃ next, uart.handleUartInterrupt irq = .ok (next, turn.transmitted irq) ∧
      PortAttends (turn.interrupt irq) next := by
  obtain ⟨next, bytes, lines, hinterrupt, hstep, hduplex, hbytes⟩ := h.interrupt_eq hraises
  unfold Turn.interrupt Turn.transmitted
  unfold Uart.promised at hduplex hbytes
  obtain haction | ⟨c, haction, hrx, hread⟩ | ⟨haction, htx⟩ := action_cases irq
  · rw [haction] at hstep
    cases hstep
    rw [haction]
    exact ⟨uart, by cases turn <;> exact hinterrupt, by cases turn <;> exact h⟩
  · rw [haction] at hstep hduplex ⊢
    simp only [Option.elim_some] at hstep hduplex
    obtain ⟨hreceive, rfl⟩ := receiveByte_of_duplexStep hstep
    cases turn with
    | transmitting request unsent =>
      rw [hraises.1] at hrx
      cases hrx
    | listening pending line =>
      refine ⟨next, hinterrupt, ?_⟩
      have hsays : Turn.Says (.listening pending line) c := hraises.2 hrx c hread
      by_cases hend : c = lineFeed ∨ c = carriageReturn
      · simp only [if_pos hend]
        by_cases hline : line = []
        · rw [if_pos hline]
          subst hline
          obtain rfl := Except.ok.inj ((h.lineEnd rfl rfl hend).symm.trans hreceive)
          exact h
        · rw [if_neg hline]
          exact h.receive_end hline hend hreceive hduplex
      · simp only [if_neg hend]
        obtain ⟨hclean, htoken, hfits⟩ := (or_assoc.mpr hsays).resolve_left hend
        exact h.receive_char hend hclean htoken hfits hreceive hduplex
    | _ =>
      have hsays := hraises.2 hrx c hread
      have hend : c = lineFeed ∨ c = carriageReturn := by
        simpa [Turn.Says] using hsays
      obtain rfl := Except.ok.inj ((h.lineEnd rfl rfl hend).symm.trans hreceive)
      exact ⟨uart, hinterrupt, h⟩
  · rw [haction] at hstep hduplex hbytes ⊢
    simp only [Option.elim_some] at hstep hduplex hbytes
    cases turn with
    | transmitting request unsent =>
      refine ⟨next, ?_, h.transmit hraises.2 hstep hduplex⟩
      rw [hinterrupt, hbytes]
      rfl
    | _ =>
      rw [hraises.1] at htx
      cases htx

/-- The transmission of a request begins. -/
theorem send {request : Request} (h : PortAttends (.commanded request) uart) {hdlr : Handler}
    (hpayload : hdlr.msg.contents = request.payload)
    (hfits : hdlr.msg.bufLen.toNat ≤ packetBufSize) :
    ∃ next after, uart.sendUartMessage hdlr = .ok (next, after) ∧
      PortAttends (.transmitting request request.payload) next := by
  have hctr : uart.uartBufCtr = 0 := h.duplex.ctr
  obtain ⟨last, hstep, hlast⟩ := h.duplex.send hfits fun _ ↦ hctr
  have heq := Uart.duplexStep_send h.duplex.initialized hfits
  obtain ⟨⟨next, after⟩, hsend, hnext⟩ := bind_eq_ok.mp hstep
  rw [heq] at hstep
  cases hnext
  cases hstep
  refine ⟨_, after, hsend, ?_⟩
  have hport : (Turn.port (.commanded request)).step (.send hdlr) =
      Turn.port (.transmitting request request.payload) := by
    rw [Uart.DuplexPromise.step, hpayload]
    rfl
  rw [hport] at hlast
  constructor
  case duplex => exact hlast
  case rx => rfl
  case tx => rfl
  case heard => exact h.heard
  case sayable => exact sayable_nil
  case threadRunning => exact h.threadRunning
  case hasPktHandler => exact h.hasPktHandler
  case srcId => exact h.srcId
  case destId => exact h.destId

end PortAttends

/-- The packet of a line of the device. -/
def replyPacket (line : List UInt8) : PacketData where
  type := .outgoing
  destId := instanceIdCloud
  srcId := instanceIdUartRs485
  resultCode := 0
  msg := .ofBytes line

namespace PortAttends

variable {turn : Turn} {uart : Uart} {pkth : PacketHandler}

theorem waits (h : PortAttends turn uart) (hsilent : turn.heardLines = []) (pkth : PacketHandler) :
    uart.handleUartMessages pkth = .ok (uart, pkth, none) := by
  obtain ⟨messages, hmessages, hnone⟩ := h.heard
  rw [hsilent] at hnone
  obtain rfl : messages = [] := List.map_eq_nil_iff.mp hnone
  rw [Uart.handleUartMessages, if_neg (by simp [h.threadRunning]), hmessages.get_nil]
  rfl

/-- A line is taken, and a packet is made of it. -/
theorem takeLine {pending : Option Request} {line : List UInt8}
    (h : PortAttends (.heard pending line) uart) :
    ∃ msgBuf uartMsgq, uart.uartMsgq.get = .ok (some msgBuf, uartMsgq) ∧
      Uart.packetOfMessage { uart with uartMsgq } msgBuf = .ok (replyPacket line) ∧
      PortAttends (.replied pending line) { uart with uartMsgq } := by
  obtain ⟨messages, hmessages, hlines⟩ := h.heard
  obtain ⟨msgBuf, rfl, hline⟩ := List.map_eq_singleton_iff.mp hlines
  obtain ⟨uartMsgq, hget, hrest, -⟩ := hmessages.get_cons
  have hsizes : longestLine ≤ packetBufSize := by decide
  have hfits : line.length ≤ packetBufSize := h.sayable.fits.trans hsizes
  have htext : Uart.messageText msgBuf = line := by
    rw [Uart.messageText, hline]
    exact List.take_of_length_le hfits
  have hfirst : byteAt msgBuf 0 ≠ uartStartToken := by
    intro htoken
    apply h.sayable.noToken
    change line.head? = _
    have hcells : msgBuf.cells ≠ [] := by
      rw [← List.length_pos_iff, msgBuf.length_cells]
      decide
    obtain ⟨first, rest, hfirst⟩ := List.exists_cons_of_ne_nil hcells
    rw [byteAt, hfirst, List.getD_cons_zero] at htoken
    rw [← hline, hfirst, htoken, List.takeWhile_cons_of_pos (by decide)]
    rfl
  have hdata : Uart.packetOfMessage { uart with uartMsgq } msgBuf = .ok (replyPacket line) := by
    rw [Uart.packetOfMessage_eq, hline, if_pos (hfits.trans_lt (by decide)), if_neg hfirst, htext,
      h.srcId, h.destId]
    rfl
  obtain ⟨last, hstep, hduplex⟩ := h.duplex.takeLine
  simp only [Uart.duplexStep, hget, bind, bind_ok] at hstep
  cases hstep
  refine ⟨msgBuf, uartMsgq, hget, hdata, ?_⟩
  constructor
  case duplex => exact hduplex
  case rx => exact h.rx
  case tx => exact h.tx
  case heard => exact ⟨[], hrest, rfl⟩
  case sayable => exact h.sayable
  case threadRunning => exact h.threadRunning
  case hasPktHandler => exact h.hasPktHandler
  case srcId => exact h.srcId
  case destId => exact h.destId

/-- The UART thread hands a line over. -/
theorem reply {pending : Option Request} {line : List UInt8}
    (h : PortAttends (.heard pending line) uart) {after : PacketHandler}
    (hhandle : pkth.handlePacket (replyPacket line) = .ok (.ok, after)) :
    ∃ next, uart.handleUartMessages pkth = .ok (next, after, some (replyPacket line)) ∧
      PortAttends (.replied pending line) next := by
  obtain ⟨msgBuf, uartMsgq, hget, hdata, hnext⟩ := h.takeLine
  have hround :=
    Uart.handleUartMessages_of_get h.threadRunning h.hasPktHandler hget hdata hhandle
  have hrunning : decide (RetCode.ok ≠ RetCode.aborted) = uart.threadRunning :=
    h.threadRunning.symm
  rw [hrunning] at hround
  exact ⟨_, hround, hnext⟩

theorem reply_overruns {pending : Option Request} {line : List UInt8}
    (h : PortAttends (.heard pending line) uart) {fault : Fault}
    (hhandle : pkth.handlePacket (replyPacket line) = .error fault) :
    uart.handleUartMessages pkth = .error fault := by
  obtain ⟨msgBuf, uartMsgq, hget, hdata, -⟩ := h.takeLine
  rw [Uart.handleUartMessages, if_neg (by simp [h.threadRunning]), hget]
  change (Uart.packetOfMessage { uart with uartMsgq } msgBuf).bind _ = _
  rw [hdata, bind_ok]
  change (if uart.hasPktHandler then (pkth.handlePacket (replyPacket line)).bind _ else _) = _
  rw [if_pos h.hasPktHandler, hhandle, bind_error]

end PortAttends

end CrownstoneRouter
