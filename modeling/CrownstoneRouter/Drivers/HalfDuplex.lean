import CrownstoneRouter.Drivers.Duplex

/-!
# The life of a serial port

A port is initialized with a configuration and may be disabled again. On hardware that raises
enabled interrupts only, and reports the end of a transmission only when everything has been given to
the FIFO, a port never receives and transmits at once: it is a half-duplex port whose directions
take turns of themselves, as long as no message is sent within a line.
-/

namespace CrownstoneRouter

open CheckedMemory CheckedRun

namespace RetCode

/-- `CS_ERR_UART_CONFIG_INVALID` -/
def uartConfigInvalid : RetCode := 0x301

/-- `CS_ERR_UART_CONFIG_FAILED` -/
def uartConfigFailed : RetCode := 0x302

end RetCode

/-! ## Configuration -/

/-- `uart_config_parity` -/
inductive UartParity
  | none
  | odd
  | even
  | mark
  | space
  deriving DecidableEq

/-- `uart_config_stop_bits` -/
inductive UartStopBits
  | half
  | one
  | oneAndHalf
  | two
  deriving DecidableEq

/-- `cs_uart_config` -/
structure CsUartConfig where
  baudrate : UInt32
  parity : UartParity
  stopBits : UartStopBits
  deriving DecidableEq

/-- `uart_config`, with eight data bits and no flow control. -/
structure UartConfig where
  baudrate : UInt32
  parity : UartParity
  stopBits : UartStopBits
  deriving DecidableEq

/-- `CS_UART_RS_BAUD_MIN` -/
def uartRsBaudMin : UInt32 := 110

/-- `CS_UART_RS_BAUD_MAX` -/
def uartRsBaudMax : UInt32 := 115200

/-- `CS_UART_RS_BAUD_DEFAULT` -/
def uartRsBaudDefault : UInt32 := 9600

/-- `CLAMP` -/
def clamp (value low high : UInt32) : UInt32 :=
  if value ≤ low then low else if value ≤ high then value else high

namespace Uart

/-- The object that the constructor leaves, in memory with some content. -/
def created (srcId destId : InstanceId) (uartBuf : Buffer UInt8 uartBufferSize)
    (cells : Fin (uartMsgqBufSize / uartBufferSize) → Option (Buffer UInt8 uartBufferSize)) :
    Uart where
  initialized := false
  destId := destId
  srcId := srcId
  hasPktHandler := true
  uartMsgq := RingQueue.init cells 0
  threadRunning := false
  uartBuf := uartBuf
  uartBufCtr := 0
  uartBufPtr := none
  rxIrqEnabled := false
  txIrqEnabled := false

/-- What `init` passes to `uart_configure`, if it accepts the configuration. -/
def uartCfg (uart : Uart) : Option CsUartConfig → Option UartConfig
  | none => some { baudrate := uartRsBaudDefault, parity := .none, stopBits := .one }
  | some cfg =>
      if uart.srcId = instanceIdUartCm4 then
        some { baudrate := cfg.baudrate, parity := cfg.parity, stopBits := cfg.stopBits }
      else
        let baudrate := clamp cfg.baudrate uartRsBaudMin uartRsBaudMax
        match cfg.parity with
        | .odd | .even => some { baudrate, parity := cfg.parity, stopBits := .one }
        | .none => some { baudrate, parity := cfg.parity, stopBits := cfg.stopBits }
        | .mark | .space => none

/-- `Uart::init`; `ready` and `configured` are the results of `device_is_ready` and
`uart_configure`. The last component is the configuration that the device is asked for. -/
def init (uart : Uart) (cfg : Option CsUartConfig) (ready : Bool) (configured : ℤ) :
    RetCode × Uart × Option UartConfig :=
  if uart.initialized then (.alreadyInitialized, uart, none)
  else if !ready then (.deviceNotReady, uart, none)
  else
    match uart.uartCfg cfg with
    | none => (.uartConfigInvalid, uart, none)
    | some uartCfg =>
        if configured ≠ 0 then (.uartConfigFailed, uart, some uartCfg)
        else
          (.ok, { uart with
            uartMsgq := RingQueue.init uart.uartMsgq.cells uartBufferQueueSize
            rxIrqEnabled := true
            threadRunning := true
            initialized := true }, some uartCfg)

/-- `Uart::disable` -/
def disable (uart : Uart) : Uart :=
  { uart with rxIrqEnabled := false, txIrqEnabled := false }

/-- A configuration of a serial bus: the baudrate is one of RS232 and RS485, and a parity bit leaves
room for one stop bit in the eleven bits of a character. -/
structure OnBus (config : UartConfig) : Prop where
  baudrate : uartRsBaudMin ≤ config.baudrate ∧ config.baudrate ≤ uartRsBaudMax
  parity : config.parity = .none ∨ config.parity = .odd ∨ config.parity = .even
  stopBits : config.parity ≠ .none → config.stopBits = .one

theorem clamp_bounds (value : UInt32) :
    uartRsBaudMin ≤ clamp value uartRsBaudMin uartRsBaudMax ∧
      clamp value uartRsBaudMin uartRsBaudMax ≤ uartRsBaudMax := by
  unfold clamp
  split_ifs with hlow hhigh
  · decide
  · exact ⟨(UInt32.le_total _ _).resolve_left hlow, hhigh⟩
  · decide

theorem clamp_of_bounds {value : UInt32} (hlow : uartRsBaudMin ≤ value)
    (hhigh : value ≤ uartRsBaudMax) : clamp value uartRsBaudMin uartRsBaudMax = value := by
  unfold clamp
  split_ifs with hle
  · exact UInt32.le_antisymm hlow hle
  · rfl

/-- The configurations that a bus port passes on are those of a serial bus, and these it passes on
unchanged. -/
theorem onBus_iff_uartCfg {uart : Uart} (hbus : uart.srcId ≠ instanceIdUartCm4)
    (config : UartConfig) : OnBus config ↔ ∃ cfg, uart.uartCfg cfg = some config := by
  constructor
  · intro h
    refine ⟨some ⟨config.baudrate, config.parity, config.stopBits⟩, ?_⟩
    simp only [uartCfg, if_neg hbus, clamp_of_bounds h.baudrate.1 h.baudrate.2]
    obtain ⟨baudrate, parity, stopBits⟩ := config
    rcases h.parity with rfl | rfl | rfl
    · rfl
    · have hone : stopBits = .one := h.stopBits UartParity.noConfusion
      rw [hone]
    · have hone : stopBits = .one := h.stopBits UartParity.noConfusion
      rw [hone]
  · rintro ⟨cfg, h⟩
    cases cfg with
    | none =>
      cases h
      exact ⟨by decide, .inl rfl, fun _ ↦ rfl⟩
    | some cfg =>
      simp only [uartCfg, if_neg hbus] at h
      have hclamp := clamp_bounds cfg.baudrate
      cases hparity : cfg.parity <;> rw [hparity] at h <;> cases h
      · exact ⟨hclamp, .inl rfl, fun hnone ↦ absurd rfl hnone⟩
      · exact ⟨hclamp, .inr (.inl rfl), fun _ ↦ rfl⟩
      · exact ⟨hclamp, .inr (.inr rfl), fun _ ↦ rfl⟩

/-! ## Life -/

/-- What happens in the life of a port. -/
inductive LifeEvent
  | init (cfg : Option CsUartConfig) (ready : Bool) (configured : ℤ)
  | interrupt (irq : UartIrq)
  | send (hdlr : Handler)
  | takeLine
  | disable

def receivedByte (irq : UartIrq) : Option UInt8 :=
  if (irq.update || irq.isPending) && irq.rxReady then irq.fifoRead else none

/-- One event. The interrupt handler is set by `init`. -/
def lifeStep (run : DuplexRun) : LifeEvent → Checked DuplexRun
  | .init cfg ready configured => .ok { run with uart := (run.uart.init cfg ready configured).2.1 }
  | .interrupt irq =>
      if !run.uart.initialized then .ok run
      else do
        let (uart, bytes) ← run.uart.handleUartInterrupt irq
        return {
          uart
          lines := run.lines ++ ((receivedByte irq).bind run.uart.endedLine).toList
          given := run.given ++ bytes }
  | .send hdlr => duplexStep run (.send hdlr)
  | .takeLine => duplexStep run .takeLine
  | .disable => .ok { run with uart := run.uart.disable }

/-- The hardware raises an interrupt for a direction that is enabled, and reports the end of the
transmission once everything has been given to the FIFO. -/
structure Raised (uart : Uart) (irq : UartIrq) : Prop where
  rx : irq.rxReady = true → uart.rxIrqEnabled = true
  tx : irq.txReady = true → uart.txIrqEnabled = true
  complete : irq.txReady = true → irq.txComplete = true → uart.uartBufCtr ≤ irq.fifoSpace

instance (uart : Uart) (irq : UartIrq) : Decidable (Raised uart irq) :=
  decidable_of_iff ((irq.rxReady = true → uart.rxIrqEnabled = true) ∧
    (irq.txReady = true → uart.txIrqEnabled = true) ∧
    (irq.txReady = true → irq.txComplete = true → uart.uartBufCtr ≤ irq.fifoSpace))
    ⟨fun h ↦ ⟨h.1, h.2.1, h.2.2⟩, fun h ↦ ⟨h.rx, h.tx, h.complete⟩⟩

/-- Interrupts are raised as the hardware raises them, and a message is sent while the buffer is
empty or another message is being transmitted. A transmission that is disabled halfway leaves its
rest in the buffer. -/
def BetweenLines (run : DuplexRun) : LifeEvent → Prop
  | .interrupt irq => Raised run.uart irq
  | .send hdlr =>
      hdlr.msg.bufLen.toNat ≤ packetBufSize ∧
        (run.uart.txIrqEnabled = false → run.uart.uartBufCtr = 0)
  | .init _ _ _ | .takeLine | .disable => True

instance (run : DuplexRun) : ∀ event, Decidable (BetweenLines run event)
  | .interrupt irq => inferInstanceAs (Decidable (Raised run.uart irq))
  | .send _ => inferInstanceAs (Decidable (_ ∧ (_ → _)))
  | .init _ _ _ | .takeLine | .disable => inferInstanceAs (Decidable True)

/-- What an event is to a port with two directions of its own. -/
def LifeEvent.action : LifeEvent → Option UartAction
  | .interrupt irq =>
      if !irq.update && !irq.isPending then none
      else if irq.rxReady then irq.fifoRead.map .received
      else if irq.txReady then some (.transmit irq.fifoSpace irq.txComplete)
      else none
  | .send hdlr => some (.send hdlr)
  | .takeLine => some .takeLine
  | .init _ _ _ | .disable => none

def promised (port : DuplexPromise) (event : LifeEvent) : DuplexPromise :=
  event.action.elim port port.step

/-- One direction is enabled at most: the one that the buffer is used for. -/
structure HalfDuplex (run : DuplexRun) (port : DuplexPromise) : Prop extends Keeps run port where
  receives : run.uart.rxIrqEnabled = true → run.uart.txIrqEnabled = false ∧ port.unsent = []
  sends : run.uart.txIrqEnabled = true → port.line = []

variable {run : DuplexRun} {port : DuplexPromise}

/-- An interrupt that the hardware raises concerns one direction. -/
theorem lifeStep_interrupt (h : HalfDuplex run port) {irq : UartIrq} (hraised : Raised run.uart irq) :
    lifeStep run (.interrupt irq) =
      ((LifeEvent.interrupt irq).action.elim (.ok run) fun action ↦ duplexStep run action) := by
  have hinit : ¬ (!run.uart.initialized) = true := by simp [h.initialized]
  simp only [lifeStep, if_neg hinit, LifeEvent.action, handleUartInterrupt, receivedByte]
  cases hquiet : !irq.update && !irq.isPending with
  | true =>
    have hnone : (irq.update || irq.isPending) = false := by
      rw [← Bool.not_eq_true', Bool.not_or]
      exact hquiet
    simp [hnone, bind, pure, Except.pure]
  | false =>
    have hsome : (irq.update || irq.isPending) = true := by
      rw [← Bool.not_eq_false', Bool.not_or]
      exact hquiet
    cases hrx : irq.rxReady with
    | true =>
      have htx : irq.txReady = false := by
        rw [Bool.eq_false_iff]
        intro hready
        have hboth := hraised.tx hready
        rw [(h.receives (hraised.rx hrx)).1] at hboth
        cases hboth
      cases hread : irq.fifoRead with
      | none => simp [hsome, bind, pure, Except.pure]
      | some c =>
        simp [hsome, htx, duplexStep, handleUartInterrupt_received, bind, pure, Except.pure]
    | false =>
      cases htx : irq.txReady with
      | true =>
        have hsame : run.uart.transmitBytes irq =
            run.uart.transmitBytes (.transmitReady irq.fifoSpace irq.txComplete) := rfl
        rw [hsame]
        simp [duplexStep, handleUartInterrupt, UartIrq.transmitReady, bind, pure, Except.pure]
      | false => simp [bind, pure, Except.pure]

theorem HalfDuplex.received (h : HalfDuplex run port) (hrx : run.uart.rxIrqEnabled = true)
    (c : UInt8) :
    ∃ next, duplexStep run (.received c) = .ok next ∧ HalfDuplex next (port.step (.received c)) := by
  obtain ⟨hidle, hunsent⟩ := h.receives hrx
  obtain ⟨next, hnext, hkeeps⟩ := h.toKeeps.received hunsent c
  have hsame : next.uart.txIrqEnabled = run.uart.txIrqEnabled := by
    obtain ⟨⟨uart, bytes⟩, hinterrupt, hstep⟩ := bind_eq_ok.mp hnext
    cases hstep
    rw [handleUartInterrupt_received] at hinterrupt
    obtain ⟨received, hreceive, hdone⟩ := bind_eq_ok.mp hinterrupt
    cases hdone
    obtain rfl | ⟨-, uartBuf, taken, uartMsgq, -, -, rfl⟩ | ⟨uartBuf, -, -, -, -, rfl⟩ :=
      receiveByte_cases hreceive
    · rfl
    · rfl
    · rfl
  have hkept : (port.receive c).unsent = [] := by
    unfold DuplexPromise.receive
    split_ifs <;> exact hunsent
  refine ⟨next, hnext, { hkeeps with receives := fun _ ↦ ⟨?_, hkept⟩, sends := fun htx ↦ ?_ }⟩
  · rw [hsame, hidle]
  · rw [hsame, hidle] at htx
    cases htx

theorem HalfDuplex.send (h : HalfDuplex run port) {hdlr : Handler}
    (hfits : hdlr.msg.bufLen.toNat ≤ packetBufSize)
    (hbetween : run.uart.txIrqEnabled = false → run.uart.uartBufCtr = 0) :
    ∃ next, duplexStep run (.send hdlr) = .ok next ∧ HalfDuplex next (port.step (.send hdlr)) := by
  have hline : port.line = [] := by
    cases htx : run.uart.txIrqEnabled with
    | true => exact h.sends htx
    | false =>
      have hempty : port.line.length = 0 := by
        have hctr := h.ctr
        have hzero := hbetween htx
        omega
      exact List.eq_nil_of_length_eq_zero hempty
  obtain ⟨next, hnext, hkeeps, -⟩ := h.toKeeps.send hline hfits
  have heq := duplexStep_send h.initialized hfits
  obtain rfl := Except.ok.inj (hnext.symm.trans heq)
  exact ⟨_, heq, { hkeeps with receives := nofun, sends := fun _ ↦ hline }⟩

theorem HalfDuplex.transmit (h : HalfDuplex run port) {fifoSpace : ℕ} {txComplete : Bool}
    (htx : run.uart.txIrqEnabled = true)
    (hcomplete : txComplete = true → run.uart.uartBufCtr ≤ fifoSpace) :
    ∃ next, duplexStep run (.transmit fifoSpace txComplete) = .ok next ∧
      HalfDuplex next (port.step (.transmit fifoSpace txComplete)) := by
  have hline := h.sends htx
  obtain ⟨next, hnext, hkeeps, -⟩ := h.toKeeps.transmit (.inr hline) txComplete
  have heq := duplexStep_transmit (h.count (.inr hline)) (h.fillFifo fifoSpace) txComplete
  obtain rfl := Except.ok.inj (hnext.symm.trans heq)
  have hrx : run.uart.rxIrqEnabled = false := by
    rw [Bool.eq_false_iff]
    intro hrx
    rw [(h.receives hrx).1] at htx
    cases htx
  refine ⟨_, heq, { hkeeps with receives := fun hreceives ↦ ?_, sends := fun _ ↦ hline }⟩
  have hdone : txComplete = true := by simpa [hrx] using hreceives
  have hlength : port.unsent.length ≤ fifoSpace := by
    have hctr := h.ctr
    have hspace := hcomplete hdone
    rw [hline, List.length_nil, Nat.zero_add] at hctr
    omega
  exact ⟨by simp [hdone], List.drop_eq_nil_of_le hlength⟩

theorem HalfDuplex.takeLine (h : HalfDuplex run port) :
    ∃ next, duplexStep run .takeLine = .ok next ∧ HalfDuplex next (port.step .takeLine) := by
  obtain ⟨next, hnext, hkeeps⟩ := h.toKeeps.takeLine
  obtain ⟨⟨taken, uartMsgq⟩, -, hstep⟩ := bind_eq_ok.mp hnext
  cases hstep
  exact ⟨_, hnext, { hkeeps with receives := h.receives, sends := h.sends }⟩

/-- Every event keeps the direction that the buffer is used for. -/
theorem HalfDuplex.step {event : LifeEvent} (h : HalfDuplex run port)
    (hbetween : BetweenLines run event) :
    ∃ next, lifeStep run event = .ok next ∧ HalfDuplex next (promised port event) := by
  cases event with
  | init cfg ready configured =>
    have hagain : run.uart.init cfg ready configured = (.alreadyInitialized, run.uart, none) :=
      if_pos h.initialized
    refine ⟨run, ?_, h⟩
    rw [lifeStep, hagain]
  | interrupt irq =>
    rw [lifeStep_interrupt h hbetween]
    have hraised : Raised run.uart irq := hbetween
    unfold promised
    cases haction : (LifeEvent.interrupt irq).action with
    | none => exact ⟨run, rfl, h⟩
    | some action =>
      simp only [LifeEvent.action] at haction
      split_ifs at haction with hquiet hrx htx
      · obtain ⟨c, -, rfl⟩ := Option.map_eq_some_iff.mp haction
        exact h.received (hraised.rx hrx) c
      · cases haction
        exact h.transmit (hraised.tx htx) (hraised.complete htx)
  | send hdlr => exact h.send hbetween.1 hbetween.2
  | takeLine => exact h.takeLine
  | disable =>
    exact ⟨_, rfl, { h.toKeeps with receives := nofun, sends := nofun }⟩

/-- Everything that the initialization of a new port can do: set it up, or leave it. -/
theorem init_cases (srcId destId : InstanceId) (uartBuf : Buffer UInt8 uartBufferSize)
    (cells : Fin (uartMsgqBufSize / uartBufferSize) → Option (Buffer UInt8 uartBufferSize))
    (cfg : Option CsUartConfig) (ready : Bool) (configured : ℤ) :
    (ready = true ∧ configured = 0 ∧ ∃ config,
      (created srcId destId uartBuf cells).uartCfg cfg = some config ∧
      (created srcId destId uartBuf cells).init cfg ready configured =
        (.ok, initial srcId destId uartBuf cells, some config)) ∨
    ((ready = true → configured = 0 → (created srcId destId uartBuf cells).uartCfg cfg = none) ∧
      ∃ ret config, ret ≠ .ok ∧ (created srcId destId uartBuf cells).init cfg ready configured =
        (ret, created srcId destId uartBuf cells, config)) := by
  have hnew : ¬ (created srcId destId uartBuf cells).initialized = true := by simp [created]
  rw [init, if_neg hnew]
  cases ready with
  | false => exact .inr ⟨nofun, .deviceNotReady, none, by decide, rfl⟩
  | true =>
    rw [if_neg (by simp)]
    cases hcfg : (created srcId destId uartBuf cells).uartCfg cfg with
    | none => exact .inr ⟨fun _ _ ↦ rfl, .uartConfigInvalid, none, by decide, rfl⟩
    | some config =>
      by_cases hconfigured : configured = 0
      · exact .inl ⟨rfl, hconfigured, config, rfl, by simp [hconfigured, created, initial,
          RingQueue.init]⟩
      · exact .inr ⟨fun _ hzero ↦ absurd hzero hconfigured, .uartConfigFailed, some config,
          by decide, if_pos hconfigured⟩

/-- A port that has been initialized. -/
theorem halfDuplex_init {srcId destId : InstanceId} {uartBuf : Buffer UInt8 uartBufferSize}
    {cells : Fin (uartMsgqBufSize / uartBufferSize) → Option (Buffer UInt8 uartBufferSize)}
    {cfg : Option CsUartConfig} {ready : Bool} {configured : ℤ} {uart : Uart}
    {config : Option UartConfig}
    (h : (created srcId destId uartBuf cells).init cfg ready configured = (.ok, uart, config)) :
    HalfDuplex { uart, lines := [], given := [] } .start := by
  obtain ⟨-, -, config, -, hinit⟩ | ⟨-, ret, config, hret, hinit⟩ :=
    init_cases srcId destId uartBuf cells cfg ready configured
  · have huart : initial srcId destId uartBuf cells = uart :=
      congrArg (fun result ↦ result.2.1) (hinit.symm.trans h)
    subst huart
    have hkeeps := keeps_start srcId destId uartBuf cells
    exact { hkeeps with receives := fun _ ↦ ⟨rfl, rfl⟩, sends := fun _ ↦ rfl }
  · exact absurd (congrArg Prod.fst (hinit.symm.trans h)) hret

theorem init_rs485Port :
    (created instanceIdUartRs485 instanceIdCloud (Buffer.fill uartBufferSize 0) fun _ ↦ none).init
        none true 0 =
      (.ok, rs485Port.uart,
        some { baudrate := uartRsBaudDefault, parity := .none, stopBits := .one }) := rfl

end Uart

end CrownstoneRouter
