import CrownstoneRouter.Drivers.HalfDuplex

/-!
# The bounds of a port

Whatever the hardware reports and whenever messages are sent, a port writes nothing behind its
buffer, and every line that the UART thread takes has an end. The one access that may fall outside
is that of the interrupt on TX, which takes bytes from where the buffer pointer is. On hardware that
raises enabled interrupts only it never does.
-/

namespace CrownstoneRouter

open CheckedMemory CheckedRun

namespace Uart

/-! ## What the interrupt on TX takes -/

/-- The counter behind a received byte. -/
def counterAfter (uart : Uart) (c : UInt8) : ℕ :=
  if c = lineFeed ∨ c = carriageReturn ∨ uart.uartBufCtr = uartBufferSize - 1 then 0
  else uart.uartBufCtr + 1

/-- The counter that the interrupt on TX meets, if it comes to it. -/
def transmitCounter (uart : Uart) (irq : UartIrq) : Option ℕ :=
  if (irq.update || irq.isPending) && irq.txReady then
    if irq.rxReady then irq.fifoRead.map uart.counterAfter else some uart.uartBufCtr
  else none

/-- So many bytes do not lie behind the buffer pointer. -/
def Overreads (uart : Uart) (count : ℕ) : Prop :=
  match uart.uartBufPtr with
  | some position => uartBufferSize < position + count
  | none => 0 < count

instance (uart : Uart) (count : ℕ) : Decidable (uart.Overreads count) := by
  unfold Overreads
  split <;> infer_instance

/-- An interrupt on TX takes bytes that do not lie behind the buffer pointer. -/
def InterruptOverreads (uart : Uart) (irq : UartIrq) : Prop :=
  ∃ counter ∈ uart.transmitCounter irq, uart.Overreads (min irq.fifoSpace counter)

instance (uart : Uart) (irq : UartIrq) : Decidable (uart.InterruptOverreads irq) :=
  decidable_of_iff (∃ counter, uart.transmitCounter irq = some counter ∧
    uart.Overreads (min irq.fifoSpace counter)) Iff.rfl

/-! ## The invariant -/

/-- What a port keeps from its creation on: the counter is inside the buffer, and the queue has room
for the lines that it is told to hold, each of which has an end. -/
structure Bounded (uart : Uart) : Prop where
  counter : uart.uartBufCtr < uartBufferSize
  maxMsgs : uart.initialized = true → uart.uartMsgq.maxMsgs = uartBufferQueueSize
  lines : uart.initialized = true → ∃ lines, uart.uartMsgq.Represents lines ∧
    ∀ line ∈ lines, (0 : UInt8) ∈ line.cells
  thread : uart.threadRunning = true → uart.initialized = true

variable {uart next : Uart}

theorem bounded_created (srcId destId : InstanceId) (uartBuf : Buffer UInt8 uartBufferSize)
    (cells : Fin (uartMsgqBufSize / uartBufferSize) → Option (Buffer UInt8 uartBufferSize)) :
    Bounded (.created srcId destId uartBuf cells) where
  counter := by simp [created]
  maxMsgs := nofun
  lines := nofun
  thread := nofun

/-- The initialization makes the queue, or leaves the port as it is. -/
theorem Bounded.init (h : Bounded uart) (cfg : Option CsUartConfig) (ready : Bool)
    (configured : ℤ) : Bounded (uart.init cfg ready configured).2.1 := by
  have hset : Bounded { uart with
      uartMsgq := RingQueue.init uart.uartMsgq.cells uartBufferQueueSize
      rxIrqEnabled := true
      threadRunning := true
      initialized := true } :=
    { counter := h.counter
      maxMsgs := fun _ ↦ rfl
      lines := fun _ ↦ ⟨[], RingQueue.represents_init _ (by decide), by simp⟩
      thread := fun _ ↦ rfl }
  unfold Uart.init
  split
  · exact h
  · split
    · exact h
    · split
      · exact h
      · split
        · exact h
        · exact hset

/-- A received byte is stored inside the buffer. -/
theorem Bounded.receiveByte (h : Bounded uart) (hinit : uart.initialized = true) (c : UInt8) :
    ∃ next, uart.receiveByte c = .ok next ∧ Bounded next ∧
      next.uartBufCtr = uart.counterAfter c ∧ next.uartBufPtr = uart.uartBufPtr := by
  obtain ⟨lines, hlines, hended⟩ := h.lines hinit
  by_cases hend : c = lineFeed ∨ c = carriageReturn ∨ uart.uartBufCtr = uartBufferSize - 1
  · by_cases hctr : 0 < uart.uartBufCtr
    · obtain ⟨uartMsgq, hreceive, hmax, hkept⟩ :=
        receiveByte_of_end hend hctr h.counter (h.maxMsgs hinit) hlines
      have hterminated : (0 : UInt8) ∈ (uart.uartBuf.patch uart.uartBufCtr [0]).cells := by
        rw [Buffer.cells_patch_singleton _ h.counter]
        exact List.mem_set (by simpa using h.counter) 0
      have hempty : 0 < uartBufferSize := by decide
      refine ⟨_, hreceive, ⟨hempty, fun _ ↦ hmax, fun _ ↦ ⟨_, hkept, ?_⟩, h.thread⟩,
        (if_pos hend).symm, rfl⟩
      split_ifs
      · exact List.forall_mem_append.mpr ⟨hended, List.forall_mem_singleton.mpr hterminated⟩
      · simp
    · refine ⟨uart, receiveByte_of_first hend hctr, h, ?_, rfl⟩
      rw [counterAfter, if_pos hend]
      omega
  · have hroom : uart.uartBufCtr + 1 < uartBufferSize := by
      have hcounter := h.counter
      simp only [not_or] at hend
      omega
    exact ⟨_, receiveByte_of_char hend h.counter,
      ⟨hroom, h.maxMsgs, h.lines, h.thread⟩, (if_neg hend).symm, rfl⟩

/-- The bytes for the FIFO lie behind the buffer pointer, or they cannot be taken. -/
theorem fillFifo_returns_iff (uart : Uart) (count : ℕ) :
    (∃ bytes, uart.fillFifo count = .ok bytes) ↔ ¬ uart.Overreads count := by
  unfold fillFifo Overreads
  cases uart.uartBufPtr with
  | none =>
    simp only
    split_ifs with hcount
    · simp [hcount]
    · simp [Nat.pos_of_ne_zero hcount]
  | some position =>
    simp only [Buffer.load, not_lt]
    split_ifs with hfits
    · simp [hfits]
    · simp [hfits]

/-- Everything that an interrupt on TX can do: give bytes to the FIFO, after the last of which the
direction may be turned. -/
theorem transmitBytes_cases {irq : UartIrq} {bytes : List UInt8}
    (h : uart.transmitBytes irq = .ok (next, bytes)) :
    ∃ count ≤ uart.uartBufCtr, count = min irq.fifoSpace uart.uartBufCtr ∧
      uart.fillFifo count = .ok bytes ∧
      ∃ rxIrqEnabled txIrqEnabled, next = { uart with
        uartBufCtr := uart.uartBufCtr - count
        uartBufPtr := uart.uartBufPtr.map (· + count)
        rxIrqEnabled, txIrqEnabled } ∧
      (rxIrqEnabled = uart.rxIrqEnabled ∧ txIrqEnabled = uart.txIrqEnabled ∨
        rxIrqEnabled = true ∧ txIrqEnabled = false) := by
  obtain ⟨filled, hfill, h⟩ := bind_eq_ok.mp h
  refine ⟨_, min_le_right _ _, rfl, ?_⟩
  split_ifs at h
  · cases h
    exact ⟨hfill, true, false, rfl, .inr ⟨rfl, rfl⟩⟩
  · cases h
    exact ⟨hfill, _, _, rfl, .inl ⟨rfl, rfl⟩⟩

theorem transmitBytes_returns_iff (uart : Uart) (irq : UartIrq) :
    (∃ result, uart.transmitBytes irq = .ok result) ↔
      ¬ uart.Overreads (min irq.fifoSpace uart.uartBufCtr) := by
  rw [← fillFifo_returns_iff]
  constructor
  · rintro ⟨⟨next, bytes⟩, h⟩
    obtain ⟨count, -, rfl, hfill, -⟩ := transmitBytes_cases h
    exact ⟨bytes, hfill⟩
  · rintro ⟨bytes, hfill⟩
    simp only [transmitBytes, hfill, bind, bind_ok]
    split_ifs <;> exact ⟨_, rfl⟩

theorem Bounded.of_transmitBytes (h : Bounded uart) {irq : UartIrq} {bytes : List UInt8}
    (htransmit : uart.transmitBytes irq = .ok (next, bytes)) : Bounded next := by
  obtain ⟨count, -, -, -, rxIrqEnabled, txIrqEnabled, rfl, -⟩ := transmitBytes_cases htransmit
  exact ⟨(Nat.sub_le _ _).trans_lt h.counter, h.maxMsgs, h.lines, h.thread⟩

/-! ## Interrupts -/

/-- Everything that an interrupt can do: nothing, receive a byte, and transmit bytes if the transmit
FIFO is ready, after a received byte as well. -/
theorem handleUartInterrupt_eq (uart : Uart) (irq : UartIrq) :
    uart.handleUartInterrupt irq =
      match receivedByte irq with
      | some c => (uart.receiveByte c).bind fun uart ↦
          if irq.txReady then uart.transmitBytes irq else .ok (uart, [])
      | none => if (uart.transmitCounter irq).isSome then uart.transmitBytes irq
          else .ok (uart, []) := by
  unfold handleUartInterrupt receivedByte transmitCounter
  cases irq.update <;> cases irq.isPending <;> cases irq.rxReady <;> cases irq.txReady <;>
    cases irq.fifoRead <;> rfl

/-- An interrupt stays inside the buffer exactly if what it takes for the FIFO lies behind the
buffer pointer. -/
theorem Bounded.interrupt_returns_iff (h : Bounded uart) (hinit : uart.initialized = true)
    (irq : UartIrq) :
    (∃ result, uart.handleUartInterrupt irq = .ok result) ↔ ¬ uart.InterruptOverreads irq := by
  rw [handleUartInterrupt_eq]
  cases hbyte : receivedByte irq with
  | some c =>
    obtain ⟨received, hreceive, -, hctr, hptr⟩ := h.receiveByte hinit c
    have hcounter : uart.transmitCounter irq =
        if irq.txReady then some received.uartBufCtr else none := by
      rw [hctr]
      unfold receivedByte at hbyte
      split_ifs at hbyte with hrx
      rw [Bool.and_eq_true] at hrx
      simp [transmitCounter, hrx.1, hrx.2, hbyte]
    have hsame (count : ℕ) : received.Overreads count ↔ uart.Overreads count := by
      rw [Overreads, Overreads, hptr]
    simp only [hreceive, bind_ok, InterruptOverreads, hcounter]
    split_ifs with htx
    · rw [transmitBytes_returns_iff, hsame]
      simp
    · simp
  | none =>
    have hcounter : uart.transmitCounter irq = none ∨
        uart.transmitCounter irq = some uart.uartBufCtr := by
      unfold receivedByte at hbyte
      unfold transmitCounter
      cases hrx : irq.rxReady with
      | true =>
        split_ifs at hbyte with hpending
        · simp [hbyte]
        · simp_all
      | false =>
        simp only [Bool.false_eq_true, if_false]
        split_ifs
        · exact .inr rfl
        · exact .inl rfl
    obtain hnone | hsome := hcounter
    · simp [InterruptOverreads, hnone]
    · simp only [InterruptOverreads, hsome, Option.isSome_some, if_true, Option.mem_def,
        Option.some.injEq, exists_eq_left']
      exact transmitBytes_returns_iff uart irq

theorem Bounded.of_interrupt (h : Bounded uart) (hinit : uart.initialized = true) {irq : UartIrq}
    {bytes : List UInt8} (hirq : uart.handleUartInterrupt irq = .ok (next, bytes)) :
    Bounded next := by
  rw [handleUartInterrupt_eq] at hirq
  cases hbyte : receivedByte irq with
  | some c =>
    obtain ⟨received, hreceive, hbounded, -⟩ := h.receiveByte hinit c
    simp only [hbyte, hreceive, bind_ok] at hirq
    split_ifs at hirq
    · exact hbounded.of_transmitBytes hirq
    · cases hirq
      exact hbounded
  | none =>
    simp only [hbyte] at hirq
    split_ifs at hirq
    · exact h.of_transmitBytes hirq
    · cases hirq
      exact h

/-! ## Messages and lines -/

/-- A message that fits is copied to the front of the buffer. -/
theorem Bounded.of_sendUartMessage (h : Bounded uart) {hdlr after : Handler}
    (hfits : hdlr.msg.bufLen.toNat ≤ packetBufSize)
    (hsend : uart.sendUartMessage hdlr = .ok (next, after)) : Bounded next := by
  unfold sendUartMessage at hsend
  split_ifs at hsend
  · cases hsend
    exact h
  · obtain ⟨uartBuf, -, hsend⟩ := bind_eq_ok.mp hsend
    cases hsend
    have hsizes : packetBufSize < uartBufferSize := by decide
    exact ⟨hfits.trans_lt hsizes, h.maxMsgs, h.lines, h.thread⟩

theorem packetOfMessage_returns (uart : Uart) {line : Buffer UInt8 uartBufferSize}
    (hended : (0 : UInt8) ∈ line.cells) : ∃ data, uart.packetOfMessage line = .ok data := by
  obtain ⟨len, hlen⟩ := (strlen_returns_iff line).mpr hended
  rw [packetOfMessage_eq, if_pos (guard_eq_ok.mp hlen).1]
  exact ⟨_, rfl⟩

/-- The UART thread has something to do: it runs and its queue is not empty. -/
def HasLine (uart : Uart) : Prop :=
  uart.threadRunning = true ∧ uart.uartMsgq.usedMsgs ≠ 0

instance (uart : Uart) : Decidable uart.HasLine :=
  inferInstanceAs (Decidable (_ ∧ _))

/-- The line that the UART thread hands over in its next round. -/
def nextLine (uart : Uart) : Option (Buffer UInt8 uartBufferSize) :=
  if uart.threadRunning && uart.hasPktHandler then
    match uart.uartMsgq.get with
    | .ok (line, _) => line
    | .error _ => none
  else none

theorem mem_nextLine_iff {lines : List (Buffer UInt8 uartBufferSize)}
    (h : uart.uartMsgq.Represents lines) {line : Buffer UInt8 uartBufferSize} :
    line ∈ uart.nextLine ↔
      uart.threadRunning = true ∧ uart.hasPktHandler = true ∧ lines.head? = some line := by
  obtain ⟨uartMsgq, hget, -⟩ := h.get
  unfold nextLine
  rw [hget]
  split_ifs with hready
  · rw [Bool.and_eq_true] at hready
    simp [hready.1, hready.2]
  · rw [Bool.and_eq_true, not_and] at hready
    simp only [Option.not_mem_none, false_iff]
    rintro ⟨hrunning, hserved, -⟩
    exact hready hrunning hserved

theorem Bounded.isSome_nextLine (h : Bounded uart) :
    uart.nextLine.isSome ↔ uart.HasLine ∧ uart.hasPktHandler = true := by
  rw [Option.isSome_iff_exists, HasLine]
  by_cases hrunning : uart.threadRunning = true
  · obtain ⟨lines, hlines, -⟩ := h.lines (h.thread hrunning)
    simp only [← Option.mem_def, mem_nextLine_iff hlines, hlines.used]
    cases lines with
    | nil => simp
    | cons line rest => simp [hrunning]
  · simp [nextLine, hrunning]

/-- A round of the UART thread hands over the packet of a line, if there is one and a packet handler
to hand it to. -/
theorem Bounded.handleUartMessages_eq (h : Bounded uart) (pkth : PacketHandler) :
    ∃ uartMsgq data, Bounded { uart with uartMsgq } ∧
      (∀ line ∈ uart.nextLine, packetOfMessage { uart with uartMsgq } line = .ok data) ∧
      uart.handleUartMessages pkth =
        if uart.HasLine then
          if uart.hasPktHandler then
            (pkth.handlePacket data).bind fun (ret, after) ↦
              .ok ({ uart with uartMsgq, threadRunning := ret ≠ .aborted }, after, some data)
          else .ok ({ uart with uartMsgq, threadRunning := false }, pkth, none)
        else .ok (uart, pkth, none) := by
  by_cases hrunning : uart.threadRunning = true
  · have hinit := h.thread hrunning
    obtain ⟨lines, hlines, hended⟩ := h.lines hinit
    cases lines with
    | nil =>
      have hidle : ¬ uart.HasLine := fun hline ↦ hline.2 hlines.used
      refine ⟨uart.uartMsgq, .zero, h, fun line hline ↦ ?_, ?_⟩
      · simp [mem_nextLine_iff hlines] at hline
      · rw [if_neg hidle, handleUartMessages, if_neg (by simp [hrunning]), hlines.get_nil]
        rfl
    | cons line rest =>
      obtain ⟨uartMsgq, hget, hrest, hmax, -⟩ := hlines.get_cons
      obtain ⟨hline, hothers⟩ := List.forall_mem_cons.mp hended
      obtain ⟨data, hdata⟩ := packetOfMessage_returns { uart with uartMsgq } hline
      have hbusy : uart.HasLine := ⟨hrunning, by simp [hlines.used]⟩
      refine ⟨uartMsgq, data, ⟨h.counter, fun _ ↦ hmax.trans (h.maxMsgs hinit),
        fun _ ↦ ⟨rest, hrest, hothers⟩, h.thread⟩, fun other hother ↦ ?_, ?_⟩
      · obtain rfl := Option.some.inj ((mem_nextLine_iff hlines).mp hother).2.2
        exact hdata
      · rw [if_pos hbusy, handleUartMessages, if_neg (by simp [hrunning]), hget]
        change (packetOfMessage { uart with uartMsgq } line).bind _ = _
        rw [hdata, bind_ok]
        rfl
  · have hidle : ¬ uart.HasLine := fun hline ↦ hrunning hline.1
    refine ⟨uart.uartMsgq, .zero, h, fun line hline ↦ ?_, ?_⟩
    · simp [nextLine, hrunning] at hline
    · rw [if_neg hidle, handleUartMessages, if_pos (by simpa using hrunning)]
      rfl

theorem Bounded.of_handleUartMessages (h : Bounded uart) {pkth after : PacketHandler}
    {handed : Option PacketData} (hround : uart.handleUartMessages pkth = .ok (next, after, handed)) :
    Bounded next := by
  obtain ⟨uartMsgq, data, hnext, -, hequation⟩ := h.handleUartMessages_eq pkth
  have hthread (hline : uart.HasLine) (threadRunning : Bool) :
      Bounded { uart with uartMsgq, threadRunning } :=
    ⟨hnext.counter, hnext.maxMsgs, hnext.lines, fun _ ↦ h.thread hline.1⟩
  rw [hequation] at hround
  split_ifs at hround with hline
  · obtain ⟨⟨ret, other⟩, -, hresult⟩ := bind_eq_ok.mp hround
    cases hresult
    exact hthread hline _
  · cases hround
    exact hthread hline false
  · cases hround
    exact h

/-! ## What the constructor has set -/

/-- The port keeps the ids and the packet handler that it has been given. -/
structure SameObject (uart next : Uart) : Prop where
  srcId : next.srcId = uart.srcId
  destId : next.destId = uart.destId
  hasPktHandler : next.hasPktHandler = uart.hasPktHandler

/-- The initialization keeps what the port has been given. -/
theorem SameObject.of_init (uart : Uart) (cfg : Option CsUartConfig) (ready : Bool)
    (configured : ℤ) : SameObject uart (uart.init cfg ready configured).2.1 := by
  have hsame : SameObject uart uart := ⟨rfl, rfl, rfl⟩
  unfold Uart.init
  split
  · exact hsame
  · split
    · exact hsame
    · split
      · exact hsame
      · split
        · exact hsame
        · exact ⟨rfl, rfl, rfl⟩

/-- The port is at work with what it has been given. -/
structure SamePort (uart next : Uart) : Prop extends SameObject uart next where
  initialized : next.initialized = uart.initialized

theorem SamePort.refl (uart : Uart) : SamePort uart uart :=
  ⟨⟨rfl, rfl, rfl⟩, rfl⟩

theorem SamePort.trans {last : Uart} (h : SamePort uart next) (hlast : SamePort next last) :
    SamePort uart last where
  srcId := hlast.srcId.trans h.srcId
  destId := hlast.destId.trans h.destId
  hasPktHandler := hlast.hasPktHandler.trans h.hasPktHandler
  initialized := hlast.initialized.trans h.initialized

theorem SamePort.of_receiveByte {c : UInt8} (h : uart.receiveByte c = .ok next) :
    SamePort uart next := by
  obtain rfl | ⟨-, uartBuf, taken, uartMsgq, -, -, rfl⟩ | ⟨uartBuf, -, -, -, -, rfl⟩ :=
    receiveByte_cases h
  · exact .refl _
  · exact ⟨⟨rfl, rfl, rfl⟩, rfl⟩
  · exact ⟨⟨rfl, rfl, rfl⟩, rfl⟩

theorem SamePort.of_transmitBytes {irq : UartIrq} {bytes : List UInt8}
    (h : uart.transmitBytes irq = .ok (next, bytes)) : SamePort uart next := by
  obtain ⟨count, -, -, -, rxIrqEnabled, txIrqEnabled, rfl, -⟩ := transmitBytes_cases h
  exact ⟨⟨rfl, rfl, rfl⟩, rfl⟩

/-- An interrupt receives a byte, transmits bytes, or does both. -/
theorem SamePort.of_interrupt {irq : UartIrq} {bytes : List UInt8}
    (h : uart.handleUartInterrupt irq = .ok (next, bytes)) : SamePort uart next := by
  rw [handleUartInterrupt_eq] at h
  cases hbyte : receivedByte irq with
  | some c =>
    simp only [hbyte] at h
    obtain ⟨received, hreceive, h⟩ := bind_eq_ok.mp h
    have hreceived := SamePort.of_receiveByte hreceive
    split_ifs at h
    · exact hreceived.trans (.of_transmitBytes h)
    · cases h
      exact hreceived
  | none =>
    simp only [hbyte] at h
    split_ifs at h
    · exact .of_transmitBytes h
    · cases h
      exact .refl uart

theorem SamePort.of_handleUartMessages {pkth after : PacketHandler}
    {handed : Option PacketData} (h : uart.handleUartMessages pkth = .ok (next, after, handed)) :
    SamePort uart next := by
  obtain ⟨rfl, -⟩ | ⟨uartMsgq, -, rfl, -⟩ | ⟨msgBuf, data, uartMsgq, threadRunning, -, -, rfl, -⟩ :=
    handleUartMessages_cases h
  · exact .refl _
  · exact ⟨⟨rfl, rfl, rfl⟩, rfl⟩
  · exact ⟨⟨rfl, rfl, rfl⟩, rfl⟩

theorem SamePort.of_sendUartMessage {hdlr after : Handler}
    (h : uart.sendUartMessage hdlr = .ok (next, after)) : SamePort uart next := by
  unfold sendUartMessage at h
  split_ifs at h
  · cases h
    exact .refl uart
  · obtain ⟨uartBuf, -, h⟩ := bind_eq_ok.mp h
    cases h
    exact ⟨⟨rfl, rfl, rfl⟩, rfl⟩

/-! ## Hardware that raises enabled interrupts -/

/-- The hardware raises an interrupt for a direction that is enabled. -/
def RaisesEnabled (uart : Uart) (irq : UartIrq) : Prop :=
  (irq.rxReady = true → uart.rxIrqEnabled = true) ∧ (irq.txReady = true → uart.txIrqEnabled = true)

instance (uart : Uart) (irq : UartIrq) : Decidable (uart.RaisesEnabled irq) :=
  inferInstanceAs (Decidable (_ ∧ _))

/-- One direction is enabled at most, none before the initialization, and what is to be transmitted
lies behind the buffer pointer. -/
structure Directed (uart : Uart) : Prop where
  silent : uart.initialized = false → uart.txIrqEnabled = false
  exclusive : uart.rxIrqEnabled = true → uart.txIrqEnabled = false
  behind : uart.txIrqEnabled = true →
    ∃ position, uart.uartBufPtr = some position ∧ position + uart.uartBufCtr ≤ uartBufferSize

theorem Directed.of_listening (htx : uart.txIrqEnabled = false) : Directed uart where
  silent _ := htx
  exclusive _ := htx
  behind hsends := by simp [htx] at hsends

/-- The initialization enables the receiver of a port that has not transmitted anything. -/
theorem Directed.init (h : Directed uart) (cfg : Option CsUartConfig) (ready : Bool)
    (configured : ℤ) : Directed (uart.init cfg ready configured).2.1 := by
  unfold Uart.init
  split
  · exact h
  · next hnew =>
    have hsilent := h.silent (by simpa using hnew)
    split
    · exact h
    · split
      · exact h
      · split
        · exact h
        · exact .of_listening hsilent

/-- What is transmitted lies behind the buffer pointer. -/
theorem Directed.not_overreads (h : Directed uart) {irq : UartIrq}
    (hraised : uart.RaisesEnabled irq) : ¬ uart.InterruptOverreads irq := by
  rintro ⟨counter, hcounter, hover⟩
  unfold transmitCounter at hcounter
  split_ifs at hcounter with hready hrx
  · rw [Bool.and_eq_true] at hready
    have htx := hraised.2 hready.2
    rw [h.exclusive (hraised.1 hrx)] at htx
    cases htx
  · rw [Bool.and_eq_true] at hready
    obtain ⟨position, hptr, hfits⟩ := h.behind (hraised.2 hready.2)
    obtain rfl := Option.some.inj hcounter
    simp only [Overreads, hptr] at hover
    omega
  · cases hcounter

theorem Directed.of_transmitBytes (h : Directed uart) {irq : UartIrq} {bytes : List UInt8}
    (htx : uart.txIrqEnabled = true) (htransmit : uart.transmitBytes irq = .ok (next, bytes)) :
    Directed next := by
  obtain ⟨count, hcount, -, -, rxIrqEnabled, txIrqEnabled, rfl, hturned⟩ :=
    transmitBytes_cases htransmit
  obtain ⟨position, hptr, hfits⟩ := h.behind htx
  constructor
  case silent =>
    intro hoff
    rw [h.silent hoff] at htx
    cases htx
  case exclusive =>
    intro hrx
    obtain ⟨hrx', -⟩ | ⟨-, htx'⟩ := hturned
    · have hidle := h.exclusive (hrx'.symm.trans hrx)
      rw [htx] at hidle
      cases hidle
    · exact htx'
  case behind =>
    intro _
    refine ⟨position + count, by simp [hptr], ?_⟩
    simp only
    omega

theorem txIrqEnabled_of_receiveByte {c : UInt8} (h : uart.receiveByte c = .ok next) :
    next.txIrqEnabled = uart.txIrqEnabled := by
  obtain rfl | ⟨-, uartBuf, taken, uartMsgq, -, -, rfl⟩ | ⟨uartBuf, -, -, -, -, rfl⟩ :=
    receiveByte_cases h
  · rfl
  · rfl
  · rfl

/-- An interrupt that the hardware raises keeps the directions apart. -/
theorem Directed.of_interrupt (h : Directed uart) {irq : UartIrq} (hraised : uart.RaisesEnabled irq)
    {bytes : List UInt8} (hirq : uart.handleUartInterrupt irq = .ok (next, bytes)) :
    Directed next := by
  rw [handleUartInterrupt_eq] at hirq
  cases hbyte : receivedByte irq with
  | some c =>
    have hrx : irq.rxReady = true := by
      unfold receivedByte at hbyte
      split_ifs at hbyte with hready
      exact (Bool.and_eq_true _ _ ▸ hready).2
    have hlistening := h.exclusive (hraised.1 hrx)
    have htx : irq.txReady = false := by
      rw [Bool.eq_false_iff]
      intro hready
      rw [hraised.2 hready] at hlistening
      cases hlistening
    simp only [hbyte, htx, Bool.false_eq_true, if_false] at hirq
    obtain ⟨received, hreceive, hdone⟩ := bind_eq_ok.mp hirq
    cases hdone
    exact .of_listening ((txIrqEnabled_of_receiveByte hreceive).trans hlistening)
  | none =>
    simp only [hbyte] at hirq
    split_ifs at hirq with hcounter
    · have htx : irq.txReady = true := by
        unfold transmitCounter at hcounter
        split_ifs at hcounter with hready hrx
        · exact (Bool.and_eq_true _ _ ▸ hready).2
        · exact (Bool.and_eq_true _ _ ▸ hready).2
        · cases hcounter
      exact h.of_transmitBytes (hraised.2 htx) hirq
    · cases hirq
      exact h

theorem Directed.of_handleUartMessages (h : Directed uart) {pkth after : PacketHandler}
    {handed : Option PacketData}
    (hround : uart.handleUartMessages pkth = .ok (next, after, handed)) : Directed next := by
  obtain ⟨rfl, -⟩ | ⟨uartMsgq, -, rfl, -⟩ | ⟨msgBuf, data, uartMsgq, threadRunning, -, -, rfl, -⟩ :=
    handleUartMessages_cases hround
  · exact h
  · exact ⟨h.silent, h.exclusive, h.behind⟩
  · exact ⟨h.silent, h.exclusive, h.behind⟩

/-- A message turns the port to its transmission, at whatever time it is sent. -/
theorem Directed.of_sendUartMessage (h : Directed uart) {hdlr after : Handler}
    (hfits : hdlr.msg.bufLen.toNat ≤ packetBufSize)
    (hsend : uart.sendUartMessage hdlr = .ok (next, after)) : Directed next := by
  unfold sendUartMessage at hsend
  split_ifs at hsend with hnew
  · cases hsend
    exact h
  · obtain ⟨uartBuf, -, hsend⟩ := bind_eq_ok.mp hsend
    cases hsend
    have hsizes : packetBufSize ≤ uartBufferSize := by decide
    have hinit : uart.initialized = true := by simpa using hnew
    have hfront : 0 + hdlr.msg.bufLen.toNat ≤ uartBufferSize := by omega
    exact ⟨fun hoff ↦ absurd (hinit.symm.trans hoff) (by decide), nofun, fun _ ↦ ⟨0, rfl, hfront⟩⟩

end Uart

end CrownstoneRouter
