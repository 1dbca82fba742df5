import CrownstoneRouter.Drivers.Uart
import CrownstoneRouter.Foundation.Isolation

/-!
# Receiving and transmitting over one buffer

Reception collects a line in `uartBuf` while transmission sends a message from it, with one counter
for both, and the RX branch of the interrupt handler does not ask for the direction. The port keeps
the promise of two separate directions as long as they take turns: no byte is received before the
last message has been handed to the FIFO, and no message is transmitted within a line.
-/

namespace CrownstoneRouter

open CheckedMemory CheckedRun

/-! ## The port -/

/-- The interrupt raised by room in the transmit FIFO. -/
def UartIrq.transmitReady (fifoSpace : ℕ) (txComplete : Bool) : UartIrq where
  update := true
  isPending := true
  rxReady := false
  fifoRead := none
  txReady := true
  fifoSpace := fifoSpace
  txComplete := txComplete

/-- What happens at a port: a byte is received, a message is sent, the FIFO has room, or the UART
thread takes a line from the queue. -/
inductive UartAction
  | received (c : UInt8)
  | send (hdlr : Handler)
  | transmit (fifoSpace : ℕ) (txComplete : Bool)
  | takeLine

def UartAction.isReceived : UartAction → Bool
  | .received _ => true
  | .send _ | .transmit _ _ | .takeLine => false

/-- The action belongs to transmission. -/
def UartAction.isTransmission : UartAction → Bool
  | .send _ | .transmit _ _ => true
  | .received _ | .takeLine => false

/-- A line that has been put to the queue, and whether the queue has taken it. -/
abbrev PutLine := List UInt8 × Bool

/-- A port, the lines put to its queue, and the bytes given to its FIFO. -/
structure DuplexRun where
  uart : Uart
  lines : List PutLine
  given : List UInt8

namespace Uart

/-- The line that a received byte ends. -/
def endedLine (uart : Uart) (c : UInt8) : Option PutLine :=
  if (c = lineFeed ∨ c = carriageReturn ∨ uart.uartBufCtr = uartBufferSize - 1) ∧
      0 < uart.uartBufCtr then
    some (uart.uartBuf.slice 0 uart.uartBufCtr,
      decide (uart.uartMsgq.usedMsgs < uart.uartMsgq.maxMsgs))
  else none

/-- One step of a port. -/
def duplexStep (run : DuplexRun) : UartAction → Checked DuplexRun
  | .received c => do
      let (uart, bytes) ← run.uart.handleUartInterrupt (.received c)
      return {
        uart
        lines := run.lines ++ (run.uart.endedLine c).toList
        given := run.given ++ bytes }
  | .send hdlr => do
      let (uart, _) ← run.uart.sendUartMessage hdlr
      return { run with uart := uart }
  | .transmit fifoSpace txComplete => do
      let (uart, bytes) ← run.uart.handleUartInterrupt (.transmitReady fifoSpace txComplete)
      return { run with uart := uart, given := run.given ++ bytes }
  | .takeLine => do
      let (_, uartMsgq) ← run.uart.uartMsgq.get
      return { run with uart := { run.uart with uartMsgq := uartMsgq } }

/-- An interrupt for both directions is a received byte followed by a transmission. -/
theorem handleUartInterrupt_both (uart : Uart) (c : UInt8) (fifoSpace : ℕ) (txComplete : Bool) :
    uart.handleUartInterrupt { UartIrq.transmitReady fifoSpace txComplete with
        rxReady := true, fifoRead := some c } =
      (uart.handleUartInterrupt (.received c)).bind fun received ↦
        received.1.handleUartInterrupt (.transmitReady fifoSpace txComplete) := by
  simp only [handleUartInterrupt, UartIrq.transmitReady, UartIrq.received, bind, pure, Except.pure]
  cases uart.receiveByte c <;> rfl

/-- What a byte that ends a line puts to the queue: the line and its terminator. -/
theorem receiveByte_of_endedLine {uart next : Uart} {c : UInt8} {line : PutLine}
    (hreceive : uart.receiveByte c = .ok next) (hline : uart.endedLine c = some line) :
    ∃ uartBuf uartMsgq, uart.uartMsgq.put uartBuf = .ok (line.2, uartMsgq) ∧
      uartBuf.slice 0 (line.1.length + 1) = line.1 ++ [0] := by
  obtain ⟨⟨hend, hctr⟩, hvalue⟩ := Option.ite_none_right_eq_some.mp hline
  obtain rfl := Option.some.inj hvalue
  rw [receiveByte, if_pos hend, if_pos hctr] at hreceive
  obtain ⟨uartBuf, hstore, hreceive⟩ := bind_eq_ok.mp hreceive
  obtain ⟨⟨taken, uartMsgq⟩, hput, -⟩ := bind_eq_ok.mp hreceive
  have hposition := (Buffer.store_singleton_eq_ok hstore).1
  refine ⟨uartBuf, uartMsgq, ?_, ?_⟩
  · rw [hput, RingQueue.taken_of_put hput]
  · rw [Buffer.length_slice _ _ _ (by omega)]
    exact (Buffer.slice_of_store hstore).2

/-! ## The promise -/

/-- Two directions that share nothing: the line that is being received and the queue of lines, and
the part of the message that has not been given to the FIFO. -/
structure DuplexPromise where
  line : List UInt8
  queued : ℕ
  lines : List PutLine
  unsent : List UInt8
  given : List UInt8

namespace DuplexPromise

/-- Nothing received and nothing to send. -/
def start : DuplexPromise where
  line := []
  queued := 0
  lines := []
  unsent := []
  given := []

/-- A byte is received. -/
def receive (port : DuplexPromise) (c : UInt8) : DuplexPromise :=
  if c = lineFeed ∨ c = carriageReturn ∨ port.line.length = uartBufferSize - 1 then
    if port.line = [] then port
    else
      { port with
        line := []
        queued := if port.queued < uartBufferQueueSize then port.queued + 1 else 0
        lines := port.lines ++ [(port.line, decide (port.queued < uartBufferQueueSize))] }
  else { port with line := port.line ++ [c] }

/-- One step. -/
def step (port : DuplexPromise) : UartAction → DuplexPromise
  | .received c => port.receive c
  | .send hdlr => { port with unsent := hdlr.msg.contents }
  | .transmit fifoSpace _ =>
      { port with
        unsent := port.unsent.drop fifoSpace
        given := port.given ++ port.unsent.take fifoSpace }
  | .takeLine => { port with queued := port.queued - 1 }

/-- The directions take turns, and no message is longer than its buffer. -/
def TakesTurns (port : DuplexPromise) : UartAction → Prop
  | .received _ => port.unsent = []
  | .send hdlr => port.line = [] ∧ hdlr.msg.bufLen.toNat ≤ packetBufSize
  | .transmit fifoSpace _ => fifoSpace = 0 ∨ port.line = []
  | .takeLine => True

instance (port : DuplexPromise) : ∀ action, Decidable (port.TakesTurns action)
  | .received _ => inferInstanceAs (Decidable (_ = _))
  | .send _ => inferInstanceAs (Decidable (_ ∧ _))
  | .transmit _ _ => inferInstanceAs (Decidable (_ ∨ _))
  | .takeLine => inferInstanceAs (Decidable True)

end DuplexPromise

/-- The buffer of a port holds the line that is being received or the message that is being sent. -/
structure Keeps (run : DuplexRun) (port : DuplexPromise) : Prop where
  initialized : run.uart.initialized = true
  maxMsgs : run.uart.uartMsgq.maxMsgs = uartBufferQueueSize
  queued : ∃ messages, run.uart.uartMsgq.Represents messages ∧ messages.length = port.queued
  turn : port.line = [] ∨ port.unsent = []
  ctr : run.uart.uartBufCtr = port.line.length + port.unsent.length
  line_lt : port.line.length < uartBufferSize
  line : run.uart.uartBuf.slice 0 port.line.length = port.line
  pointed : port.unsent ≠ [] → run.uart.uartBufPtr ≠ none
  unsent : ∀ position, run.uart.uartBufPtr = some position →
    position + port.unsent.length ≤ uartBufferSize ∧
      run.uart.uartBuf.slice position port.unsent.length = port.unsent
  lines : run.lines = port.lines
  given : run.given = port.given

variable {run : DuplexRun} {port : DuplexPromise}

theorem duplexStep_received {c : UInt8} {uart : Uart} {ended : Option PutLine}
    (hreceive : run.uart.receiveByte c = .ok uart) (hended : run.uart.endedLine c = ended) :
    duplexStep run (.received c) =
      .ok { uart, lines := run.lines ++ ended.toList, given := run.given } := by
  simp [duplexStep, handleUartInterrupt_received, hreceive, hended, bind, pure, Except.pure]

theorem Keeps.received_first (h : Keeps run port) {c : UInt8}
    (hend : c = lineFeed ∨ c = carriageReturn ∨ port.line.length = uartBufferSize - 1)
    (hctr : run.uart.uartBufCtr = port.line.length) (hline : port.line = []) :
    ∃ next, duplexStep run (.received c) = .ok next ∧ Keeps next port := by
  have hzero : ¬ 0 < run.uart.uartBufCtr := by simp [hctr, hline]
  have hended : run.uart.endedLine c = none := if_neg fun hboth ↦ hzero hboth.2
  have hreceive := receiveByte_of_first (hctr ▸ hend) hzero
  exact ⟨_, duplexStep_received hreceive hended, { h with lines := by simp [h.lines] }⟩

/-- A line end, or a full buffer, puts the line to the queue. -/
theorem Keeps.received_end (h : Keeps run port) (hturn : port.unsent = []) {c : UInt8}
    (hend : c = lineFeed ∨ c = carriageReturn ∨ port.line.length = uartBufferSize - 1)
    (hctr : run.uart.uartBufCtr = port.line.length) (hline : port.line ≠ []) :
    ∃ next, duplexStep run (.received c) = .ok next ∧
      Keeps next { port with
        line := []
        queued := if port.queued < uartBufferQueueSize then port.queued + 1 else 0
        lines := port.lines ++ [(port.line, decide (port.queued < uartBufferQueueSize))] } := by
  have hpositive : 0 < run.uart.uartBufCtr := by
    rw [hctr]
    exact List.length_pos_of_ne_nil hline
  obtain ⟨messages, hmessages, hqueued⟩ := h.queued
  have hused : run.uart.uartMsgq.usedMsgs = port.queued := hmessages.used.trans hqueued
  obtain ⟨uartMsgq, hreceive, hmax, hkept⟩ := receiveByte_of_end (hctr ▸ hend) hpositive
    (hctr ▸ h.line_lt) h.maxMsgs hmessages
  have hended : run.uart.endedLine c =
      some (port.line, decide (port.queued < uartBufferQueueSize)) := by
    rw [endedLine, if_pos ⟨hctr ▸ hend, hpositive⟩, hctr, h.line, hused, h.maxMsgs]
  refine ⟨_, duplexStep_received hreceive hended, ?_⟩
  exact {
    initialized := h.initialized
    maxMsgs := hmax
    queued := ⟨_, hkept, by
      rw [hused, h.maxMsgs, apply_ite List.length, List.length_append, hqueued]
      rfl⟩
    turn := .inl rfl
    ctr := by simp [hturn]
    line_lt := Nat.zero_lt_succ 255
    line := by simp [Buffer.slice]
    pointed := fun hunsent ↦ absurd hturn hunsent
    unsent := fun position hposition ↦ by
      simpa [hturn, Buffer.slice] using (h.unsent position hposition).1
    lines := by simp [h.lines]
    given := h.given }

/-- Every other byte extends the line. -/
theorem Keeps.received_char (h : Keeps run port) (hturn : port.unsent = []) {c : UInt8}
    (hend : ¬ (c = lineFeed ∨ c = carriageReturn ∨ port.line.length = uartBufferSize - 1))
    (hctr : run.uart.uartBufCtr = port.line.length) :
    ∃ next, duplexStep run (.received c) = .ok next ∧
      Keeps next { port with line := port.line ++ [c] } := by
  have hinside : run.uart.uartBufCtr < uartBufferSize := hctr ▸ h.line_lt
  have hended : run.uart.endedLine c = none := if_neg fun hboth ↦ hend (hctr ▸ hboth.1)
  have hreceive := receiveByte_of_char (hctr ▸ hend) hinside
  refine ⟨_, duplexStep_received hreceive hended, ?_⟩
  exact { h with
    turn := .inr hturn
    ctr := by simp [hctr, hturn]
    line_lt := by
      simp only [not_or] at hend
      have hlt := h.line_lt
      rw [List.length_append, List.length_singleton]
      omega
    line := by
      have hslice := Buffer.slice_patch_singleton run.uart.uartBuf hinside c
      rw [hctr, h.line, ← hctr] at hslice
      rwa [List.length_append, List.length_singleton, ← hctr]
    unsent := fun position hposition ↦ by
      simpa [hturn, Buffer.slice] using (h.unsent position hposition).1
    lines := by simp [h.lines] }

theorem Keeps.received (h : Keeps run port) (hturn : port.unsent = []) (c : UInt8) :
    ∃ next, duplexStep run (.received c) = .ok next ∧ Keeps next (port.receive c) := by
  have hctr : run.uart.uartBufCtr = port.line.length := by simpa [hturn] using h.ctr
  unfold DuplexPromise.receive
  by_cases hend : c = lineFeed ∨ c = carriageReturn ∨ port.line.length = uartBufferSize - 1
  · rw [if_pos hend]
    by_cases hline : port.line = []
    · rw [if_pos hline]
      exact h.received_first hend hctr hline
    · rw [if_neg hline]
      exact h.received_end hturn hend hctr hline
  · rw [if_neg hend]
    exact h.received_char hturn hend hctr

/-- The step of a message that is sent, as long as the message fits. -/
theorem duplexStep_send (hinit : run.uart.initialized = true) {hdlr : Handler}
    (hfits : hdlr.msg.bufLen.toNat ≤ packetBufSize) :
    duplexStep run (.send hdlr) = .ok { run with
      uart := { run.uart with
        uartBuf := run.uart.uartBuf.overlay hdlr.msg.contents
        uartBufCtr := hdlr.msg.bufLen.toNat
        uartBufPtr := some 0
        rxIrqEnabled := false
        txIrqEnabled := true } } := by
  have hsizes : packetBufSize ≤ uartBufferSize := by decide
  have hcopy : run.uart.uartBuf.memcpy 0 hdlr.msg.buf 0 hdlr.msg.bufLen.toNat =
      .ok (run.uart.uartBuf.overlay hdlr.msg.contents) := by
    rw [Buffer.memcpy_zero, if_pos ⟨by simpa using hfits, hfits.trans hsizes⟩]
    rfl
  simp [duplexStep, sendUartMessage, hinit, Handler.lockWork, hcopy, bind, pure, Except.pure]

theorem Keeps.send (h : Keeps run port) (hturn : port.line = []) {hdlr : Handler}
    (hfits : hdlr.msg.bufLen.toNat ≤ packetBufSize) :
    ∃ next, duplexStep run (.send hdlr) = .ok next ∧
      Keeps next { port with unsent := hdlr.msg.contents } ∧ next.uart.txIrqEnabled = true := by
  have hlength : hdlr.msg.contents.length = hdlr.msg.bufLen.toNat :=
    PacketBuffer.length_contents hfits
  have hsizes : packetBufSize ≤ uartBufferSize := by decide
  have hroom : hdlr.msg.contents.length ≤ uartBufferSize := by omega
  have hslice := Buffer.slice_overlay run.uart.uartBuf hroom
  refine ⟨_, duplexStep_send h.initialized hfits, ?_, rfl⟩
  exact { h with
    turn := .inl hturn
    ctr := by simp [hturn, hlength]
    line := by simp [hturn, Buffer.slice]
    pointed := fun _ ↦ Option.some_ne_none 0
    unsent := fun position hposition ↦ by
      cases hposition
      exact ⟨by rwa [Nat.zero_add], hslice⟩ }

theorem Keeps.count (h : Keeps run port) {fifoSpace : ℕ} (hturn : fifoSpace = 0 ∨ port.line = []) :
    min fifoSpace run.uart.uartBufCtr = min fifoSpace port.unsent.length := by
  rcases hturn with hspace | hline
  · rw [hspace, Nat.zero_min, Nat.zero_min]
  · rw [h.ctr, hline, List.length_nil, Nat.zero_add]

/-- These bytes are the front of the rest of the message. -/
theorem Keeps.fillFifo (h : Keeps run port) (fifoSpace : ℕ) :
    run.uart.fillFifo (min fifoSpace port.unsent.length) = .ok (port.unsent.take fifoSpace) := by
  cases hptr : run.uart.uartBufPtr with
  | none =>
    have hunsent : port.unsent = [] := not_imp_not.mp h.pointed hptr
    simp [Uart.fillFifo, hptr, hunsent]
  | some position =>
    obtain ⟨hfits, hslice⟩ := h.unsent position hptr
    have hcount : position + min fifoSpace port.unsent.length ≤ uartBufferSize := by omega
    have hfront := Buffer.take_slice run.uart.uartBuf position port.unsent.length
      (Nat.min_le_right fifoSpace port.unsent.length)
    rw [hslice] at hfront
    calc
      run.uart.fillFifo (min fifoSpace port.unsent.length)
        = .ok (run.uart.uartBuf.slice position (min fifoSpace port.unsent.length)) := by
          rw [Uart.fillFifo, hptr]
          exact if_pos hcount
      _ = .ok (port.unsent.take fifoSpace) := by
          rw [← hfront, ← List.take_eq_take_min]

/-- The step of an interrupt on TX, once the FIFO has been filled. -/
theorem duplexStep_transmit {fifoSpace count : ℕ} {bytes : List UInt8}
    (hcount : min fifoSpace run.uart.uartBufCtr = count)
    (hfill : run.uart.fillFifo count = .ok bytes) (txComplete : Bool) :
    duplexStep run (.transmit fifoSpace txComplete) =
      .ok { run with
        uart := { run.uart with
          uartBufCtr := run.uart.uartBufCtr - count
          uartBufPtr := run.uart.uartBufPtr.map (· + count)
          rxIrqEnabled := txComplete || run.uart.rxIrqEnabled
          txIrqEnabled := !txComplete && run.uart.txIrqEnabled }
        given := run.given ++ bytes } := by
  cases txComplete <;>
    simp [duplexStep, handleUartInterrupt, UartIrq.transmitReady, transmitBytes, hcount, hfill,
      bind, pure, Except.pure]

theorem Keeps.transmit (h : Keeps run port) {fifoSpace : ℕ}
    (hturn : fifoSpace = 0 ∨ port.line = []) (txComplete : Bool) :
    ∃ next, duplexStep run (.transmit fifoSpace txComplete) = .ok next ∧
      Keeps next (port.step (.transmit fifoSpace txComplete)) ∧
      next.uart.txIrqEnabled = (!txComplete && run.uart.txIrqEnabled) := by
  refine ⟨_, duplexStep_transmit (h.count hturn) (h.fillFifo fifoSpace) txComplete, ?_, rfl⟩
  have hrest : (port.unsent.drop fifoSpace).length =
      port.unsent.length - min fifoSpace port.unsent.length := by
    rw [List.length_drop]
    omega
  exact { h with
    turn := h.turn.imp_right fun hunsent ↦ by simp [DuplexPromise.step, hunsent]
    ctr := by
      simp only [DuplexPromise.step, hrest, h.ctr]
      omega
    pointed := fun hunsent ↦ by
      have hbefore : port.unsent ≠ [] := fun hnil ↦ hunsent (by simp [DuplexPromise.step, hnil])
      simpa using h.pointed hbefore
    unsent := fun position hposition ↦ by
      obtain ⟨start, hstart, rfl⟩ := Option.map_eq_some_iff.mp hposition
      obtain ⟨hfits, hslice⟩ := h.unsent start hstart
      simp only [DuplexPromise.step, hrest]
      refine ⟨by omega, ?_⟩
      rw [← Buffer.drop_slice, hslice, ← List.drop_eq_drop_min]
    given := by rw [h.given]; rfl }

/-- A line taken by the UART thread concerns the queue alone. -/
theorem Keeps.takeLine (h : Keeps run port) :
    ∃ next, duplexStep run .takeLine = .ok next ∧
      Keeps next { port with queued := port.queued - 1 } := by
  obtain ⟨messages, hmessages, hqueued⟩ := h.queued
  cases messages with
  | nil =>
    refine ⟨run, by simp [duplexStep, hmessages.get_nil, bind, pure, Except.pure], ?_⟩
    exact { h with queued := ⟨[], hmessages, by simp [← hqueued]⟩ }
  | cons message rest =>
    obtain ⟨uartMsgq, hget, hrest, hmax, -⟩ := hmessages.get_cons
    refine ⟨{ run with uart := { run.uart with uartMsgq } },
      by simp [duplexStep, hget, bind, pure, Except.pure], ?_⟩
    exact { h with
      maxMsgs := hmax.trans h.maxMsgs
      queued := ⟨rest, hrest, by simp [← hqueued]⟩ }

/-- Ports whose directions take turns keep the promise. -/
theorem Keeps.step {action : UartAction} (h : Keeps run port) (hturn : port.TakesTurns action) :
    ∃ next, duplexStep run action = .ok next ∧ Keeps next (port.step action) := by
  cases action with
  | received c => exact h.received hturn c
  | send hdlr =>
    obtain ⟨next, hnext, hkeeps, -⟩ := h.send hturn.1 hturn.2
    exact ⟨next, hnext, hkeeps⟩
  | transmit fifoSpace txComplete =>
    obtain ⟨next, hnext, hkeeps, -⟩ := h.transmit hturn txComplete
    exact ⟨next, hnext, hkeeps⟩
  | takeLine => exact h.takeLine

/-! ## Isolation -/

/-- A port that has been initialized, before anything has happened. -/
def idlePort (srcId destId : InstanceId) (uartBuf : Buffer UInt8 uartBufferSize)
    (cells : Fin (uartMsgqBufSize / uartBufferSize) → Option (Buffer UInt8 uartBufferSize)) :
    DuplexRun where
  uart := Uart.initial srcId destId uartBuf cells
  lines := []
  given := []

section Isolation

variable (srcId destId : InstanceId) (uartBuf : Buffer UInt8 uartBufferSize)
  (cells : Fin (uartMsgqBufSize / uartBufferSize) → Option (Buffer UInt8 uartBufferSize))

theorem keeps_start : Keeps (idlePort srcId destId uartBuf cells) .start where
  initialized := rfl
  maxMsgs := rfl
  queued := ⟨[], RingQueue.represents_init cells (by decide), rfl⟩
  turn := .inl rfl
  ctr := rfl
  line_lt := Nat.zero_lt_succ 255
  line := rfl
  pointed := fun hunsent ↦ absurd rfl hunsent
  unsent := fun _ hposition ↦ by cases hposition
  lines := rfl
  given := rfl

/-- Reception has the lines to itself. -/
theorem reception_separate :
    Separate DuplexPromise.step (fun port ↦ (port.line, port.queued, port.lines))
      fun action ↦ !action.isTransmission where
  foreign port action hown := by
    cases action with
    | received c => cases hown
    | send hdlr => rfl
    | transmit fifoSpace txComplete => rfl
    | takeLine => cases hown
  determined {port other} action hview := by
    simp only [Prod.mk.injEq] at hview
    obtain ⟨hline, hqueued, hlines⟩ := hview
    cases action with
    | received c =>
      simp only [DuplexPromise.step, DuplexPromise.receive, hline, hqueued, hlines]
      split_ifs <;> simp [hline, hqueued, hlines]
    | send hdlr => simp [DuplexPromise.step, hline, hqueued, hlines]
    | transmit fifoSpace txComplete => simp [DuplexPromise.step, hline, hqueued, hlines]
    | takeLine => simp [DuplexPromise.step, hline, hqueued, hlines]

/-- Transmission has the messages to itself. -/
theorem transmission_separate :
    Separate DuplexPromise.step (fun port ↦ (port.unsent, port.given))
      fun action ↦ !action.isReceived where
  foreign port action hown := by
    cases action with
    | received c =>
      simp only [DuplexPromise.step, DuplexPromise.receive]
      split_ifs <;> rfl
    | send hdlr => cases hown
    | transmit fifoSpace txComplete => cases hown
    | takeLine => cases hown
  determined {port other} action hview := by
    simp only [Prod.mk.injEq] at hview
    obtain ⟨hunsent, hgiven⟩ := hview
    cases action with
    | received c =>
      simp only [DuplexPromise.step, DuplexPromise.receive]
      split_ifs <;> simp [hunsent, hgiven]
    | send hdlr => simp [DuplexPromise.step, hgiven]
    | transmit fifoSpace txComplete => simp [DuplexPromise.step, hunsent, hgiven]
    | takeLine => simp [DuplexPromise.step, hunsent, hgiven]

/-- Without a message to send, bytes may be received at any time. -/
theorem receives_alone {port other : DuplexPromise} {action : UartAction}
    (hown : (!action.isTransmission) = true) (_ : port.TakesTurns action)
    (hidle : other.unsent = []) : other.TakesTurns action := by
  cases action with
  | received c => exact hidle
  | send hdlr => cases hown
  | transmit fifoSpace txComplete => cases hown
  | takeLine => trivial

theorem reception_keeps_unsent {port : DuplexPromise} {action : UartAction}
    (hown : (!action.isTransmission) = true) (hidle : port.unsent = []) :
    (port.step action).unsent = [] := by
  cases action with
  | received c =>
    simp only [DuplexPromise.step, DuplexPromise.receive]
    split_ifs <;> exact hidle
  | send hdlr => cases hown
  | transmit fifoSpace txComplete => cases hown
  | takeLine => exact hidle

/-- Without a line that is being received, messages may be transmitted at any time. -/
theorem transmits_alone {port other : DuplexPromise} {action : UartAction}
    (hown : (!action.isReceived) = true) (hturn : port.TakesTurns action)
    (hidle : other.line = []) : other.TakesTurns action := by
  cases action with
  | received c => cases hown
  | send hdlr => exact ⟨hidle, hturn.2⟩
  | transmit fifoSpace txComplete => exact .inr hidle
  | takeLine => trivial

theorem transmission_keeps_line {port : DuplexPromise} {action : UartAction}
    (hown : (!action.isReceived) = true) (hidle : port.line = []) :
    (port.step action).line = [] := by
  cases action with
  | received c => cases hown
  | send hdlr => exact hidle
  | transmit fifoSpace txComplete => exact hidle
  | takeLine => exact hidle

/-- Receive and transmit do not disturb each other: the lines put to the queue are those of the run
without transmission, the bytes given to the FIFO are those of the run without received bytes, and
no access falls outside the buffer. -/
def DirectionsIsolated (start : DuplexRun) (actions : List UartAction) : Prop :=
  ∃ last reception transmission,
    CheckedRun.run duplexStep start actions = .ok last ∧
    CheckedRun.run duplexStep start (actions.filter fun action ↦ !action.isTransmission) =
      .ok reception ∧
    CheckedRun.run duplexStep start (actions.filter fun action ↦ !action.isReceived) =
      .ok transmission ∧
    last.lines = reception.lines ∧ last.given = transmission.given

/-- The directions of a port are isolated in every run in which they take turns. -/
theorem directions_isolated {actions : List UartAction}
    (halong : Along (total DuplexPromise.step) DuplexPromise.TakesTurns .start actions) :
    DirectionsIsolated (idlePort srcId destId uartBuf cells) actions := by
  have hstart := keeps_start srcId destId uartBuf cells
  obtain ⟨last, reception, hlast, hreception, hlines⟩ :=
    isolated Keeps @Keeps.step reception_separate DuplexRun.lines (fun view ↦ view.2.2) Keeps.lines
      (fun port ↦ port.unsent = []) @receives_alone @reception_keeps_unsent rfl hstart halong
  obtain ⟨last', transmission, hlast', htransmission, hgiven⟩ :=
    isolated Keeps @Keeps.step transmission_separate DuplexRun.given Prod.snd Keeps.given
      (fun port ↦ port.line = []) @transmits_alone @transmission_keeps_line rfl hstart halong
  obtain rfl : last = last' := Except.ok.inj (hlast.symm.trans hlast')
  exact ⟨last, reception, transmission, hlast, hreception, htransmission, hlines, hgiven⟩

end Isolation

def messageHandler (bytes : List UInt8) : Handler :=
  { PacketHandler.newHandler instanceIdUartRs485 0 0 with msg := .ofBytes bytes }

/-- The RS485 port as `main` would set it up. -/
def rs485Port : DuplexRun :=
  idlePort instanceIdUartRs485 instanceIdCloud (Buffer.fill uartBufferSize 0) fun _ ↦ none

/-- A line that is received after a message has been sent. -/
theorem line_after_message_isolated :
    DirectionsIsolated rs485Port
      [.send (messageHandler [0x61, 0x62]), .transmit 1 false, .transmit 16 true, .received 0x68,
        .received lineFeed, .takeLine] :=
  directions_isolated _ _ _ _ (by decide +kernel)

/-- A message that is sent within a line: the line is lost. -/
theorem message_within_line_not_isolated :
    ¬ DirectionsIsolated rs485Port
      [.received 0x68, .send (messageHandler [0x61, 0x62]), .transmit 16 true,
        .received lineFeed] := by
  rintro ⟨last, reception, -, hlast, hreception, -, hlines, -⟩
  have hlost : (CheckedRun.run duplexStep rs485Port
      [.received 0x68, .send (messageHandler [0x61, 0x62]), .transmit 16 true,
        .received lineFeed]).map DuplexRun.lines = .ok [] := by decide +kernel
  have hput : (CheckedRun.run duplexStep rs485Port
      [.received 0x68, .received lineFeed]).map DuplexRun.lines = .ok [([0x68], true)] := by
    decide +kernel
  have hrest : CheckedRun.run duplexStep rs485Port [.received 0x68, .received lineFeed] =
      .ok reception := hreception
  rw [hlast] at hlost
  rw [hrest] at hput
  have heq : ([] : List PutLine) = [([0x68], true)] :=
    (Except.ok.inj hlost).symm.trans (hlines.trans (Except.ok.inj hput))
  cases heq

end Uart

end CrownstoneRouter
