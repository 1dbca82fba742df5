import Mathlib.Data.List.TakeWhile
import CrownstoneRouter.PacketHandling.Codec
import CrownstoneRouter.PacketHandling.Queue

/-!
# The UART driver

The interrupt handler collects received bytes into lines in a buffer that transmission uses as well,
and puts every completed line into a message queue. The UART thread takes a line from the queue,
recovers its length with `strlen`, and hands it to the packet handler as an incoming or an outgoing
packet, depending on the first byte of the line.

What the interrupt handler asks the hardware about is an input of each interrupt: the line status,
the byte in the receive FIFO and the room in the transmit FIFO.
-/

namespace CrownstoneRouter

open CheckedMemory

/-- `CS_UART_BUFFER_SIZE` -/
abbrev uartBufferSize : ℕ := 256

/-- `CS_UART_BUFFER_QUEUE_SIZE` -/
abbrev uartBufferQueueSize : ℕ := 2

/-- The size of `_msgq_buf` of a `Uart` in bytes. -/
abbrev uartMsgqBufSize : ℕ := uartBufferQueueSize * uartBufferSize

/-- The class `Uart`. The buffer pointer is an offset into the buffer, and the two last fields tell
whether the interrupts are enabled. -/
structure Uart where
  initialized : Bool
  destId : InstanceId
  srcId : InstanceId
  hasPktHandler : Bool
  uartMsgq : RingQueue (Buffer UInt8 uartBufferSize) (uartMsgqBufSize / uartBufferSize)
  threadRunning : Bool
  uartBuf : Buffer UInt8 uartBufferSize
  uartBufCtr : ℕ
  uartBufPtr : Option ℕ
  rxIrqEnabled : Bool
  txIrqEnabled : Bool

/-- What the hardware answers during one interrupt. -/
structure UartIrq where
  update : Bool
  isPending : Bool
  rxReady : Bool
  fifoRead : Option UInt8
  txReady : Bool
  fifoSpace : ℕ
  txComplete : Bool
  deriving DecidableEq

/-- The interrupt raised by a received byte while nothing is transmitted. -/
def UartIrq.received (byte : UInt8) : UartIrq where
  update := true
  isPending := true
  rxReady := true
  fifoRead := some byte
  txReady := false
  fifoSpace := 0
  txComplete := false

/-- `\n` -/
def lineFeed : UInt8 := 0x0A

/-- `\r` -/
def carriageReturn : UInt8 := 0x0D

namespace Uart

/-- The port after its initialization, with the buffer and the queue storage as they were before. -/
def initial (srcId destId : InstanceId) (uartBuf : Buffer UInt8 uartBufferSize)
    (cells : Fin (uartMsgqBufSize / uartBufferSize) → Option (Buffer UInt8 uartBufferSize)) :
    Uart where
  initialized := true
  destId := destId
  srcId := srcId
  hasPktHandler := true
  uartMsgq := RingQueue.init cells uartBufferQueueSize
  threadRunning := true
  uartBuf := uartBuf
  uartBufCtr := 0
  uartBufPtr := none
  rxIrqEnabled := true
  txIrqEnabled := false

/-! ## Interrupts -/

/-- The interrupt on RX, once a byte has been read: store characters until line end is detected, or
the buffer is full. A line that the queue refuses is dropped together with the queue. -/
def receiveByte (uart : Uart) (c : UInt8) : Checked Uart :=
  if c = lineFeed ∨ c = carriageReturn ∨ uart.uartBufCtr = uartBufferSize - 1 then
    if uart.uartBufCtr > 0 then do
      let uartBuf ← uart.uartBuf.store uart.uartBufCtr [0]
      let (taken, uartMsgq) ← uart.uartMsgq.put uartBuf
      return { uart with
        uartBuf := uartBuf
        uartMsgq := if taken then uartMsgq else uartMsgq.purge
        uartBufCtr := 0 }
    else return uart
  else if uart.uartBufCtr < uartBufferSize - 1 then do
    let uartBuf ← uart.uartBuf.store uart.uartBufCtr [c]
    return { uart with uartBuf := uartBuf, uartBufCtr := uart.uartBufCtr + 1 }
  else return uart

/-- Hand `count` bytes behind the buffer pointer to the transmit FIFO. -/
def fillFifo (uart : Uart) (count : ℕ) : Checked (List UInt8) :=
  match uart.uartBufPtr with
  | some position => uart.uartBuf.load position count
  | none => if count = 0 then .ok [] else .error .nullPointer

/-- The interrupt on TX; the second component is what is given to the FIFO. -/
def transmitBytes (uart : Uart) (irq : UartIrq) : Checked (Uart × List UInt8) := do
  let count := min irq.fifoSpace uart.uartBufCtr
  let bytes ← uart.fillFifo count
  let uart := { uart with
    uartBufCtr := uart.uartBufCtr - count
    uartBufPtr := uart.uartBufPtr.map (· + count) }
  if irq.txComplete then return ({ uart with txIrqEnabled := false, rxIrqEnabled := true }, bytes)
  else return (uart, bytes)

/-- Handle UART interrupts. -/
def handleUartInterrupt (uart : Uart) (irq : UartIrq) : Checked (Uart × List UInt8) := do
  if !irq.update && !irq.isPending then return (uart, [])
  else if irq.rxReady then
    match irq.fifoRead with
    | none => return (uart, [])
    | some c =>
        let uart ← uart.receiveByte c
        if irq.txReady then uart.transmitBytes irq else return (uart, [])
  else if irq.txReady then uart.transmitBytes irq
  else return (uart, [])

/-! ## Messages -/

/-- `strlen`, which runs past a buffer without a terminator. -/
def strlen {size : ℕ} (buffer : Buffer UInt8 size) : Checked ℕ :=
  if (buffer.cells.takeWhile (· ≠ 0)).length < size then
    .ok (buffer.cells.takeWhile (· ≠ 0)).length
  else .error .outOfBounds

/-- The packet that the UART thread makes of a message. -/
def packetOfMessage (uart : Uart) (msgBuf : Buffer UInt8 uartBufferSize) : Checked PacketData := do
  let len ← strlen msgBuf
  let msgLen := min packetBufSize len
  let buf ← (Buffer.fill packetBufSize 0).memcpy 0 msgBuf 0 msgLen
  let first ← loadByte msgBuf 0
  if first = uartStartToken then
    return { type := .incoming, destId := uart.destId, srcId := instanceIdUartCm4, resultCode := 0,
             msg := { buf, bufLen := UInt16.ofNat msgLen } }
  else
    return { type := .outgoing, destId := uart.destId, srcId := uart.srcId, resultCode := 0,
             msg := { buf, bufLen := UInt16.ofNat msgLen } }

/-- One round of `handleUartMessages`; the last component is the packet handed to the packet
handler. The thread waits while its queue is empty, and ends when there is no packet handler to hand
the packet to, or one whose thread is not running. -/
def handleUartMessages (uart : Uart) (pkth : PacketHandler) :
    Checked (Uart × PacketHandler × Option PacketData) := do
  if !uart.threadRunning then return (uart, pkth, none)
  else
    let (msgBuf, uartMsgq) ← uart.uartMsgq.get
    let uart := { uart with uartMsgq := uartMsgq }
    match msgBuf with
    | none => return (uart, pkth, none)
    | some msgBuf =>
        let data ← uart.packetOfMessage msgBuf
        if uart.hasPktHandler then
          let (ret, pkth) ← pkth.handlePacket data
          return ({ uart with threadRunning := ret ≠ .aborted }, pkth, some data)
        else return ({ uart with threadRunning := false }, pkth, none)

/-- Transmit the message of a handler whose work item runs. -/
def sendUartMessage (uart : Uart) (hdlr : Handler) : Checked (Uart × Handler) := do
  if !uart.initialized then return (uart, hdlr)
  else
    let hdlr := hdlr.lockWork
    let uartBuf ← uart.uartBuf.memcpy 0 hdlr.msg.buf 0 hdlr.msg.bufLen.toNat
    let uart := { uart with
      uartBuf := uartBuf
      uartBufCtr := hdlr.msg.bufLen.toNat
      uartBufPtr := some 0 }
    let hdlr := hdlr.unlockWork
    return ({ uart with rxIrqEnabled := false, txIrqEnabled := true }, hdlr)

/-! ## Specifications -/

theorem handleUartInterrupt_received (uart : Uart) (byte : UInt8) :
    uart.handleUartInterrupt (.received byte) =
      (uart.receiveByte byte).bind fun uart ↦ .ok (uart, []) := rfl

/-- Everything that a received byte can do: nothing, if a line end comes first in a line, or end a
line, or extend it. -/
theorem receiveByte_cases {uart next : Uart} {c : UInt8} (h : uart.receiveByte c = .ok next) :
    next = uart ∨
    (0 < uart.uartBufCtr ∧ ∃ uartBuf taken uartMsgq,
      uart.uartBuf.store uart.uartBufCtr [0] = .ok uartBuf ∧
      uart.uartMsgq.put uartBuf = .ok (taken, uartMsgq) ∧
      next = { uart with
        uartBuf := uartBuf
        uartMsgq := if taken then uartMsgq else uartMsgq.purge
        uartBufCtr := 0 }) ∨
    ∃ uartBuf, c ≠ lineFeed ∧ c ≠ carriageReturn ∧ uart.uartBufCtr < uartBufferSize - 1 ∧
      uart.uartBuf.store uart.uartBufCtr [c] = .ok uartBuf ∧
      next = { uart with uartBuf := uartBuf, uartBufCtr := uart.uartBufCtr + 1 } := by
  unfold receiveByte at h
  split_ifs at h with hend hctr hroom
  · obtain ⟨uartBuf, hstore, h⟩ := bind_eq_ok.mp h
    obtain ⟨⟨taken, uartMsgq⟩, hput, h⟩ := bind_eq_ok.mp h
    cases h
    exact .inr (.inl ⟨hctr, uartBuf, taken, uartMsgq, hstore, hput, rfl⟩)
  · cases h
    exact .inl rfl
  · obtain ⟨uartBuf, hstore, h⟩ := bind_eq_ok.mp h
    cases h
    simp only [not_or] at hend
    exact .inr (.inr ⟨uartBuf, hend.1, hend.2.1, hroom, hstore, rfl⟩)
  · cases h
    exact .inl rfl

theorem receiveByte_of_first {uart : Uart} {c : UInt8} (hend : c = lineFeed ∨ c = carriageReturn ∨
    uart.uartBufCtr = uartBufferSize - 1) (hctr : ¬ 0 < uart.uartBufCtr) :
    uart.receiveByte c = .ok uart := by
  rw [receiveByte, if_pos hend, if_neg hctr]
  rfl

/-- A line end, or a full buffer, terminates the line and puts it to the queue. -/
theorem receiveByte_of_end {uart : Uart} {c : UInt8} (hend : c = lineFeed ∨ c = carriageReturn ∨
    uart.uartBufCtr = uartBufferSize - 1) (hctr : 0 < uart.uartBufCtr)
    (hfits : uart.uartBufCtr < uartBufferSize) (hmax : uart.uartMsgq.maxMsgs = uartBufferQueueSize)
    {queued : List (Buffer UInt8 uartBufferSize)} (hqueued : uart.uartMsgq.Represents queued) :
    ∃ uartMsgq, uart.receiveByte c = .ok { uart with
        uartBuf := uart.uartBuf.patch uart.uartBufCtr [0], uartMsgq, uartBufCtr := 0 } ∧
      uartMsgq.maxMsgs = uartBufferQueueSize ∧
      uartMsgq.Represents
        (if uart.uartMsgq.usedMsgs < uart.uartMsgq.maxMsgs then
          queued ++ [uart.uartBuf.patch uart.uartBufCtr [0]]
        else []) := by
  have hstore : uart.uartBuf.store uart.uartBufCtr [0] =
      .ok (uart.uartBuf.patch uart.uartBufCtr [0]) := if_pos (Nat.succ_le_of_lt hfits)
  obtain ⟨uartMsgq, hput, hkept, hkeeps⟩ :=
    hqueued.put_or_purge (hmax ▸ by decide) (uart.uartBuf.patch uart.uartBufCtr [0])
  have hpurge : uartMsgq.purge.maxMsgs = uartMsgq.maxMsgs := rfl
  refine ⟨_, ?_, ?_, hkept⟩
  · rw [receiveByte, if_pos hend, if_pos hctr, hstore]
    simp [bind, hput, pure, Except.pure]
  · rw [apply_ite RingQueue.maxMsgs, hpurge, ite_self, hkeeps, hmax]

/-- Every other byte extends the line. -/
theorem receiveByte_of_char {uart : Uart} {c : UInt8} (hchar : ¬ (c = lineFeed ∨
    c = carriageReturn ∨ uart.uartBufCtr = uartBufferSize - 1))
    (hfits : uart.uartBufCtr < uartBufferSize) :
    uart.receiveByte c = .ok { uart with
      uartBuf := uart.uartBuf.patch uart.uartBufCtr [c], uartBufCtr := uart.uartBufCtr + 1 } := by
  have hroom : uart.uartBufCtr < uartBufferSize - 1 := by
    simp only [not_or] at hchar
    omega
  have hstore : uart.uartBuf.store uart.uartBufCtr [c] =
      .ok (uart.uartBuf.patch uart.uartBufCtr [c]) := if_pos (Nat.succ_le_of_lt hfits)
  rw [receiveByte, if_neg hchar, if_pos hroom, hstore]
  rfl

/-- Everything that a round of the UART thread can do: nothing, or take a message, of which it makes
a packet that it may hand over. -/
theorem handleUartMessages_cases {uart next : Uart} {pkth after : PacketHandler}
    {handed : Option PacketData} (h : uart.handleUartMessages pkth = .ok (next, after, handed)) :
    (next = uart ∧ after = pkth ∧ handed = none) ∨
    (∃ uartMsgq, uart.uartMsgq.get = .ok (none, uartMsgq) ∧ next = { uart with uartMsgq } ∧
      after = pkth ∧ handed = none) ∨
    ∃ msgBuf data uartMsgq threadRunning, uart.uartMsgq.get = .ok (some msgBuf, uartMsgq) ∧
      uart.packetOfMessage msgBuf = .ok data ∧ next = { uart with uartMsgq, threadRunning } ∧
      ((uart.hasPktHandler = false ∧ after = pkth ∧ handed = none) ∨
        ∃ ret, pkth.handlePacket data = .ok (ret, after) ∧ handed = some data) := by
  unfold handleUartMessages at h
  split_ifs at h with hthread
  · cases h
    exact .inl ⟨rfl, rfl, rfl⟩
  · obtain ⟨⟨msgBuf, uartMsgq⟩, hget, h⟩ := bind_eq_ok.mp h
    cases msgBuf with
    | none =>
      cases h
      exact .inr (.inl ⟨uartMsgq, hget, rfl, rfl, rfl⟩)
    | some msgBuf =>
      obtain ⟨data, hdata, h⟩ := bind_eq_ok.mp h
      refine .inr (.inr ⟨msgBuf, data, uartMsgq, next.threadRunning, hget, hdata, ?_⟩)
      split_ifs at h with hpkth
      · obtain ⟨⟨ret, other⟩, hhandle, h⟩ := bind_eq_ok.mp h
        cases h
        exact ⟨rfl, .inr ⟨ret, hhandle, rfl⟩⟩
      · cases h
        exact ⟨rfl, .inl ⟨Bool.eq_false_of_not_eq_true hpkth, rfl, rfl⟩⟩

/-- The UART thread hands over the packet that it makes of the oldest message. -/
theorem handleUartMessages_of_get {uart : Uart} {pkth after : PacketHandler} {ret : RetCode}
    {msgBuf : Buffer UInt8 uartBufferSize} {data : PacketData}
    {uartMsgq : RingQueue (Buffer UInt8 uartBufferSize) (uartMsgqBufSize / uartBufferSize)}
    (hrunning : uart.threadRunning = true) (hpkth : uart.hasPktHandler = true)
    (hget : uart.uartMsgq.get = .ok (some msgBuf, uartMsgq))
    (hdata : packetOfMessage { uart with uartMsgq } msgBuf = .ok data)
    (hhandle : pkth.handlePacket data = .ok (ret, after)) :
    uart.handleUartMessages pkth =
      .ok ({ uart with uartMsgq, threadRunning := ret ≠ .aborted }, after, some data) := by
  rw [handleUartMessages, if_neg (by simp [hrunning]), hget]
  change (packetOfMessage { uart with uartMsgq } msgBuf).bind _ = _
  rw [hdata, bind_ok]
  change (if uart.hasPktHandler then (pkth.handlePacket data).bind _ else _) = _
  rw [if_pos hpkth, hhandle]
  rfl

/-- `strlen` stays inside an array exactly if the array has an end. -/
theorem strlen_returns_iff {size : ℕ} (buffer : Buffer UInt8 size) :
    (∃ len, strlen buffer = .ok len) ↔ (0 : UInt8) ∈ buffer.cells := by
  have hprefix : buffer.cells.takeWhile (· ≠ 0) <+: buffer.cells := List.takeWhile_prefix _
  have hle := hprefix.length_le.trans_eq buffer.length_cells
  constructor
  · rintro ⟨len, hlen⟩
    obtain ⟨hlt, -⟩ := guard_eq_ok.mp hlen
    by_contra hzero
    have hall : buffer.cells.takeWhile (· ≠ 0) = buffer.cells :=
      List.takeWhile_eq_self_iff.mpr fun byte hbyte ↦
        decide_eq_true fun heq ↦ hzero (heq ▸ hbyte)
    rw [hall, buffer.length_cells] at hlt
    exact lt_irrefl _ hlt
  · intro hzero
    refine ⟨_, if_pos (lt_of_le_of_ne hle fun hall ↦ ?_)⟩
    have hsame := hprefix.eq_of_length (hall.trans buffer.length_cells.symm)
    rw [← hsame] at hzero
    simpa using List.mem_takeWhile_imp hzero

/-- The transmission stays inside the buffers exactly if the message fits, on an initialized port. -/
theorem sendUartMessage_returns_iff (uart : Uart) (hdlr : Handler) :
    (∃ result, uart.sendUartMessage hdlr = .ok result) ↔
      (uart.initialized = true → hdlr.msg.bufLen.toNat ≤ packetBufSize) := by
  have hsizes : packetBufSize ≤ uartBufferSize := by decide
  cases hinit : uart.initialized with
  | false =>
    refine iff_of_true ⟨(uart, hdlr), ?_⟩ (by simp)
    rw [sendUartMessage, hinit]
    rfl
  | true =>
    have hmsg : hdlr.lockWork.msg = hdlr.msg := rfl
    simp only [sendUartMessage, hinit, hmsg, bind]
    constructor
    · rintro ⟨result, hsend⟩ -
      obtain ⟨uartBuf, hcopy, -⟩ := bind_eq_ok.mp hsend
      have hread := (Buffer.memcpy_eq_ok hcopy).2.1
      rw [Buffer.slice, List.length_take, List.length_drop, Buffer.length_cells] at hread
      omega
    · intro hfits
      have hcopy : 0 + hdlr.msg.bufLen.toNat ≤ packetBufSize ∧
          hdlr.msg.bufLen.toNat ≤ uartBufferSize :=
        ⟨by simpa using hfits trivial, (hfits trivial).trans hsizes⟩
      simp only [Buffer.memcpy_zero, if_pos hcopy, bind_ok]
      exact ⟨_, rfl⟩

theorem takeWhile_text_append {text : List UInt8} (htext : 0 ∉ text) (rest : List UInt8) :
    (text ++ rest).takeWhile (· ≠ 0) = text ++ rest.takeWhile (· ≠ 0) := by
  apply List.takeWhile_append_of_pos
  intro byte hbyte
  have hne : byte ≠ 0 := fun heq ↦ htext (heq ▸ hbyte)
  simpa using hne

/-- The text of a message, up to its terminator and as far as it fits a packet. -/
def messageText (msgBuf : Buffer UInt8 uartBufferSize) : List UInt8 :=
  (msgBuf.cells.takeWhile (· ≠ 0)).take packetBufSize

theorem length_messageText_le (msgBuf : Buffer UInt8 uartBufferSize) :
    (messageText msgBuf).length ≤ packetBufSize :=
  List.length_take_le _ _

theorem slice_eq_messageText (msgBuf : Buffer UInt8 uartBufferSize) :
    msgBuf.slice 0 (min packetBufSize (msgBuf.cells.takeWhile (· ≠ 0)).length) =
      messageText msgBuf := by
  have hprefix := List.prefix_iff_eq_take.mp
    (List.takeWhile_prefix (fun byte : UInt8 ↦ byte ≠ 0) : _ <+: msgBuf.cells)
  rw [messageText, Buffer.slice, List.drop_zero, ← List.take_take, ← hprefix]

/-- A terminated message becomes a packet with its text: an incoming one from the CM4 if it starts
with the start token, otherwise an outgoing one from the port. -/
theorem packetOfMessage_eq (uart : Uart) (msgBuf : Buffer UInt8 uartBufferSize) :
    uart.packetOfMessage msgBuf =
      if (msgBuf.cells.takeWhile (· ≠ 0)).length < uartBufferSize then
        .ok (if byteAt msgBuf 0 = uartStartToken then
          { type := .incoming, destId := uart.destId, srcId := instanceIdUartCm4, resultCode := 0,
            msg := .ofBytes (messageText msgBuf) }
        else
          { type := .outgoing, destId := uart.destId, srcId := uart.srcId, resultCode := 0,
            msg := .ofBytes (messageText msgBuf) })
      else .error .outOfBounds := by
  have hlength : min packetBufSize (msgBuf.cells.takeWhile (· ≠ 0)).length =
      (messageText msgBuf).length := by
    rw [messageText, List.length_take]
  have hfits := length_messageText_le msgBuf
  have hcopy : 0 + (messageText msgBuf).length ≤ uartBufferSize ∧
      (messageText msgBuf).length ≤ packetBufSize := by
    have hsizes : packetBufSize ≤ uartBufferSize := by decide
    omega
  have hslice := slice_eq_messageText msgBuf
  rw [hlength] at hslice
  simp only [packetOfMessage, strlen, bind, bind_guard, Buffer.memcpy_zero, loadByte, hlength,
    if_pos hcopy, hslice]
  refine if_ctx_congr Iff.rfl (fun _ ↦ ?_) (fun _ ↦ rfl)
  rw [if_pos (by decide)]
  split_ifs <;> rfl

theorem contents_packetOfMessage {uart : Uart} {msgBuf : Buffer UInt8 uartBufferSize}
    {data : PacketData} (h : uart.packetOfMessage msgBuf = .ok data) :
    data.msg.contents = messageText msgBuf := by
  rw [packetOfMessage_eq] at h
  obtain ⟨-, rfl⟩ := guard_eq_ok.mp h
  split_ifs <;> exact PacketBuffer.contents_ofBytes (length_messageText_le msgBuf)

theorem zero_notMem_contents {uart : Uart} {msgBuf : Buffer UInt8 uartBufferSize}
    {data : PacketData} (h : uart.packetOfMessage msgBuf = .ok data) :
    0 ∉ data.msg.contents := by
  rw [contents_packetOfMessage h]
  intro hzero
  have htext := List.mem_takeWhile_imp (List.mem_of_mem_take hzero)
  simp at htext

end Uart

end CrownstoneRouter
