import CrownstoneRouter.Drivers.Uart

/-!
# The serial link to the CM4

The CM4 sends the frames of the router protocol over a link that carries lines of text: a line ends
at a line end, and its length is recovered with `strlen`. Every frame that fits a packet has a zero
high byte in its length field, so that none of them arrives whole.
-/

namespace CrownstoneRouter

open CheckedMemory LittleEndian

variable (crc16_ccitt : UInt16 → List UInt8 → UInt16)

namespace Uart

/-- Receive some bytes, one interrupt each. -/
def receiveAll (uart : Uart) : List UInt8 → Checked Uart
  | [] => .ok uart
  | c :: rest => do
      let (uart, _) ← uart.handleUartInterrupt (.received c)
      uart.receiveAll rest

/-- Some rounds of the UART thread, with the packets handed to the packet handler. -/
def handleMessages (uart : Uart) (pkth : PacketHandler) : ℕ → Checked (List PacketData)
  | 0 => .ok []
  | rounds + 1 => do
      let (uart, pkth, handed) ← uart.handleUartMessages pkth
      let rest ← uart.handleMessages pkth rounds
      return handed.toList ++ rest

/-- The packets handed to the packet handler for some received bytes. -/
def packetsOf (uart : Uart) (pkth : PacketHandler) (bytes : List UInt8) :
    Checked (List PacketData) := do
  let uart ← uart.receiveAll bytes
  uart.handleMessages pkth uart.uartMsgq.usedMsgs

/-- A packet that the UART thread hands over is made of a message. -/
theorem handleUartMessages_handed {uart next : Uart} {pkth after : PacketHandler}
    {data : PacketData} (h : uart.handleUartMessages pkth = .ok (next, after, some data)) :
    ∃ msgBuf, uart.packetOfMessage msgBuf = .ok data := by
  obtain ⟨-, -, hhanded⟩ | ⟨_, -, -, -, hhanded⟩ |
    ⟨msgBuf, made, _, _, -, hmade, -, ⟨-, -, hhanded⟩ | ⟨_, -, hhanded⟩⟩ :=
      handleUartMessages_cases h
  · cases hhanded
  · cases hhanded
  · cases hhanded
  · cases hhanded
    exact ⟨msgBuf, hmade⟩

/-- No packet made of received bytes contains a NUL. -/
theorem zero_notMem_handleMessages {rounds : ℕ} {uart : Uart} {pkth : PacketHandler}
    {handed : List PacketData} (h : uart.handleMessages pkth rounds = .ok handed) :
    ∀ data ∈ handed, 0 ∉ data.msg.contents := by
  induction rounds generalizing uart pkth handed with
  | zero =>
    cases h
    simp
  | succ rounds ih =>
    obtain ⟨⟨next, after, first⟩, hround, h⟩ := bind_eq_ok.mp h
    obtain ⟨rest, hrest, h⟩ := bind_eq_ok.mp h
    cases h
    intro data hdata
    rcases List.mem_append.mp hdata with hfirst | hlater
    · obtain ⟨msgBuf, hmessage⟩ :=
        handleUartMessages_handed (Option.mem_toList.mp hfirst ▸ hround)
      exact zero_notMem_contents hmessage
    · exact ih hrest data hlater

end Uart

/-- The frame, sent as a line, is handed to the packet handler as one incoming packet. -/
def Transparent (uart : Uart) (pkth : PacketHandler) (frame : List UInt8) (lineEnd : UInt8) :
    Prop :=
  ∃ data, uart.packetsOf pkth (frame ++ [lineEnd]) = .ok [data] ∧ data.type = .incoming ∧
    data.msg.bufLen.toNat = frame.length ∧ data.msg.contents = frame

theorem not_transparent_of_zero {uart : Uart} {pkth : PacketHandler} {frame : List UInt8}
    {lineEnd : UInt8} (hzero : 0 ∈ frame) : ¬ Transparent uart pkth frame lineEnd := by
  rintro ⟨data, hpackets, -, -, hcontents⟩
  obtain ⟨received, -, hhanded⟩ := bind_eq_ok.mp hpackets
  have hclean := Uart.zero_notMem_handleMessages hhanded data List.mem_cons_self
  rw [hcontents] at hclean
  exact hclean hzero

/-- The length field of a short frame has a zero high byte. -/
theorem zero_mem_lengthField {length : ℕ} (h : length < 256) : 0 ∈ lengthField length := by
  have hhigh : (UInt16.ofNat length >>> 8).toUInt8 = 0 := by
    apply UInt8.toNat.inj
    rw [toNat_highByte, UInt16.toNat_ofNat_of_lt' (h.trans (by decide)), Nat.div_eq_of_lt h]
    rfl
  simp [lengthField, putLe16, hhigh]

theorem zero_mem_uartFrame {type : UInt8} {payload : List UInt8}
    (hfits : (uartFrame crc16_ccitt type payload).length ≤ packetBufSize) :
    0 ∈ uartFrame crc16_ccitt type payload := by
  have hlength : payload.length + 4 < 256 := by
    have hsize : packetBufSize = 250 := rfl
    rw [length_uartFrame] at hfits
    omega
  have hzero := zero_mem_lengthField hlength
  simp only [uartFrame, List.cons_append, List.mem_cons, List.mem_append]
  exact .inr (.inl (.inl hzero))

/-- No control packet whose frame fits a packet gets through the link to the CM4, whatever the state
of the port. -/
theorem controlUartFrame_not_transparent (uart : Uart) (pkth : PacketHandler) (commandType : UInt8)
    (srcId destId : InstanceId) (requestId : UInt16) (payload : List UInt8) (lineEnd : UInt8)
    (hfits : (controlUartFrame crc16_ccitt commandType srcId destId requestId payload).length ≤
      packetBufSize) :
    ¬ Transparent uart pkth
      (controlUartFrame crc16_ccitt commandType srcId destId requestId payload) lineEnd :=
  not_transparent_of_zero (zero_mem_uartFrame crc16_ccitt hfits)

/-- The port to the CM4 as `main` would set it up. -/
def cm4Port : Uart :=
  Uart.initial instanceIdUartCm4 instanceIdCloud (Buffer.fill uartBufferSize 0) fun _ ↦ none

/-- The frame of a control packet without payload. -/
theorem empty_controlUartFrame_not_transparent :
    ¬ Transparent cm4Port (PacketHandler.routerRegistry [])
      (controlUartFrame zephyrCrc16Ccitt 6 instanceIdUartCm4 instanceIdUartRs485 1 []) lineFeed :=
  controlUartFrame_not_transparent zephyrCrc16Ccitt _ _ _ _ _ _ _ _ (by decide)

/-- Two bytes are all that arrives of that frame. -/
theorem controlUartFrame_truncated :
    ∃ data, cm4Port.packetsOf (PacketHandler.routerRegistry [])
      (controlUartFrame zephyrCrc16Ccitt 6 instanceIdUartCm4 instanceIdUartRs485 1 [] ++
        [lineFeed]) = .ok [data] ∧
      data.msg.contents = [0x7E, 0x0F] ∧
      ¬ Transparent cm4Port (PacketHandler.routerRegistry [])
        (controlUartFrame zephyrCrc16Ccitt 6 instanceIdUartCm4 instanceIdUartRs485 1 [])
        lineFeed :=
  ⟨_, rfl, by decide +kernel,
    not_transparent_of_zero (zero_mem_uartFrame zephyrCrc16Ccitt (by decide))⟩

end CrownstoneRouter
