import CrownstoneRouter.Drivers.Duplex

/-!
# Serial output

A message is copied to the buffer, and the interrupts on TX give it to the FIFO in parts. Nothing
makes the next message wait for the rest of the one before, and a completion that the hardware
reports before the whole message has been given disables the interrupt on TX all the same.
-/

namespace CrownstoneRouter

open CheckedMemory CheckedRun

/-- What happens at a port that receives nothing: a message is sent, or the FIFO has room. -/
inductive OutputAction
  | send (hdlr : Handler)
  | transmit (fifoSpace : ℕ) (txComplete : Bool)

def OutputAction.toUart : OutputAction → UartAction
  | .send hdlr => .send hdlr
  | .transmit fifoSpace txComplete => .transmit fifoSpace txComplete

def OutputAction.message : OutputAction → List UInt8
  | .send hdlr => hdlr.msg.contents
  | .transmit _ _ => []

/-- A port, and all messages that have been handed over to it, one behind the other. -/
structure OutputRun where
  port : DuplexRun
  messages : List UInt8

namespace Uart

/-- One step of a port that receives nothing. -/
def outputStep (run : OutputRun) (action : OutputAction) : Checked OutputRun := do
  let port ← duplexStep run.port action.toUart
  return { port, messages := run.messages ++ action.message }

/-- The bytes given to the FIFO are the front of the messages handed over, and all of them when the
interrupt on TX is disabled. Sending a message enables it. -/
structure SentInOrder (run : OutputRun) : Prop where
  front : run.port.given <+: run.messages
  whole : run.port.uart.txIrqEnabled = false → run.port.given = run.messages

/-- No message is longer than its buffer. The next one comes only when the last one has been given
to the FIFO, and so does the completion. -/
def OneAtATime (run : OutputRun) : OutputAction → Prop
  | .send hdlr => hdlr.msg.bufLen.toNat ≤ packetBufSize ∧ run.port.uart.uartBufCtr = 0
  | .transmit fifoSpace txComplete => txComplete = true → run.port.uart.uartBufCtr ≤ fifoSpace

instance (run : OutputRun) : ∀ action, Decidable (OneAtATime run action)
  | .send _ => inferInstanceAs (Decidable (_ ≤ _ ∧ _ = _))
  | .transmit _ _ => inferInstanceAs (Decidable (_ = true → _ ≤ _))

/-- The bytes given and those still to be given are the messages handed over. -/
structure Sends (run : OutputRun) (port : DuplexPromise) : Prop where
  keeps : Keeps run.port port
  line : port.line = []
  order : port.given ++ port.unsent = run.messages
  disabled : run.port.uart.txIrqEnabled = false → port.unsent = []

variable {run : OutputRun} {port : DuplexPromise}

theorem Sends.uartBufCtr (h : Sends run port) : run.port.uart.uartBufCtr = port.unsent.length := by
  rw [h.keeps.ctr, h.line, List.length_nil, Nat.zero_add]

theorem Sends.sentInOrder (h : Sends run port) : SentInOrder run where
  front := by
    rw [h.keeps.given, ← h.order]
    exact List.prefix_append _ _
  whole := by
    intro hdisabled
    rw [h.keeps.given, ← h.order, h.disabled hdisabled, List.append_nil]

/-- A message that finds the buffer empty comes next. -/
theorem Sends.send (h : Sends run port) {hdlr : Handler}
    (hfits : hdlr.msg.bufLen.toNat ≤ packetBufSize) (hempty : run.port.uart.uartBufCtr = 0) :
    ∃ next port, outputStep run (.send hdlr) = .ok next ∧ Sends next port := by
  obtain ⟨sent, hsent, hkeeps, henabled⟩ := h.keeps.send h.line hfits
  have hunsent : port.unsent = [] := List.length_eq_zero_iff.mp (h.uartBufCtr.symm.trans hempty)
  refine ⟨{ port := sent, messages := run.messages ++ hdlr.msg.contents }, _, ?_, hkeeps, h.line,
    ?_, ?_⟩
  · rw [outputStep, OutputAction.toUart, hsent]
    rfl
  · rw [← h.order, hunsent, List.append_nil]
  · intro hdisabled
    rw [henabled] at hdisabled
    cases hdisabled

/-- An interrupt on TX gives the next bytes, however many the FIFO takes. -/
theorem Sends.transmit (h : Sends run port) {fifoSpace : ℕ} {txComplete : Bool}
    (hcomplete : txComplete = true → run.port.uart.uartBufCtr ≤ fifoSpace) :
    ∃ next port, outputStep run (.transmit fifoSpace txComplete) = .ok next ∧ Sends next port := by
  obtain ⟨sent, hsent, hkeeps, hirq⟩ := h.keeps.transmit (.inr h.line) txComplete
  refine ⟨{ port := sent, messages := run.messages ++ [] }, _, ?_, hkeeps, h.line, ?_, ?_⟩
  · rw [outputStep, OutputAction.toUart, hsent]
    rfl
  · calc
      port.given ++ port.unsent.take fifoSpace ++ port.unsent.drop fifoSpace
        = port.given ++ port.unsent := by rw [List.append_assoc, List.take_append_drop]
      _ = run.messages ++ [] := by rw [h.order, List.append_nil]
  · intro hdisabled
    change port.unsent.drop fifoSpace = []
    rw [hirq] at hdisabled
    cases txComplete with
    | true => exact List.drop_eq_nil_of_le (h.uartBufCtr ▸ hcomplete rfl)
    | false => rw [h.disabled hdisabled, List.drop_nil]

theorem Sends.step (h : Sends run port) {action : OutputAction} (hturn : OneAtATime run action) :
    ∃ next port, outputStep run action = .ok next ∧ Sends next port := by
  cases action with
  | send hdlr => exact h.send hturn.1 hturn.2
  | transmit fifoSpace txComplete => exact h.transmit hturn

/-- A port that has been initialized, before anything has been sent. -/
def silentPort (srcId destId : InstanceId) (uartBuf : Buffer UInt8 uartBufferSize)
    (cells : Fin (uartMsgqBufSize / uartBufferSize) → Option (Buffer UInt8 uartBufferSize)) :
    OutputRun where
  port := idlePort srcId destId uartBuf cells
  messages := []

theorem sends_silentPort (srcId destId : InstanceId) (uartBuf : Buffer UInt8 uartBufferSize)
    (cells : Fin (uartMsgqBufSize / uartBufferSize) → Option (Buffer UInt8 uartBufferSize)) :
    Sends (silentPort srcId destId uartBuf cells) .start where
  keeps := keeps_start srcId destId uartBuf cells
  line := rfl
  order := rfl
  disabled := fun _ ↦ rfl

/-- In a run in which the messages come one at a time, every state has sent them whole and in
order. -/
theorem messages_sent_in_order {srcId destId : InstanceId} {uartBuf : Buffer UInt8 uartBufferSize}
    {cells : Fin (uartMsgqBufSize / uartBufferSize) → Option (Buffer UInt8 uartBufferSize)}
    {actions : List OutputAction}
    (hturns : Along outputStep OneAtATime (silentPort srcId destId uartBuf cells) actions) :
    ∀ first, first <+: actions →
      ∃ last, CheckedRun.run outputStep (silentPort srcId destId uartBuf cells) first = .ok last ∧
        SentInOrder last := by
  rintro first ⟨rest, rfl⟩
  obtain ⟨last, hlast, port, hsends⟩ := run_returns_along (fun run ↦ ∃ port, Sends run port)
    (fun ⟨_, h⟩ hturn ↦
      have ⟨next, port, hnext, hsends⟩ := h.step hturn
      ⟨next, hnext, port, hsends⟩)
    ⟨_, sends_silentPort srcId destId uartBuf cells⟩ (along_append_left hturns)
  exact ⟨last, hlast, hsends.sentInOrder⟩

/-- The RS485 port as `main` would set it up. -/
def rs485Output : OutputRun :=
  silentPort instanceIdUartRs485 instanceIdCloud (Buffer.fill uartBufferSize 0) fun _ ↦ none

/-- Two messages, the second one after the first one has been given to the FIFO in two parts. -/
theorem separate_messages_sent_in_order :
    ∃ last, CheckedRun.run outputStep rs485Output
        [.send (messageHandler [0x61, 0x62]), .transmit 1 false, .transmit 1 true,
          .send (messageHandler [0x63]), .transmit 16 true] = .ok last ∧ SentInOrder last :=
  messages_sent_in_order (by decide +kernel) _ List.prefix_rfl

/-- A message that comes before the last one has been given to the FIFO replaces the rest of it, and
a completion while the FIFO has taken nothing ends a message. -/
theorem overlapping_messages_not_in_order :
    (∃ last, CheckedRun.run outputStep rs485Output
      [.send (messageHandler [0x61, 0x62]), .transmit 1 false, .send (messageHandler [0x63]),
        .transmit 16 false] = .ok last ∧ last.port.given = [0x61, 0x63] ∧ ¬ SentInOrder last) ∧
    ∃ last, CheckedRun.run outputStep rs485Output
      [.send (messageHandler [0x61]), .transmit 0 true] = .ok last ∧ last.port.given = [] ∧
        last.port.uart.txIrqEnabled = false ∧ ¬ SentInOrder last := by
  constructor
  · have hend : (CheckedRun.run outputStep rs485Output
        [.send (messageHandler [0x61, 0x62]), .transmit 1 false, .send (messageHandler [0x63]),
          .transmit 16 false]).map (fun last ↦ (last.port.given, last.messages)) =
        .ok ([0x61, 0x63], [0x61, 0x62, 0x63]) := by decide +kernel
    obtain ⟨last, hrun, hlast⟩ := map_eq_ok.mp hend
    obtain ⟨hgiven, hmessages⟩ := Prod.mk.inj hlast
    refine ⟨last, hrun, hgiven, fun h ↦ ?_⟩
    have hfront := h.front
    rw [hgiven, hmessages] at hfront
    exact absurd hfront (by decide)
  · have hend : (CheckedRun.run outputStep rs485Output
        [.send (messageHandler [0x61]), .transmit 0 true]).map
          (fun last ↦ (last.port.given, last.messages, last.port.uart.txIrqEnabled)) =
        .ok ([], [0x61], false) := by decide +kernel
    obtain ⟨last, hrun, hlast⟩ := map_eq_ok.mp hend
    obtain ⟨hgiven, hrest⟩ := Prod.mk.inj hlast
    obtain ⟨hmessages, hdisabled⟩ := Prod.mk.inj hrest
    refine ⟨last, hrun, hgiven, hdisabled, fun h ↦ ?_⟩
    have hwhole := h.whole hdisabled
    rw [hgiven, hmessages] at hwhole
    cases hwhole

end Uart

end CrownstoneRouter
