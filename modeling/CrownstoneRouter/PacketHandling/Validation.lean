import CrownstoneRouter.Drivers.BleCentral
import CrownstoneRouter.Drivers.Uart
import CrownstoneRouter.PacketHandling.Delivery

/-!
# What incoming packets are checked for

A message is received with a length, and contains three more: that of the UART frame, of the generic
packet and of the control packet. `handleIncomingPacket` follows the first and the last of these
without comparing them with the length received, and leaves every other check to its loaders, which
log what they find. Two consequences are made exact here: which messages are handled within their
bounds, and which frames can cause a command.
-/

namespace CrownstoneRouter

open CheckedMemory CheckedRun

variable (crc16_ccitt : UInt16 → List UInt8 → UInt16)

/-! ## Lengths -/

/-- A message is either dropped with nothing changed, or the control payload that is copied lies
inside the bytes received and fits a packet buffer. -/
def LengthSafe (sys : System) (data : PacketData) : Prop :=
  ∃ next, handleIncomingPacket crc16_ccitt sys data = .ok next ∧
    (next = sys ∨ controlEnd data ≤ data.msg.bufLen.toNat ∧
      (incomingControl data).length.toNat ≤ packetBufSize)

/-- The UART length stays inside the message buffer, and the control payload ends inside the bytes
received. -/
def LengthsFit (data : PacketData) : Prop :=
  Loadable data ∧ (IsControl data → controlEnd data ≤ data.msg.bufLen.toNat)

instance (data : PacketData) : Decidable (LengthsFit data) :=
  inferInstanceAs (Decidable (_ ∧ _))

/-- The message of every registered handler fits its buffer. -/
def MessagesFit (sys : System) : Prop :=
  ∀ slot : Slot, slot.val < sys.pkth.handlerCtr →
    (sys.handler slot).msg.bufLen.toNat ≤ packetBufSize

section Lengths

variable {crc16_ccitt} {sys next : System}

theorem controlLength_le (data : PacketData) :
    (incomingControl data).length.toNat ≤ controlEnd data :=
  Nat.le_add_left _ _

/-- A message for a registered handler is handled within its bounds exactly if its lengths fit. -/
theorem lengthSafe_iff {data : PacketData} (hlen : data.msg.bufLen.toNat ≤ packetBufSize)
    (hdest : IsControl data →
      ∃ slot, sys.pkth.getHandler (incomingControl data).destId = some slot) :
    LengthSafe crc16_ccitt sys data ↔ LengthsFit data := by
  by_cases hloadable : Loadable data
  · by_cases hcontrol : IsControl data
    · obtain ⟨slot, hslot⟩ := hdest hcontrol
      have hstep : handleIncomingPacket crc16_ccitt sys data = _ :=
        handleIncomingPacket_of_control hloadable hcontrol hslot
      constructor
      · rintro ⟨next, hnext, houtcome⟩
        rw [hstep] at hnext
        obtain ⟨-, rfl⟩ := guard_eq_ok.mp hnext
        refine ⟨hloadable, fun _ ↦ ?_⟩
        rcases houtcome with hsame | ⟨hinside, -⟩
        · exact absurd hsame (sys.deliver_ne_self slot _)
        · exact hinside
      · rintro ⟨-, hinside⟩
        have hend := (hinside hcontrol).trans hlen
        exact ⟨_, hstep.trans (if_pos hend),
          .inr ⟨hinside hcontrol, (controlLength_le data).trans hend⟩⟩
    · exact iff_of_true ⟨sys, handleIncomingPacket_of_not_control hloadable hcontrol, .inl rfl⟩
        ⟨hloadable, fun h ↦ absurd h hcontrol⟩
  · refine iff_of_false ?_ fun h ↦ hloadable h.1
    rintro ⟨next, hnext, -⟩
    rw [handleIncomingPacket_of_not_loadable hloadable] at hnext
    cases hnext

theorem MessagesFit.deliver (h : MessagesFit sys) {slot : Slot} {change : Handler → Handler}
    (hchange : (change (sys.handler slot)).msg.bufLen.toNat ≤ packetBufSize) :
    MessagesFit (sys.deliver slot change) := by
  intro other hother
  have hused : other.val < sys.pkth.handlerCtr := by
    simpa [System.deliver] using hother
  rw [System.handler_deliver]
  split_ifs
  · exact hchange
  · exact h other hused

theorem messagesFit_step {activity : Activity} (h : MessagesFit sys)
    (hstep : deliveryStep crc16_ccitt sys activity = .ok next) : MessagesFit next := by
  cases activity with
  | work =>
    cases hstep
    intro slot hslot
    obtain ⟨queued, hhandler⟩ := sys.handler_runWork slot
    rw [hhandler]
    exact h slot (by simpa using hslot)
  | packet data =>
    obtain ⟨-, -, -, rfl⟩ | ⟨slot, -, -, -, -, hend, rfl⟩ | ⟨source, slot, -, -, -, hfits, rfl⟩ :=
      handlePacketData_cases crc16_ccitt hstep
    · exact h
    · exact h.deliver ((controlLength_le data).trans hend)
    · have hanswered : MessagesFit (sys.modify source Handler.answered) := by
        intro other hother
        rw [System.handler_modify]
        split_ifs with hsource
        · exact h source (hsource ▸ hother)
        · exact h other hother
      refine hanswered.deliver ?_
      rw [toNat_bufLen_acceptPacket hfits.2]
      exact hfits.2

theorem messagesFit_boot {pkth : PacketHandler} (h : pkth.Fresh) : MessagesFit (.boot pkth) := by
  intro slot hslot
  obtain ⟨instId, inst, cb, hnew⟩ := h.used slot hslot
  simp [System.handler, System.boot, hnew, PacketHandler.newHandler, PacketBuffer.zero]

end Lengths

/-- In every state that a run reaches, the messages of all handlers fit, so that the copies of the
UART and Bluetooth transports stay in bounds, and an incoming message for a registered handler is
handled within its bounds exactly if its lengths fit. -/
theorem incoming_length_safe_iff {pkth : PacketHandler} (hfresh : pkth.Fresh)
    {activities : List Activity} {last : System}
    (hrun : run (deliveryStep crc16_ccitt) (.boot pkth) activities = .ok last) :
    (∀ slot : Slot, slot.val < last.pkth.handlerCtr →
      (last.handler slot).msg.bufLen.toNat ≤ packetBufSize ∧
      (∀ uart : Uart, ∃ result, uart.sendUartMessage (last.handler slot) = .ok result) ∧
      ∀ (ble : BleCentral) (handle mtu : UInt16) (err : ℤ), ∃ result,
        ble.write handle (last.handler slot).msg.buf (last.handler slot).msg.bufLen mtu err =
          .ok result) ∧
    ∀ data : PacketData, data.type = .incoming → data.msg.bufLen.toNat ≤ packetBufSize →
      (IsControl data → ∃ slot, last.pkth.getHandler (incomingControl data).destId = some slot) →
      (LengthSafe crc16_ccitt last data ↔ LengthsFit data) := by
  have hfit := run_invariant MessagesFit messagesFit_step (messagesFit_boot hfresh) hrun
  refine ⟨fun slot hslot ↦ ⟨hfit slot hslot, fun uart ↦ ?_, fun ble handle mtu err ↦ ?_⟩,
    fun data _ hlen hdest ↦ lengthSafe_iff hlen hdest⟩
  · exact (uart.sendUartMessage_returns_iff _).mpr fun _ ↦ hfit slot hslot
  · exact (ble.write_returns_iff handle _ _ mtu err).mpr fun _ ↦ hfit slot hslot

/-- After one command has been dispatched, another one is still handled within its bounds. -/
theorem incoming_length_safe_of_second_command :
    ∃ last, run (deliveryStep zephyrCrc16Ccitt) (.boot (PacketHandler.routerRegistry []))
      [.packet (cloudControl 6 instanceIdUartRs485 0 [1]), .work] = .ok last ∧
      LengthSafe zephyrCrc16Ccitt last (cloudControl 6 instanceIdUartRs485 1 [2]) := by
  refine ⟨_, rfl, ?_⟩
  exact ((incoming_length_safe_iff zephyrCrc16Ccitt (PacketHandler.fresh_routerRegistry [])
    (show run (deliveryStep zephyrCrc16Ccitt) (.boot (PacketHandler.routerRegistry []))
      [.packet (cloudControl 6 instanceIdUartRs485 0 [1]), .work] = .ok _ from rfl)).2 _ rfl
    (by decide) (fun _ ↦ ⟨2, by decide +kernel⟩)).mpr (by decide +kernel)

def overlongControl : PacketData :=
  { cloudControl 6 instanceIdUartRs485 1 [] with
    msg := .ofBytes [1, 0, 7, 0, 6, 5, 2, 1, 0, 100, 0] }

/-- A hundred bytes that have never been received are dispatched. -/
theorem overlongControl_dispatched :
    ∃ next, handleIncomingPacket zephyrCrc16Ccitt (.boot (PacketHandler.routerRegistry []))
      overlongControl = .ok next ∧ next.workq = [2] ∧ overlongControl.msg.bufLen = 11 ∧
      (next.handler 2).msg.bufLen = 100 ∧
      ¬ LengthSafe zephyrCrc16Ccitt (.boot (PacketHandler.routerRegistry [])) overlongControl := by
  refine ⟨_, rfl, by decide +kernel, by decide, by decide +kernel, fun hsafe ↦ ?_⟩
  have hdest : ∃ slot, (System.boot (PacketHandler.routerRegistry [])).pkth.getHandler
      (incomingControl overlongControl).destId = some slot := ⟨2, by decide +kernel⟩
  have hfit := (lengthSafe_iff (by decide) fun _ ↦ hdest).mp hsafe
  exact absurd hfit (by decide +kernel)

/-! ## Frames -/

/-- The UART length covers protocol version, type and CRC, and stays inside the buffer. -/
def FrameLengthInside (buf : Buffer UInt8 packetBufSize) : Prop :=
  4 ≤ (le16At buf 1).toNat ∧ UartLengthInside buf

/-- A UART frame with start token, protocol version and CRC as documented, around a generic packet
of the protocol version of the firmware. -/
def ValidFrame (buf : Buffer UInt8 packetBufSize) : Prop :=
  (uartHeader buf).startToken = uartStartToken ∧
    (uartHeader buf).protocolVersion = uartProtocolVersion ∧ FrameLengthInside buf ∧
    calculatedCrc crc16_ccitt buf = receivedCrc buf ∧
    (genericHeader buf 5).protocolVersion = protocolVersion

instance (buf : Buffer UInt8 packetBufSize) : Decidable (ValidFrame crc16_ccitt buf) :=
  inferInstanceAs (Decidable (_ ∧ _ ∧ (_ ∧ (_ ∧ _)) ∧ _ ∧ _))

/-- Only a valid frame has any effect. -/
def OnlyValidFrames (sys : System) (data : PacketData) : Prop :=
  ValidFrame crc16_ccitt data.msg.buf ∨ handleIncomingPacket crc16_ccitt sys data = .ok sys

/-- Whatever the loaders log, a message is not dropped: a message that is handled with no effect is
no control packet. -/
theorem handleIncomingPacket_eq_self_iff (sys : System) (data : PacketData) :
    handleIncomingPacket crc16_ccitt sys data = .ok sys ↔ Loadable data ∧ ¬ IsControl data := by
  by_cases hloadable : Loadable data
  · by_cases hcontrol : IsControl data
    · refine iff_of_false (fun hsame ↦ ?_) fun h ↦ h.2 hcontrol
      cases hdest : sys.pkth.getHandler (incomingControl data).destId with
      | none =>
        rw [handleIncomingPacket_of_unknown hloadable hcontrol hdest] at hsame
        cases hsame
      | some slot =>
        rw [handleIncomingPacket_of_control hloadable hcontrol hdest] at hsame
        exact sys.deliver_ne_self slot _ (guard_eq_ok.mp hsame).2
    · exact iff_of_true (handleIncomingPacket_of_not_control hloadable hcontrol)
        ⟨hloadable, hcontrol⟩
  · refine iff_of_false (fun hsame ↦ ?_) fun h ↦ hloadable h.1
    rw [handleIncomingPacket_of_not_loadable hloadable] at hsame
    cases hsame

/-- A message from the CM4 has no effect unless it is a valid frame, exactly if it is a valid frame
or a message that is no control packet and whose length stays inside the buffer. -/
theorem only_valid_frames_iff (sys : System) {data : PacketData}
    (hsrc : data.srcId = instanceIdUartCm4) :
    OnlyValidFrames crc16_ccitt sys data ↔
      ValidFrame crc16_ccitt data.msg.buf ∨
        UartLengthInside data.msg.buf ∧ ¬ IsControl data := by
  have hloadable : Loadable data ↔ UartLengthInside data.msg.buf :=
    ⟨fun h ↦ h hsrc, fun h _ ↦ h⟩
  rw [OnlyValidFrames, handleIncomingPacket_eq_self_iff, hloadable]

/-- A well-formed frame with a control packet. -/
theorem only_valid_frames_of_valid :
    OnlyValidFrames zephyrCrc16Ccitt (.boot (PacketHandler.routerRegistry []))
      (cm4Message (controlUartFrame zephyrCrc16Ccitt 6 instanceIdUartCm4 instanceIdUartRs485 1
        [1])) :=
  (only_valid_frames_iff zephyrCrc16Ccitt _ rfl).mpr (.inl (by decide +kernel))

/-- A control packet in a frame with start token, versions and CRC all zero is dispatched. -/
theorem corrupt_frame_dispatched :
    ∃ next, handleIncomingPacket zephyrCrc16Ccitt (.boot (PacketHandler.routerRegistry []))
      (cm4Message [0, 14, 0, 0, 0, 0, 0, 8, 0, 6, 4, 2, 1, 0, 1, 0, 9, 0, 0]) = .ok next ∧
      next.workq = [2] ∧
      ¬ OnlyValidFrames zephyrCrc16Ccitt (.boot (PacketHandler.routerRegistry []))
        (cm4Message [0, 14, 0, 0, 0, 0, 0, 8, 0, 6, 4, 2, 1, 0, 1, 0, 9, 0, 0]) := by
  refine ⟨_, rfl, by decide +kernel, ?_⟩
  rintro (hvalid | hsame)
  · exact absurd hvalid (by decide +kernel)
  · exact absurd ((handleIncomingPacket_eq_self_iff _ _ _).mp hsame) (by decide +kernel)

end CrownstoneRouter
