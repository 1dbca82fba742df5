import CrownstoneRouter.Router.Offences
import CrownstoneRouter.Router.Bringup

/-!
# Memory safety of the router

Which runs of the router stay inside the memory of its objects: those without an offence. `main`
and the transports stay inside whatever they meet, and so does the interrupt handler of the RS485
port on hardware that raises enabled interrupts only.
-/

namespace CrownstoneRouter

open CheckedMemory CheckedRun

variable {hex2bin : Hex2Bin} {crc16_ccitt : UInt16 → List UInt8 → UInt16} {text : BtAddrText}

/-! ## Messages of handlers -/

/-- The room for a payload behind the headers of a control packet. -/
def controlRoom : ℕ := packetBufSize - 11

/-- The message of a handler fits its buffer, and that of a peripheral has an end. -/
structure Handler.Deliverable (handler : Handler) : Prop where
  fits : handler.msg.bufLen.toNat ≤ packetBufSize
  ended : handler.id ≠ instanceIdCloud → (0 : UInt8) ∈ handler.msg.buf.cells.drop controlRoom

theorem Handler.deliverable_new (instId : InstanceId) (inst cb : Address) :
    (PacketHandler.newHandler instId inst cb).Deliverable where
  fits := Nat.zero_le _
  ended _ := by
    change (0 : UInt8) ∈ (Buffer.fill packetBufSize (0 : UInt8)).cells.drop controlRoom
    decide +kernel

theorem Handler.Deliverable.of_same {handler next : Handler} (h : handler.Deliverable)
    (hid : next.id = handler.id) (hmsg : next.msg = handler.msg) : next.Deliverable where
  fits := hmsg ▸ h.fits
  ended hother := hmsg ▸ h.ended (hid ▸ hother)

theorem length_controlPayload_le (data : PacketData) :
    (controlPayload data).length ≤ controlRoom := by
  have hpayload : (incomingControl data).payload = genericStart data + 4 + 7 := rfl
  rw [controlPayload, Buffer.slice, List.length_take, List.length_drop, Buffer.length_cells,
    hpayload, controlRoom]
  omega

/-- A dispatched packet fits, and the end of what a peripheral gets stays where it was. -/
theorem Handler.Deliverable.of_dispatched {sys next : System} {data : PacketData} {slot : Slot}
    {pending : Slot → PacketResult} (h : (sys.handler slot).Deliverable)
    (hdispatched : Dispatched sys next slot (dispatchedPacket crc16_ccitt sys data) pending)
    (hcommand : (sys.handler slot).id ≠ instanceIdCloud → data.type = .incoming) :
    (next.handler slot).Deliverable where
  fits := by
    have hlength := congrArg List.length hdispatched.cells
    rw [List.length_append, List.length_drop, Buffer.length_cells, Buffer.length_cells] at hlength
    rw [hdispatched.bufLen]
    omega
  ended hother := by
    have hid : (next.handler slot).id = (sys.handler slot).id := by rw [hdispatched.target]
    rw [hid] at hother
    have hpacket : dispatchedPacket crc16_ccitt sys data = controlPayload data := by
      simp [dispatchedPacket, hcommand hother]
    have hlength := length_controlPayload_le data
    have hbehind : (controlPayload data).length + (controlRoom - (controlPayload data).length) =
        controlRoom := Nat.add_sub_cancel' hlength
    rw [hdispatched.cells, hpacket, List.drop_append, List.drop_eq_nil_of_le hlength,
      List.nil_append, List.drop_drop, hbehind]
    exact h.ended hother

/-! ## The invariant -/

/-- The memory of the router is as its actors need it. -/
structure Contained (run : RouterRun) : Prop where
  receiver : ∃ message, run.receiver.Holds message
  hasPktHandler : run.receiver.hasPktHandler = true
  rs485 : run.rs485.Bounded
  served : run.rs485.hasPktHandler = true
  queue : ∃ queued, QueueInvariant ⟨run.sys.pkth, run.accepted, run.handled⟩ queued
  mailboxes : ∀ slot : Slot, slot.val < run.sys.pkth.handlerCtr →
    (run.sys.handler slot).Deliverable

namespace Contained

variable {run : RouterRun}

theorem boot (memory : MainMemory) (waited : RetCode) : Contained (.boot memory waited) where
  receiver := ⟨[], rfl, rfl, Nat.zero_le _, rfl⟩
  hasPktHandler := rfl
  rs485 := Uart.bounded_created instanceIdUartRs485 instanceIdCloud memory.uartBuf memory.uartCells
  served := rfl
  queue := ⟨[], queueInvariant_start memory.handlers memory.cells⟩
  mailboxes _ hused := absurd hused (Nat.not_lt_zero _)

theorem accepted_le (h : Contained run) : run.accepted.length ≤ packetQueueSize := by
  obtain ⟨queued, hqueue⟩ := h.queue
  exact hqueue.bounded

/-! ### `main` -/

/-- A registration, as long as there is room for a handler. -/
theorem register (h : Contained run) (hinit : run.sys.pkth.initialized = true)
    (hroom : run.sys.pkth.handlerCtr < packetHandlers) (instId : InstanceId) (address : Address)
    (point : MainPoint) :
    ∃ next, run.register instId address point = .ok next ∧ Contained next ∧
      next.rs485 = run.rs485 := by
  obtain ⟨queued, hqueue⟩ := h.queue
  cases hfound : run.sys.pkth.findSlot instId with
  | some slot =>
    rw [RouterRun.register, PacketHandler.registerHandler_of_present hinit hfound]
    exact ⟨_, rfl, { h with queue := ⟨queued, hqueue.of_registry rfl rfl rfl⟩ }, rfl⟩
  | none =>
    rw [RouterRun.register, PacketHandler.registerHandler_of_absent hinit hfound hroom]
    refine ⟨_, rfl, { h with
      queue := ⟨queued, hqueue.of_registry rfl rfl rfl⟩
      mailboxes := fun slot hslot ↦ ?_ }, rfl⟩
    change ((run.sys.pkth.append hroom
      (PacketHandler.newHandler instId address address)).handlers slot).Deliverable
    rcases (PacketHandler.used_append hroom _).mp hslot with hslot | rfl
    · rw [PacketHandler.handlers_append_of_used hroom _ hslot]
      exact h.mailboxes slot hslot
    · rw [PacketHandler.handlers_append_self]
      exact Handler.deliverable_new instId address address

/-- A statement of `main`. -/
theorem mainStep (h : Contained run) (hinit : run.sys.pkth.initialized = true)
    (hprogressing : Progressing run) (answers : MainAnswers) :
    ∃ next, run.mainStep hex2bin answers = .ok next ∧ Contained next ∧
      (next.rs485 = run.rs485 ∨
        next.rs485 = (run.rs485.init none answers.uartReady answers.uartConfigured).2.1) := by
  have hroom : run.sys.pkth.handlerCtr < packetHandlers := by
    rw [hprogressing.handlerCtr]
    cases run.point <;> decide
  unfold RouterRun.mainStep
  cases run.point with
  | webSocketInit => exact ⟨_, rfl, { h with receiver := h.receiver }, .inl rfl⟩
  | registerCloud =>
    obtain ⟨next, hstep, hnext, hport⟩ := h.register hinit hroom instanceIdCloud 1 .webSocketConnect
    exact ⟨next, hstep, hnext, .inl hport⟩
  | webSocketConnect =>
    obtain ⟨message, hholds⟩ := h.receiver
    exact ⟨_, rfl, { h with
      receiver := ⟨message, hholds.readPos, hholds.totalRead, hholds.fits, hholds.slice⟩ },
      .inl rfl⟩
  | bleInit =>
    obtain ⟨⟨ret, ble⟩, hble⟩ :=
      ((run.ble.setSourceId instanceIdBlePeripheral).setDestinationId instanceIdCloud).init_returns
        hex2bin crownstoneUuid true answers.btEnable answers.uuid128Buf
    simp only [hble, bind, bind_ok]
    exact ⟨_, rfl, { h with receiver := h.receiver }, .inl rfl⟩
  | registerBle =>
    obtain ⟨next, hstep, hnext, hport⟩ :=
      h.register hinit hroom instanceIdBlePeripheral 2 .uartInit
    exact ⟨next, hstep, hnext, .inl hport⟩
  | uartInit =>
    have hport := h.rs485.init none answers.uartReady answers.uartConfigured
    have hsame := Uart.SameObject.of_init run.rs485 none answers.uartReady answers.uartConfigured
    exact ⟨_, rfl, { h with rs485 := hport, served := hsame.hasPktHandler.trans h.served }, .inr rfl⟩
  | registerUart =>
    obtain ⟨next, hstep, hnext, hport⟩ := h.register hinit hroom instanceIdUartRs485 3 .joining
    simp only [hstep, bind, bind_ok]
    exact ⟨_, rfl, { hnext with receiver := hnext.receiver }, .inl hport⟩
  | joining => exact ⟨run, rfl, h, .inl rfl⟩
  | returned => exact ⟨run, rfl, h, .inl rfl⟩

/-! ### The receive thread -/

/-- A message that has been received becomes a packet, if there is a slot for it. -/
theorem dispatch (h : Contained run) {ws : ReceiveThread} {message : List UInt8}
    (hholds : ws.Holds message) (hpkth : ws.hasPktHandler = true) (hroom : ¬ run.Spent) :
    ∃ receiver pkth, ws.dispatch run.sys.pkth = .ok (receiver, pkth, some (ws.packet message)) ∧
      Contained { run.handedOver pkth [ws.packet message] with receiver } := by
  obtain ⟨queued, hqueue⟩ := h.queue
  obtain ⟨pkthMsgq, hhandle, hnext⟩ := hqueue.accepts (not_le.mp hroom) (ws.packet message)
  have hgoes : RetCode.ok ≠ RetCode.aborted := by decide
  refine ⟨{ ws with readPos := 0, totalRead := 0, remainingBytes := ullongMax },
    { run.sys.pkth with pkthMsgq }, ?_, ?_⟩
  · rw [hholds.dispatch_eq, if_pos hpkth, hhandle, bind_ok]
    simp only [if_neg hgoes]
  · rw [RouterRun.handedOver_of_accepted hhandle]
    exact { h with
      receiver := ⟨[], rfl, rfl, Nat.zero_le _, rfl⟩
      hasPktHandler := hpkth
      queue := ⟨_, hnext⟩ }

theorem dispatch_overruns (h : Contained run) {ws : ReceiveThread} {message : List UInt8}
    (hholds : ws.Holds message) (hpkth : ws.hasPktHandler = true) (hspent : run.Spent) :
    ws.dispatch run.sys.pkth = .error .outOfBounds := by
  obtain ⟨queued, hqueue⟩ := h.queue
  rw [hholds.dispatch_eq, if_pos hpkth, hqueue.overruns (not_lt.mpr hspent)]
  rfl

/-- An answer that the receive buffer has room for is taken. -/
theorem receiveChunk (h : Contained run) {answer : RecvMsg}
    (hfits : ¬ run.receiver.Overflows answer) :
    ∃ ws message ended, run.receiver.receiveChunk answer = .ok (ws, ended) ∧ ws.Holds message ∧
      ws.hasPktHandler = true ∧ (ended = true ↔ answer.Ends) := by
  obtain ⟨message, hholds⟩ := h.receiver
  cases answer with
  | stored bytes remaining =>
    have hroom : (message ++ bytes).length ≤ packetBufSize := by
      rw [List.length_append, ← hholds.readPos]
      exact not_lt.mp hfits
    obtain ⟨ws, hchunk, hws, -, hpkth, -, -⟩ := hholds.stored hroom remaining
    refine ⟨ws, _, _, hchunk, hws, hpkth.trans h.hasPktHandler, ?_⟩
    simp [RecvMsg.Ends]
  | again => exact ⟨_, message, false, rfl, hholds, h.hasPktHandler, by simp [RecvMsg.Ends]⟩
  | failed => exact ⟨_, message, true, rfl, hholds, h.hasPktHandler, by simp [RecvMsg.Ends]⟩

/-- What the receive thread does with an answer while it runs. -/
theorem receive_eq (hrunning : run.receiver.running = true) {answer : RecvMsg}
    {ws : ReceiveThread} {ended : Bool}
    (hchunk : run.receiver.receiveChunk answer = .ok (ws, ended)) :
    run.receive answer =
      if ended then (ws.dispatch run.sys.pkth).bind fun (receiver, pkth, handed) ↦
        .ok { run.handedOver pkth handed.toList with receiver }
      else .ok { run with receiver := ws } := by
  have hgoes : ¬ (!run.receiver.running) = true := by simp [hrunning]
  rw [RouterRun.receive, ReceiveThread.handleMessageReceived, if_neg hgoes, hchunk]
  cases ended with
  | true => rfl
  | false =>
    simp only [bind, bind_ok, pure, Except.pure, Bool.false_eq_true, if_false, Option.toList_none,
      RouterRun.handedOver_nil]

theorem receive (h : Contained run) {answer : RecvMsg}
    (hstays : ¬ run.Offends (.receive answer)) :
    ∃ next, run.receive answer = .ok next ∧ Contained next ∧ next.rs485 = run.rs485 := by
  by_cases hrunning : run.receiver.running = true
  · have hcalm : ¬ (run.receiver.Overflows answer ∨ answer.Ends ∧ run.Spent) :=
      fun hoffends ↦ hstays ⟨hrunning, hoffends⟩
    obtain ⟨hfits, hslot⟩ := not_or.mp hcalm
    obtain ⟨ws, message, ended, hchunk, hholds, hpkth, hends⟩ := h.receiveChunk hfits
    rw [receive_eq hrunning hchunk]
    cases ended with
    | false =>
      exact ⟨_, rfl, { h with receiver := ⟨message, hholds⟩, hasPktHandler := hpkth }, rfl⟩
    | true =>
      obtain ⟨receiver, pkth, hdispatch, hnext⟩ := h.dispatch hholds hpkth
        fun hspent ↦ hslot ⟨hends.mp rfl, hspent⟩
      rw [if_pos rfl, hdispatch]
      exact ⟨_, rfl, hnext, rfl⟩
  · refine ⟨run, ?_, h, rfl⟩
    rw [RouterRun.receive, ReceiveThread.handleMessageReceived, if_pos (by simpa using hrunning)]
    exact congrArg Except.ok run.handedOver_nil

theorem receive_faults (h : Contained run) {answer : RecvMsg}
    (hoffends : run.Offends (.receive answer)) (next : RouterRun) :
    run.receive answer ≠ .ok next := by
  obtain ⟨hrunning, hoffends⟩ := hoffends
  by_cases hfits : run.receiver.Overflows answer
  · cases answer with
    | stored bytes remaining =>
      have hstore : run.receiver.wsRecvBuf.store run.receiver.readPos bytes =
          .error .outOfBounds := if_neg (not_le.mpr hfits)
      have hgoes : ¬ (!run.receiver.running) = true := by simp [hrunning]
      rw [RouterRun.receive, ReceiveThread.handleMessageReceived, if_neg hgoes,
        ReceiveThread.receiveChunk, hstore]
      intro hstep
      cases hstep
    | again => exact hfits.elim
    | failed => exact hfits.elim
  · obtain ⟨hends, hspent⟩ := hoffends.resolve_left hfits
    obtain ⟨ws, message, ended, hchunk, hholds, hpkth, hended⟩ := h.receiveChunk hfits
    rw [receive_eq hrunning hchunk, if_pos (hended.mpr hends),
      h.dispatch_overruns hholds hpkth hspent]
    intro hstep
    cases hstep

/-! ### The drivers -/

theorem callback (h : Contained run) {event : BleEvent}
    (hcallback : event.action.isCallback = true)
    (hstays : ¬ run.Offends (.callback event hcallback)) :
    ∃ next, run.callback text event = .ok next ∧ Contained next ∧ next.rs485 = run.rs485 := by
  unfold RouterRun.callback
  by_cases hinit : run.ble.initialized = true
  · have hcalm : ¬ (run.ble.Strays event.action ∨ run.ble.Reports event.action ∧ run.Spent) :=
      fun hoffends ↦ hstays ⟨hinit, hoffends⟩
    obtain ⟨hinside, hslot⟩ := not_or.mp hcalm
    obtain ⟨⟨ble, calls⟩, hperform⟩ :=
      (run.ble.perform_returns_iff text hcallback).mpr hinside
    have hpackets := BleDriver.packets_of_perform hcallback hperform
    obtain ⟨queued, hqueue⟩ := h.queue
    have hroom : run.accepted.length + (calls.filterMap BleCall.packet).length ≤
        packetQueueSize := by
      have hbounded := h.accepted_le
      rw [hpackets]
      split_ifs with hreports
      · have hfree : ¬ run.Spent := fun hspent ↦ hslot ⟨hreports, hspent⟩
        exact not_le.mp hfree
      · exact hbounded
    obtain ⟨pkthMsgq, asked, hfollow, hnext⟩ :=
      @QueueInvariant.follow queued { run with ble } calls hqueue hroom
    rw [if_neg (by simp [hinit]), hperform]
    exact ⟨_, hfollow, { h with queue := ⟨_, hnext⟩ }, rfl⟩
  · rw [if_pos (by simpa using hinit)]
    exact ⟨run, rfl, h, rfl⟩

theorem callback_faults (h : Contained run) {event : BleEvent}
    (hcallback : event.action.isCallback = true)
    (hoffends : run.Offends (.callback event hcallback)) (next : RouterRun) :
    run.callback text event ≠ .ok next := by
  obtain ⟨hinit, hoffends⟩ := hoffends
  intro hstep
  rw [RouterRun.callback, if_neg (by simp [hinit])] at hstep
  obtain ⟨⟨ble, calls⟩, hperform, hfollow⟩ := bind_eq_ok.mp hstep
  have hinside := (run.ble.perform_returns_iff text hcallback).mp ⟨_, hperform⟩
  obtain ⟨hreports, hspent⟩ := hoffends.resolve_left hinside
  have hpackets := BleDriver.packets_of_perform hcallback hperform
  rw [if_pos hreports] at hpackets
  obtain ⟨queued, hqueue⟩ := h.queue
  have hfull : packetQueueSize < run.accepted.length + (calls.filterMap BleCall.packet).length := by
    rw [hpackets]
    exact Nat.lt_succ_of_le hspent
  have hover := @QueueInvariant.follow_overruns queued { run with ble } calls hqueue hfull
  cases hover.symm.trans hfollow

theorem interrupt (h : Contained run) {irq : UartIrq} (hstays : ¬ run.Offends (.interrupt irq)) :
    ∃ next, run.interrupt irq = .ok next ∧ Contained next := by
  unfold RouterRun.interrupt
  by_cases hinit : run.rs485.initialized = true
  · have hinside : ¬ run.rs485.InterruptOverreads irq := fun hover ↦ hstays ⟨hinit, hover⟩
    obtain ⟨⟨rs485, bytes⟩, hirq⟩ := (h.rs485.interrupt_returns_iff hinit irq).mpr hinside
    rw [if_neg (by simp [hinit]), hirq]
    exact ⟨_, rfl, { h with
      rs485 := h.rs485.of_interrupt hinit hirq
      served := (Uart.SamePort.of_interrupt hirq).hasPktHandler.trans h.served }⟩
  · rw [if_pos (by simpa using hinit)]
    exact ⟨run, rfl, h⟩

theorem interrupt_faults (h : Contained run) {irq : UartIrq}
    (hoffends : run.Offends (.interrupt irq)) (next : RouterRun) : run.interrupt irq ≠ .ok next := by
  obtain ⟨hinit, hover⟩ := hoffends
  intro hstep
  rw [RouterRun.interrupt, if_neg (by simp [hinit])] at hstep
  obtain ⟨result, hirq, -⟩ := bind_eq_ok.mp hstep
  exact (h.rs485.interrupt_returns_iff hinit irq).mp ⟨result, hirq⟩ hover

theorem uartThread (h : Contained run) (hstays : ¬ run.Offends .uartThread) :
    ∃ next, run.uartThread = .ok next ∧ Contained next := by
  obtain ⟨uartMsgq, data, hbounded, -, hround⟩ := h.rs485.handleUartMessages_eq run.sys.pkth
  rw [if_pos h.served] at hround
  unfold RouterRun.uartThread
  rw [hround]
  by_cases hline : run.rs485.HasLine
  · have hfree : ¬ run.Spent := fun hspent ↦ hstays ⟨hline, hspent⟩
    obtain ⟨queued, hqueue⟩ := h.queue
    obtain ⟨pkthMsgq, hhandle, hnext⟩ := hqueue.accepts (not_le.mp hfree) data
    rw [if_pos hline, hhandle]
    have hhanded := RouterRun.handedOver_of_accepted hhandle
    refine ⟨_, rfl, ?_⟩
    simp only [Option.toList_some, hhanded]
    exact { h with
      rs485 := ⟨hbounded.counter, hbounded.maxMsgs, hbounded.lines, fun _ ↦ h.rs485.thread hline.1⟩
      queue := ⟨_, hnext⟩ }
  · rw [if_neg hline]
    exact ⟨run, congrArg Except.ok run.handedOver_nil, h⟩

theorem uartThread_faults (h : Contained run) (hoffends : run.Offends .uartThread)
    (next : RouterRun) : run.uartThread ≠ .ok next := by
  obtain ⟨hline, hspent⟩ := hoffends
  obtain ⟨uartMsgq, data, -, -, hround⟩ := h.rs485.handleUartMessages_eq run.sys.pkth
  obtain ⟨queued, hqueue⟩ := h.queue
  rw [RouterRun.uartThread, hround, if_pos hline, if_pos h.served,
    hqueue.overruns (not_lt.mpr hspent)]
  exact nofun

/-! ### The packet thread -/

/-- The packet thread handles the oldest packet that has been accepted. -/
theorem packetThread_eq (h : Contained run) (crc16_ccitt : UInt16 → List UInt8 → UInt16) :
    match run.accepted[run.handled.length]? with
    | none => run.packetThread crc16_ccitt = .ok run
    | some data => ∃ pkthMsgq queued,
        QueueInvariant ⟨{ run.sys.pkth with pkthMsgq }, run.accepted, run.handled ++ [data]⟩ queued ∧
        run.packetThread crc16_ccitt = (handlePacketData crc16_ccitt
          { run.sys with pkth := { run.sys.pkth with pkthMsgq } } data).bind fun sys ↦
            .ok { run with sys, handled := run.handled ++ [data] } := by
  obtain ⟨queued, hqueue⟩ := h.queue
  have haccepted : run.accepted = run.handled ++ queued := hqueue.accepted_eq
  have hnext : run.accepted[run.handled.length]? = queued.head? := by
    rw [haccepted, List.getElem?_append_right le_rfl, Nat.sub_self,
      List.head?_eq_getElem?]
  rw [hnext]
  cases queued with
  | nil =>
    have hget : run.sys.pkth.pkthMsgq.get = _ := hqueue.represents.get_nil
    simp [RouterRun.packetThread, PacketHandler.getPacket, hget, bind, pure, Except.pure]
  | cons data rest =>
    obtain ⟨pkthMsgq, hget, hrest⟩ := hqueue.takes
    exact ⟨pkthMsgq, rest, hrest, RouterRun.packetThread_of_get hget⟩

/-- Only the cloud gets data of peripherals. -/
theorem incoming_of_target {sys : System} {data : PacketData} {slot : Slot}
    (hreport : ReportsToCloud data) (htarget : dispatchTarget sys data = some slot)
    (hother : (sys.handler slot).id ≠ instanceIdCloud) : data.type = .incoming := by
  cases htype : data.type with
  | incoming => rfl
  | outgoing =>
    simp only [dispatchTarget, htype] at htarget
    have hid : (sys.handler slot).id = data.destId := (PacketHandler.getHandler_spec htarget).2
    exact absurd (hid.trans (hreport htype).1) hother

theorem packetThread (h : Contained run) (hreports : ∀ data ∈ run.accepted, ReportsToCloud data)
    (hstays : ¬ run.Offends .packetThread) :
    ∃ next, run.packetThread crc16_ccitt = .ok next ∧ Contained next ∧ next.rs485 = run.rs485 := by
  have hround := h.packetThread_eq crc16_ccitt
  cases hnext : run.accepted[run.handled.length]? with
  | none =>
    rw [hnext] at hround
    exact ⟨run, hround, h, rfl⟩
  | some data =>
    rw [hnext] at hround
    obtain ⟨pkthMsgq, queued, hqueue, hround⟩ := hround
    have hhandleable : Handleable { run.sys with pkth := { run.sys.pkth with pkthMsgq } } data := by
      by_contra hnot
      exact hstays ⟨data, hnext, hnot⟩
    obtain ⟨sys, hdispatch⟩ :=
      (handlePacketData_returns_iff crc16_ccitt _ data).mpr hhandleable
    rw [hround, hdispatch, bind_ok]
    refine ⟨_, rfl, ?_, rfl⟩
    have hreport := hreports data (List.mem_of_getElem? hnext)
    obtain ⟨-, rfl⟩ | ⟨slot, pending, htarget, hdispatched⟩ :=
      handlePacketData_dispatched crc16_ccitt hdispatch
    · exact { h with queue := ⟨queued, hqueue⟩ }
    · refine { h with
        queue := ⟨queued, hqueue.of_dispatched hdispatched⟩
        mailboxes := fun other hother ↦ ?_ }
      have hused : other.val < run.sys.pkth.handlerCtr := by
        rwa [hdispatched.registry] at hother
      by_cases hslot : other = slot
      · subst hslot
        have hbefore : (System.handler { run.sys with pkth := { run.sys.pkth with pkthMsgq } }
            other).Deliverable := h.mailboxes other hused
        exact hbefore.of_dispatched hdispatched (incoming_of_target hreport htarget)
      · exact (h.mailboxes other hused).of_same (by rw [hdispatched.others other hslot]; rfl)
          (by rw [hdispatched.others other hslot]; rfl)

theorem packetThread_faults (h : Contained run) (hoffends : run.Offends .packetThread)
    (next : RouterRun) : run.packetThread crc16_ccitt ≠ .ok next := by
  obtain ⟨data, hnext, hnot⟩ := hoffends
  have hround := h.packetThread_eq crc16_ccitt
  rw [Option.mem_def] at hnext
  rw [hnext] at hround
  obtain ⟨pkthMsgq, queued, -, hround⟩ := hround
  intro hstep
  rw [hround] at hstep
  obtain ⟨sys, hdispatch, -⟩ := bind_eq_ok.mp hstep
  have hhandleable : Handleable { run.sys with pkth := { run.sys.pkth with pkthMsgq } } data :=
    (handlePacketData_returns_iff crc16_ccitt _ data).mp ⟨sys, hdispatch⟩
  exact hnot hhandleable

/-! ### The work queue -/

/-- A work item has run, and its transport has changed the lock. -/
theorem behindWork (h : Contained run) (slot : Slot) (lock : ℕ) {rs485 : Uart}
    (hrs485 : rs485.Bounded) (hserved : rs485.hasPktHandler = true) :
    Contained { run with sys := run.sys.behindWork slot lock, rs485 } := by
  obtain ⟨queued, hqueue⟩ := h.queue
  refine { h with
    rs485 := hrs485
    served := hserved
    queue := ⟨queued, hqueue.behindWork lock slot⟩
    mailboxes := fun other hother ↦ ?_ }
  have hsame := System.SameHandlers.of_work run.sys slot lock
  have hused : other.val < run.sys.pkth.handlerCtr := by
    rwa [← hsame.handlerCtr]
  exact (h.mailboxes other hused).of_same (hsame.id other) (System.msg_behindWork run.sys slot lock other)

/-- The transport of a work item gets a message that fits and has an end. -/
theorem work (h : Contained run) (hexplained : Explained crc16_ccitt run) (bt : BtAnswers) :
    ∃ next, run.work text bt = .ok next ∧ Contained next ∧
      (next.rs485 = run.rs485 ∨ ∃ hdlr after, hdlr.msg.bufLen.toNat ≤ packetBufSize ∧
        run.rs485.sendUartMessage hdlr = .ok (next.rs485, after)) := by
  unfold RouterRun.work
  cases hworkq : run.sys.workq with
  | nil => exact ⟨run, rfl, h, .inl rfl⟩
  | cons slot rest =>
    have hused := hexplained.consistent.used slot (by simp [hworkq])
    obtain ⟨transport, hcallback, hid⟩ := hexplained.transport slot hused
    obtain ⟨queued, hhandler⟩ := run.sys.handler_runWork slot
    have hcall : Transport.ofAddress (run.sys.runWork.handler slot).workItem.handler =
        some transport := by rw [hhandler, hcallback]
    obtain ⟨hfits, hended⟩ : (run.sys.runWork.handler slot).Deliverable :=
      (h.mailboxes slot hused).of_same (by rw [hhandler]) (by rw [hhandler])
    simp only [RouterRun.transport, hcall]
    cases transport with
    | sendMessage =>
      dsimp only
      split
      · next after calls hsend =>
        have hnext := h.behindWork slot after.workLock h.rs485 h.served
        exact ⟨_, rfl, { hnext with receiver := hnext.receiver }, .inl rfl⟩
      · exact ⟨run, rfl, h, .inl rfl⟩
    | sendBleMessage =>
      have hother : (run.sys.runWork.handler slot).id ≠ instanceIdCloud := by
        rw [hhandler, hid]
        decide
      obtain ⟨⟨ble, after, calls⟩, hsend⟩ : ∃ result,
          run.ble.sendBleMessage text (run.sys.runWork.handler slot) bt = .ok result :=
        (run.ble.sendBleMessage_returns_iff _ bt).mpr
          (run.ble.sendsInside_of_fits bt.mtu hfits (List.mem_of_mem_drop (hended hother)))
      simp only [hsend, bind, bind_ok]
      have hnext := h.behindWork slot after.workLock h.rs485 h.served
      exact ⟨_, rfl, { hnext with receiver := hnext.receiver }, .inl rfl⟩
    | sendUartMessage =>
      obtain ⟨⟨rs485, after⟩, hsend⟩ := (run.rs485.sendUartMessage_returns_iff _).mpr fun _ ↦ hfits
      simp only [hsend, bind, bind_ok]
      have hsame := Uart.SamePort.of_sendUartMessage hsend
      exact ⟨_, rfl, h.behindWork slot after.workLock (h.rs485.of_sendUartMessage hfits hsend)
        (hsame.hasPktHandler.trans h.served), .inr ⟨_, after, hfits, hsend⟩⟩

/-! ### Steps -/

/-- A step that stays inside, of whichever actor. -/
theorem step_of_stays (h : Contained run) (hexplained : Explained crc16_ccitt run)
    (hprogressing : Progressing run) {action : RouterAction} (hstays : run.Stays action) :
    ∃ next, run.step hex2bin crc16_ccitt text action = .ok next ∧ Contained next := by
  unfold RouterRun.step
  split_ifs with hreturned
  · exact ⟨run, rfl, h⟩
  · have hcalm := hstays.resolve_left hreturned
    cases action with
    | main answers =>
      obtain ⟨next, hstep, hnext, -⟩ := h.mainStep hexplained.initialized hprogressing answers
      exact ⟨next, hstep, hnext⟩
    | receive answer =>
      obtain ⟨next, hstep, hnext, -⟩ := h.receive hcalm
      exact ⟨next, hstep, hnext⟩
    | callback event hcallback =>
      obtain ⟨next, hstep, hnext, -⟩ := h.callback hcallback hcalm
      exact ⟨next, hstep, hnext⟩
    | interrupt irq => exact h.interrupt hcalm
    | uartThread => exact h.uartThread hcalm
    | packetThread =>
      obtain ⟨next, hstep, hnext, -⟩ := h.packetThread hexplained.accepted hcalm
      exact ⟨next, hstep, hnext⟩
    | work bt =>
      obtain ⟨next, hstep, hnext, -⟩ := h.work hexplained bt
      exact ⟨next, hstep, hnext⟩

/-- An offence. -/
theorem step_faults (h : Contained run) {action : RouterAction} (hoffends : ¬ run.Stays action)
    (next : RouterRun) : run.step hex2bin crc16_ccitt text action ≠ .ok next := by
  obtain ⟨hpoint, hoffends⟩ := not_or.mp hoffends
  rw [not_not] at hoffends
  unfold RouterRun.step
  rw [if_neg hpoint]
  cases action with
  | main answers => exact hoffends.elim
  | receive answer => exact h.receive_faults hoffends next
  | callback event hcallback => exact h.callback_faults hcallback hoffends next
  | interrupt irq => exact h.interrupt_faults hoffends next
  | uartThread => exact h.uartThread_faults hoffends next
  | packetThread => exact h.packetThread_faults hoffends next
  | work bt => exact hoffends.elim

end Contained

/-! ## Runs -/

/-- The memory of a router, with all that is known of its messages and of its `main`. -/
structure Sound (crc16_ccitt : UInt16 → List UInt8 → UInt16) (run : RouterRun) : Prop where
  contained : Contained run
  tracked : ∃ progress, Tracked crc16_ccitt run progress

namespace Sound

variable {run next : RouterRun}

theorem boot (memory : MainMemory) (waited : RetCode) : Sound crc16_ccitt (.boot memory waited) :=
  ⟨.boot memory waited, _, tracked_boot memory waited⟩

theorem step_returns_iff (h : Sound crc16_ccitt run) (action : RouterAction) :
    (∃ next, run.step hex2bin crc16_ccitt text action = .ok next) ↔ run.Stays action := by
  obtain ⟨progress, htracked⟩ := h.tracked
  constructor
  · rintro ⟨next, hstep⟩
    by_contra hoffends
    exact h.contained.step_faults hoffends next hstep
  · intro hstays
    obtain ⟨next, hstep, -⟩ :=
      h.contained.step_of_stays htracked.explained htracked.progressing hstays
    exact ⟨next, hstep⟩

theorem step (h : Sound crc16_ccitt run) {action : RouterAction}
    (hstep : run.step hex2bin crc16_ccitt text action = .ok next) : Sound crc16_ccitt next := by
  obtain ⟨progress, htracked⟩ := h.tracked
  have hstays := (h.step_returns_iff action).mp ⟨next, hstep⟩
  obtain ⟨other, hother, hcontained⟩ :=
    h.contained.step_of_stays htracked.explained htracked.progressing hstays
  obtain rfl := Except.ok.inj (hother.symm.trans hstep)
  exact ⟨hcontained, _, htracked.step hstep⟩

end Sound

-- The message buffer has fourteen slots for the packets that go through the ring, even if each of
-- them is handled before the next one comes.
example : ¬ Along (RouterRun.step zephyrHex2bin zephyrCrc16Ccitt zephyrText) RouterRun.Stays
    (.boot zeroedMemory .ok) (bringUp ++ (List.replicate 15 [.receive (.stored
      (genericFrame genericTypeData (dataFrame instanceIdCloud [7])) 0), .packetThread]).flatten) := by
  decide +kernel

/-! ## Interrupts -/

/-- An interrupt is one that the hardware raises. -/
def RouterRun.Raised (run : RouterRun) : RouterAction → Prop
  | .interrupt irq => run.rs485.RaisesEnabled irq
  | _ => True

instance (run : RouterRun) : ∀ action, Decidable (run.Raised action)
  | .interrupt _ => inferInstanceAs (Decidable (_ ∧ _))
  | .main _ | .receive _ | .callback _ _ | .uartThread | .packetThread | .work _ =>
      inferInstanceAs (Decidable True)

/-- An actor other than `main`, the interrupt handler, the UART thread and the work queue leaves the
port alone; the others keep its directions apart. -/
theorem Sound.directed {run next : RouterRun} (h : Sound crc16_ccitt run)
    (hdirected : run.rs485.Directed) {action : RouterAction} (hraised : run.Raised action)
    (hstep : run.step hex2bin crc16_ccitt text action = .ok next) : next.rs485.Directed := by
  obtain ⟨progress, htracked⟩ := h.tracked
  have hstays := (h.step_returns_iff action).mp ⟨next, hstep⟩
  unfold RouterRun.step at hstep
  split_ifs at hstep with hreturned
  · cases hstep
    exact hdirected
  · have hcalm := hstays.resolve_left hreturned
    have hsame {start : Checked RouterRun} (hstart : start = .ok next)
        (hother : ∃ other, start = .ok other ∧ Contained other ∧ other.rs485 = run.rs485) :
        next.rs485.Directed := by
      obtain ⟨other, hresult, -, hport⟩ := hother
      obtain rfl := Except.ok.inj (hresult.symm.trans hstart)
      rwa [hport]
    cases action with
    | main answers =>
      obtain ⟨other, hother, -, hport⟩ :=
        h.contained.mainStep htracked.explained.initialized htracked.progressing answers
      obtain rfl := Except.ok.inj (hother.symm.trans hstep)
      obtain hport | hport := hport
      · rwa [hport]
      · rw [hport]
        exact hdirected.init none answers.uartReady answers.uartConfigured
    | receive answer => exact hsame hstep (h.contained.receive hcalm)
    | callback event hcallback => exact hsame hstep (h.contained.callback hcallback hcalm)
    | interrupt irq =>
      unfold RouterRun.interrupt at hstep
      split_ifs at hstep
      · cases hstep
        exact hdirected
      · obtain ⟨⟨rs485, bytes⟩, hirq, hnext⟩ := bind_eq_ok.mp hstep
        cases hnext
        exact hdirected.of_interrupt hraised hirq
    | uartThread =>
      obtain ⟨⟨rs485, pkth, handed⟩, hround, hnext⟩ := bind_eq_ok.mp hstep
      cases hnext
      exact hdirected.of_handleUartMessages hround
    | packetThread =>
      exact hsame hstep (h.contained.packetThread htracked.explained.accepted hcalm)
    | work bt =>
      obtain ⟨other, hother, -, hport⟩ := h.contained.work htracked.explained bt
      obtain rfl := Except.ok.inj (hother.symm.trans hstep)
      obtain hport | ⟨hdlr, after, hfits, hsend⟩ := hport
      · rwa [hport]
      · exact hdirected.of_sendUartMessage hfits hsend

end CrownstoneRouter
