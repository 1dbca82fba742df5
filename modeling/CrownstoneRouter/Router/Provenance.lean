import CrownstoneRouter.Foundation.Origins
import CrownstoneRouter.PacketHandling.Encoding
import CrownstoneRouter.Router.Senders

/-!
# Where messages come from

Whatever the actors of the router meet and in whichever order they run, a transport gets only
messages that are made of packets that the packet handler has accepted: one message of each packet
at most, in the order of the packets. Only the cloud is sent data of peripherals. The Bluetooth
peripheral and the RS485 port get nothing but the payloads of control packets addressed to them.
-/

namespace CrownstoneRouter

open CheckedMemory CheckedRun
open scoped List

variable {crc16_ccitt : UInt16 → List UInt8 → UInt16} {text : BtAddrText}

/-! ## What a message is made of -/

/-- The handler that a transport belongs to. -/
def Transport.owner : Transport → InstanceId
  | .sendMessage => instanceIdCloud
  | .sendBleMessage => instanceIdBlePeripheral
  | .sendUartMessage => instanceIdUartRs485

/-- The message is the payload of a control packet for the destination. -/
structure CommandFor (destId : InstanceId) (message : List UInt8) (data : PacketData) : Prop where
  type : data.type = .incoming
  control : IsControl data
  destId : (incomingControl data).destId = destId
  message : message = controlPayload data

/-- The message is a packet built of data of one of the peripherals. -/
structure ReportOf (crc16_ccitt : UInt16 → List UInt8 → UInt16) (message : List UInt8)
    (data : PacketData) : Prop where
  type : data.type = .outgoing
  source : data.srcId = instanceIdUartRs485 ∨ data.srcId = instanceIdBlePeripheral
  message : ∃ result, message = outgoingPacket crc16_ccitt result data

/-- What a message for some destination is made of: a command for the destination, or, for the
cloud, data of a peripheral. -/
def MadeOf (crc16_ccitt : UInt16 → List UInt8 → UInt16) (destId : InstanceId)
    (message : List UInt8) (data : PacketData) : Prop :=
  CommandFor destId message data ∨ destId = instanceIdCloud ∧ ReportOf crc16_ccitt message data

/-- The handlers are those that `main` registers, one for each id. -/
structure System.Registered (sys : System) : Prop where
  initialized : sys.pkth.initialized = true
  distinct : sys.pkth.IdsDistinct
  transport : ∀ slot : Slot, slot.val < sys.pkth.handlerCtr →
    ∃ transport, Transport.ofAddress (sys.handler slot).workItem.handler = some transport ∧
      (sys.handler slot).id = transport.owner

namespace RouterRun

/-- The messages that the transport of a handler has read. -/
def transported (run : RouterRun) (destId : InstanceId) : List (List UInt8) :=
  match run.sys.pkth.getHandler destId with
  | some slot => Mailbox.delivered run.sys.trace slot
  | none => []

def sentMessages (run : RouterRun) : List (List UInt8) :=
  run.sent.filterMap NetCall.message

end RouterRun

/-! ## Steps -/

/-- Every handler is where it was, with its callback. -/
structure System.SameHandlers (sys next : System) : Prop where
  initialized : next.pkth.initialized = sys.pkth.initialized
  handlerCtr : next.pkth.handlerCtr = sys.pkth.handlerCtr
  id : ∀ slot, (next.handler slot).id = (sys.handler slot).id
  callback : ∀ slot,
    (next.handler slot).workItem.handler = (sys.handler slot).workItem.handler

namespace System.SameHandlers

variable {sys next : System}

theorem getHandler (h : SameHandlers sys next) (instId : InstanceId) :
    next.pkth.getHandler instId = sys.pkth.getHandler instId := by
  have hid (slot : Slot) : (next.pkth.handlers slot).id = (sys.pkth.handlers slot).id := h.id slot
  simp only [PacketHandler.getHandler, PacketHandler.findSlot, h.initialized, h.handlerCtr, hid]

theorem registered (h : SameHandlers sys next) (hsys : sys.Registered) : next.Registered where
  initialized := h.initialized.trans hsys.initialized
  distinct left right hleft hright hid := by
    rw [h.handlerCtr] at hleft hright
    exact hsys.distinct hleft hright ((h.id left).symm.trans (hid.trans (h.id right)))
  transport slot hused := by
    rw [h.handlerCtr] at hused
    rw [h.callback, h.id]
    exact hsys.transport slot hused

/-- The work queue runs an item, and its transport changes the lock of the handler. -/
theorem of_work (sys : System) (slot : Slot) (lock : ℕ) :
    SameHandlers sys (sys.runWork.modify slot fun handler ↦ { handler with workLock := lock }) where
  initialized := by
    unfold System.runWork
    split <;> rfl
  handlerCtr := by rw [System.handlerCtr_modify, System.handlerCtr_runWork]
  id other := by
    obtain ⟨queued, hrun⟩ := sys.handler_runWork other
    rw [System.handler_modify]
    split_ifs with hother
    · rw [← hother, hrun]
    · rw [hrun]
  callback other := by
    obtain ⟨queued, hrun⟩ := sys.handler_runWork other
    rw [System.handler_modify]
    split_ifs with hother
    · rw [← hother, hrun]
    · rw [hrun]

theorem of_handlePacketData {data : PacketData}
    (h : handlePacketData crc16_ccitt sys data = .ok next) : SameHandlers sys next := by
  obtain ⟨-, rfl⟩ | ⟨slot, pending, -, hdispatched⟩ := handlePacketData_dispatched crc16_ccitt h
  · exact ⟨rfl, rfl, fun _ ↦ rfl, fun _ ↦ rfl⟩
  · exact ⟨by rw [hdispatched.registry], by rw [hdispatched.registry],
      fun other ↦ (hdispatched.keeps other).1, fun other ↦ (hdispatched.keeps other).2.2⟩

end System.SameHandlers

/-- The invariant of a router: what has been dispatched to a handler is made of handled packets, what
has been accepted and not handled is queued, and the websocket and the Bluetooth driver have passed
on some of what their transports have read. -/
structure Explained (crc16_ccitt : UInt16 → List UInt8 → UInt16) (run : RouterRun) : Prop
    extends run.sys.Registered where
  consistent : run.sys.Consistent
  inOrder : Mailbox.InOrder run.sys.mailbox
  unused : ∀ slot : Slot, ¬ slot.val < run.sys.pkth.handlerCtr →
    Mailbox.dispatched run.sys.trace slot = []
  queue : ∃ queued, run.sys.pkth.pkthMsgq.Represents queued ∧ run.accepted = run.handled ++ queued
  accepted : ∀ data ∈ run.accepted, ReportsToCloud data
  origins : ∀ slot : Slot, slot.val < run.sys.pkth.handlerCtr →
    List.SublistForall₂ (MadeOf crc16_ccitt (run.sys.handler slot).id)
      (Mailbox.dispatched run.sys.trace slot) run.handled
  sent : run.sentMessages.Sublist (run.transported instanceIdCloud)
  written : run.written.Sublist (run.transported instanceIdBlePeripheral)
  rs485 : run.rs485.srcId = instanceIdUartRs485 ∧ run.rs485.destId = instanceIdCloud
  ble : run.ble.initialized = true →
    run.ble.srcId = instanceIdBlePeripheral ∧ run.ble.destId = instanceIdCloud

namespace Explained

variable {run next : RouterRun}

theorem boot (memory : MainMemory) (waited : RetCode) :
    Explained crc16_ccitt (.boot memory waited) where
  initialized := rfl
  distinct := (PacketHandler.fresh_booted memory.handlers memory.cells).distinct
  transport slot hused := absurd hused (Nat.not_lt_zero _)
  consistent := ⟨by simp [RouterRun.boot, System.boot], List.nodup_nil,
    fun slot hused ↦ absurd hused (Nat.not_lt_zero _)⟩
  inOrder := Mailbox.inOrder_of_idle rfl rfl
  unused _ _ := rfl
  queue := ⟨[], RingQueue.represents_init _ (by decide), rfl⟩
  accepted := by simp [RouterRun.boot]
  origins slot hused := absurd hused (Nat.not_lt_zero _)
  sent := List.nil_sublist _
  written := List.nil_sublist _
  rs485 := ⟨rfl, rfl⟩
  ble := nofun

/-- A new handler whose id has been free, with the transport of the id. -/
theorem append (h : Explained crc16_ccitt run)
    (hroom : run.sys.pkth.handlerCtr < packetHandlers) {instId : InstanceId} {address : Address}
    (habsent : run.sys.pkth.findSlot instId = none)
    (htransport : ∃ transport, Transport.ofAddress address = some transport ∧
      instId = transport.owner)
    (hsys : next.sys = { run.sys with
      pkth := run.sys.pkth.append hroom (PacketHandler.newHandler instId address address) })
    (hsame : next.accepted = run.accepted ∧ next.handled = run.handled ∧ next.sent = run.sent ∧
      next.written = run.written ∧ next.rs485 = run.rs485 ∧ next.ble = run.ble) :
    Explained crc16_ccitt next := by
  obtain ⟨haccepted, hhandled, hsent, hwritten, hrs485, hble⟩ := hsame
  have hold {slot : Slot} (hused : slot.val < run.sys.pkth.handlerCtr) :
      next.sys.handler slot = run.sys.handler slot := by
    rw [hsys]
    exact PacketHandler.handlers_append_of_used hroom _ hused
  have hnew : next.sys.handler ⟨run.sys.pkth.handlerCtr, hroom⟩ =
      PacketHandler.newHandler instId address address := by
    rw [hsys]
    exact PacketHandler.handlers_append_self hroom _
  have hused (slot : Slot) : slot.val < next.sys.pkth.handlerCtr ↔
      slot.val < run.sys.pkth.handlerCtr ∨ slot = ⟨run.sys.pkth.handlerCtr, hroom⟩ := by
    rw [hsys]
    exact PacketHandler.used_append hroom _
  have htrace : next.sys.trace = run.sys.trace := by rw [hsys]
  have hworkq : next.sys.workq = run.sys.workq := by rw [hsys]
  have hsilent := h.unused ⟨run.sys.pkth.handlerCtr, hroom⟩ (Nat.lt_irrefl _)
  have hunread : Mailbox.delivered run.sys.trace ⟨run.sys.pkth.handlerCtr, hroom⟩ = [] := by
    have hsublist := h.inOrder.delivered_sublist ⟨run.sys.pkth.handlerCtr, hroom⟩
    exact List.sublist_nil.mp (hsilent ▸ hsublist)
  have hinitialized : next.sys.pkth.initialized = true := by
    rw [hsys]
    exact h.initialized
  have htransported (destId : InstanceId) : next.transported destId = run.transported destId := by
    simp only [RouterRun.transported, htrace,
      PacketHandler.getHandler_of_initialized hinitialized,
      PacketHandler.getHandler_of_initialized h.initialized]
    by_cases hdest : destId = instId
    · have hfound : next.sys.pkth.findSlot destId = some ⟨run.sys.pkth.handlerCtr, hroom⟩ := by
        rw [hsys, hdest]
        exact PacketHandler.findSlot_append_self h.distinct hroom habsent
      have hbefore : run.sys.pkth.findSlot destId = none := by rw [hdest, habsent]
      rw [hfound, hbefore]
      exact hunread
    · have hfound : next.sys.pkth.findSlot destId = run.sys.pkth.findSlot destId := by
        rw [hsys]
        exact PacketHandler.findSlot_append_of_ne h.distinct hroom habsent hdest
      rw [hfound]
  refine {
    initialized := hinitialized
    distinct := by
      rw [hsys]
      exact h.distinct.append hroom habsent
    transport := fun slot hslot ↦ ?_
    consistent := ⟨fun slot hslot ↦ ?_, by rw [hworkq]; exact h.consistent.nodup,
      fun slot hslot ↦ ?_⟩
    inOrder := h.inOrder.of_content hworkq htrace fun slot hslot ↦
      congrArg (fun handler ↦ handler.msg.contents) (hold (h.consistent.used slot hslot))
    unused := fun slot hslot ↦ ?_
    queue := by
      rw [haccepted, hhandled, hsys]
      exact h.queue
    accepted := by
      rw [haccepted]
      exact h.accepted
    origins := fun slot hslot ↦ ?_
    sent := by
      rw [htransported, RouterRun.sentMessages, hsent]
      exact h.sent
    written := by
      rw [htransported, hwritten]
      exact h.written
    rs485 := by
      rw [hrs485]
      exact h.rs485
    ble := by
      rw [hble]
      exact h.ble }
  · rcases (hused slot).mp hslot with hslot | rfl
    · rw [hold hslot]
      exact h.transport slot hslot
    · rw [hnew]
      exact htransport
  · rw [hworkq] at hslot
    exact (hused slot).mpr (.inl (h.consistent.used slot hslot))
  · rw [hworkq]
    rcases (hused slot).mp hslot with hslot | rfl
    · rw [hold hslot]
      exact h.consistent.queued_iff slot hslot
    · have hidle : (⟨run.sys.pkth.handlerCtr, hroom⟩ : Slot) ∉ run.sys.workq :=
        fun hmem ↦ Nat.lt_irrefl _ (h.consistent.used _ hmem)
      rw [hnew]
      exact iff_of_false Bool.false_ne_true hidle
  · rw [htrace]
    exact h.unused slot fun hlt ↦ hslot ((hused slot).mpr (.inl hlt))
  · rw [htrace, hhandled]
    rcases (hused slot).mp hslot with hslot | rfl
    · rw [hold hslot]
      exact h.origins slot hslot
    · rw [hsilent]
      exact .nil

/-! ### `main` -/

/-- A registration adds a handler with an empty history, or changes nothing but the mutex. -/
theorem register (h : Explained crc16_ccitt run) {instId : InstanceId} {address : Address}
    {point : MainPoint}
    (htransport : ∃ transport, Transport.ofAddress address = some transport ∧
      instId = transport.owner)
    (hstep : run.register instId address point = .ok next) : Explained crc16_ccitt next := by
  obtain ⟨⟨ret, pkth⟩, hregister, hnext⟩ := bind_eq_ok.mp hstep
  cases hnext
  cases hfound : run.sys.pkth.findSlot instId with
  | some slot =>
    rw [PacketHandler.registerHandler_of_present h.initialized hfound] at hregister
    cases hregister
    exact { h with
      consistent := ⟨h.consistent.used, h.consistent.nodup, h.consistent.queued_iff⟩ }
  | none =>
    by_cases hroom : run.sys.pkth.handlerCtr < packetHandlers
    · rw [PacketHandler.registerHandler_of_absent h.initialized hfound hroom] at hregister
      cases hregister
      exact h.append hroom hfound htransport rfl ⟨rfl, rfl, rfl, rfl, rfl, rfl⟩
    · rw [PacketHandler.registerHandler_of_full h.initialized hfound hroom] at hregister
      cases hregister

/-- Every statement of `main` keeps what is explained. -/
theorem mainStep {hex2bin : Hex2Bin} (h : Explained crc16_ccitt run) {answers : MainAnswers}
    (hstep : run.mainStep hex2bin answers = .ok next) : Explained crc16_ccitt next := by
  unfold RouterRun.mainStep at hstep
  cases hpoint : run.point with
  | webSocketInit =>
    simp only [hpoint] at hstep
    cases hstep
    exact { h with sent := h.sent }
  | registerCloud =>
    simp only [hpoint] at hstep
    exact h.register ⟨.sendMessage, rfl, rfl⟩ hstep
  | webSocketConnect =>
    simp only [hpoint] at hstep
    cases hstep
    exact { h with sent := h.sent }
  | bleInit =>
    simp only [hpoint] at hstep
    obtain ⟨⟨ret, ble⟩, hinit, hnext⟩ := bind_eq_ok.mp hstep
    cases hnext
    exact { h with ble := fun _ ↦ BleDriver.init_ids hinit }
  | registerBle =>
    simp only [hpoint] at hstep
    exact h.register ⟨.sendBleMessage, rfl, rfl⟩ hstep
  | uartInit =>
    simp only [hpoint] at hstep
    cases hstep
    have hport := Uart.SameObject.of_init run.rs485 none answers.uartReady answers.uartConfigured
    exact { h with rs485 := ⟨hport.srcId.trans h.rs485.1, hport.destId.trans h.rs485.2⟩ }
  | registerUart =>
    simp only [hpoint] at hstep
    obtain ⟨registered, hregister, hnext⟩ := bind_eq_ok.mp hstep
    cases hnext
    have hregistered := h.register ⟨.sendUartMessage, rfl, rfl⟩ hregister
    exact { hregistered with sent := hregistered.sent }
  | joining =>
    simp only [hpoint] at hstep
    cases hstep
    exact h
  | returned =>
    simp only [hpoint] at hstep
    cases hstep
    exact h

/-! ### Packets -/

/-- A call of `handlePacket` for data that may be reported. -/
theorem handedOver (h : Explained crc16_ccitt run) {data : PacketData}
    (hreport : ReportsToCloud data) {ret : RetCode} {after : PacketHandler}
    (hhandle : run.sys.pkth.handlePacket data = .ok (ret, after)) :
    Explained crc16_ccitt (run.handedOver after [data]) := by
  have haccepts : run.sys.pkth.accepts data = decide (ret = .ok) := by
    rw [PacketHandler.accepts, hhandle]
  rcases PacketHandler.handlePacket_cases hhandle with ⟨hret, rfl⟩ | ⟨hret, pkthMsgq, hput, rfl⟩
  · have hsame : run.handedOver run.sys.pkth [data] = run := by
      simp [RouterRun.handedOver, haccepts, hret]
    rw [hsame]
    exact h
  · obtain ⟨queued, hqueued, haccepted⟩ := h.queue
    have hnew : (run.handedOver { run.sys.pkth with pkthMsgq } [data]).accepted =
        run.accepted ++ [data] := by
      simp [RouterRun.handedOver, haccepts, hret]
    exact { h with
      consistent := ⟨h.consistent.used, h.consistent.nodup, h.consistent.queued_iff⟩
      queue := ⟨queued ++ [data], hqueued.of_put hput, by
        rw [hnew, haccepted, List.append_assoc]
        rfl⟩
      accepted := by
        rw [hnew]
        exact List.forall_mem_append.mpr ⟨h.accepted, List.forall_mem_singleton.mpr hreport⟩ }

theorem handedOver_nil (h : Explained crc16_ccitt run) :
    Explained crc16_ccitt (run.handedOver run.sys.pkth []) := by
  have hsame : run.handedOver run.sys.pkth [] = run := by simp [RouterRun.handedOver]
  rw [hsame]
  exact h

theorem receive (h : Explained crc16_ccitt run) {answer : RecvMsg}
    (hstep : run.receive answer = .ok next) : Explained crc16_ccitt next := by
  obtain ⟨⟨receiver, pkth, handed⟩, hround, hnext⟩ := bind_eq_ok.mp hstep
  cases hnext
  rcases ReceiveThread.handleMessageReceived_cases hround with
    ⟨rfl, rfl⟩ | ⟨data, ret, htype, hhandle, rfl⟩
  · exact { h.handedOver_nil with }
  · have hreport : ReportsToCloud data := by
      intro hout
      rw [htype] at hout
      cases hout
    exact { h.handedOver hreport hhandle with }

theorem interrupt (h : Explained crc16_ccitt run) {irq : UartIrq}
    (hstep : run.interrupt irq = .ok next) : Explained crc16_ccitt next := by
  unfold RouterRun.interrupt at hstep
  split_ifs at hstep
  · cases hstep
    exact h
  · obtain ⟨⟨rs485, bytes⟩, hirq, hnext⟩ := bind_eq_ok.mp hstep
    cases hnext
    have hport := Uart.SamePort.of_interrupt hirq
    exact { h with rs485 := ⟨hport.srcId.trans h.rs485.1, hport.destId.trans h.rs485.2⟩ }

theorem uartThread (h : Explained crc16_ccitt run) (hstep : run.uartThread = .ok next) :
    Explained crc16_ccitt next := by
  obtain ⟨⟨rs485, pkth, handed⟩, hround, hnext⟩ := bind_eq_ok.mp hstep
  cases hnext
  obtain ⟨rfl, rfl, rfl⟩ | ⟨uartMsgq, -, rfl, rfl, rfl⟩ |
    ⟨msgBuf, data, uartMsgq, threadRunning, -, hdata, rfl, ⟨-, rfl, rfl⟩ | ⟨ret, hhandle, rfl⟩⟩ :=
      Uart.handleUartMessages_cases hround
  · exact { h.handedOver_nil with }
  · exact { h.handedOver_nil with }
  · exact { h.handedOver_nil with }
  · exact { h.handedOver (Uart.reportsToCloud_of_packetOfMessage h.rs485 hdata) hhandle with }

/-- The calls of a callback keep what has been explained, whatever they hand over for the cloud. -/
theorem follow {calls : List BleCall} (h : Explained crc16_ccitt run)
    (hreports : ∀ data ∈ calls.filterMap BleCall.packet, ReportsToCloud data)
    (hstep : run.follow calls = .ok next) : Explained crc16_ccitt next := by
  induction calls generalizing run with
  | nil =>
    cases hstep
    exact h
  | cons call rest ih =>
    unfold RouterRun.follow at hstep
    cases hpacket : call.packet with
    | none =>
      simp only [hpacket] at hstep
      have hasked : Explained crc16_ccitt { run with asked := run.asked ++ [call] } :=
        { h with sent := h.sent }
      rw [List.filterMap_cons, hpacket] at hreports
      exact ih hasked hreports hstep
    | some data =>
      simp only [hpacket] at hstep
      obtain ⟨⟨ret, pkth⟩, hhandle, hstep⟩ := bind_eq_ok.mp hstep
      rw [List.filterMap_cons, hpacket] at hreports
      obtain ⟨hreport, hrest⟩ := List.forall_mem_cons.mp hreports
      exact ih (h.handedOver hreport hhandle) hrest hstep

theorem callback (h : Explained crc16_ccitt run) {event : BleEvent}
    (hcallback : event.action.isCallback = true) (hstep : run.callback text event = .ok next) :
    Explained crc16_ccitt next := by
  unfold RouterRun.callback at hstep
  cases hinit : run.ble.initialized with
  | false =>
    rw [if_pos (by simp [hinit])] at hstep
    cases hstep
    exact h
  | true =>
    rw [if_neg (by simp [hinit])] at hstep
    obtain ⟨⟨ble, calls⟩, hperform, hfollow⟩ := bind_eq_ok.mp hstep
    have hport := BleDriver.SamePort.of_perform hcallback hperform
    obtain ⟨hsrc, hdest⟩ := h.ble hinit
    have hkept : Explained crc16_ccitt { run with ble } :=
      { h with ble := fun _ ↦ ⟨hport.srcId.trans hsrc, hport.destId.trans hdest⟩ }
    refine hkept.follow (fun data hdata ↦ ?_) hfollow
    obtain ⟨-, hfrom, hto⟩ := hport.packets data hdata
    exact fun _ ↦ ⟨hto.trans hdest, .inr (hfrom.trans hsrc)⟩

end Explained

/-- What is dispatched for a packet is made of it. -/
theorem madeOf_dispatchedPacket {sys next : System} {data : PacketData} {slot : Slot}
    (hstep : handlePacketData crc16_ccitt sys data = .ok next) (hreport : ReportsToCloud data)
    (htarget : dispatchTarget sys data = some slot) :
    MadeOf crc16_ccitt (sys.handler slot).id (dispatchedPacket crc16_ccitt sys data) data := by
  unfold dispatchTarget at htarget
  cases htype : data.type with
  | incoming =>
    simp only [htype] at htarget
    split_ifs at htarget with hcontrol
    have hid : (sys.handler slot).id = _ := (PacketHandler.getHandler_spec htarget).2
    exact .inl ⟨htype, hcontrol, hid.symm, by simp [dispatchedPacket, htype]⟩
  | outgoing =>
    simp only [htype] at htarget
    have hid : (sys.handler slot).id = _ := (PacketHandler.getHandler_spec htarget).2
    obtain ⟨hcloud, hsource⟩ := hreport htype
    obtain ⟨source, -, hfound, -⟩ := handlePacketData_outgoing crc16_ccitt hstep htype
    exact .inr ⟨hid.trans hcloud, htype, hsource,
      (sys.handler source).result, by simp [dispatchedPacket, htype, hfound]⟩

/-- A packet is dispatched to a handler that is in use. -/
theorem used_of_dispatchTarget {sys : System} {data : PacketData} {slot : Slot}
    (htarget : dispatchTarget sys data = some slot) : slot.val < sys.pkth.handlerCtr := by
  unfold dispatchTarget at htarget
  cases htype : data.type with
  | incoming =>
    simp only [htype] at htarget
    split_ifs at htarget
    exact (PacketHandler.getHandler_spec htarget).1
  | outgoing =>
    simp only [htype] at htarget
    exact (PacketHandler.getHandler_spec htarget).1

namespace Explained

variable {run next : RouterRun}

/-- A packet taken from the queue. -/
theorem taken (h : Explained crc16_ccitt run) {found : Option PacketData} {pkth : PacketHandler}
    (hget : run.sys.pkth.getPacket = .ok (found, pkth)) :
    ∃ pkthMsgq queued, pkth = { run.sys.pkth with pkthMsgq } ∧ pkthMsgq.Represents queued ∧
      run.accepted = run.handled ++ found.toList ++ queued := by
  obtain ⟨⟨other, pkthMsgq⟩, hqueue, hpkth⟩ := bind_eq_ok.mp hget
  cases hpkth
  obtain ⟨queued, hqueued, haccepted⟩ := h.queue
  obtain ⟨rfl, htail⟩ := hqueued.of_get hqueue
  refine ⟨pkthMsgq, queued.tail, rfl, htail, ?_⟩
  rw [haccepted, List.append_assoc]
  cases queued with
  | nil => rfl
  | cons data rest => rfl

/-- A packet that has been taken from the queue is dispatched. -/
theorem dispatch (h : Explained crc16_ccitt run) {data : PacketData} {before sys : System}
    {pkthMsgq : RingQueue PacketData (msgqBufSize / sizeofPacketData)} {queued : List PacketData}
    (hbefore : before = { run.sys with pkth := { run.sys.pkth with pkthMsgq } })
    (hdispatch : handlePacketData crc16_ccitt before data = .ok sys)
    (hqueued : pkthMsgq.Represents queued)
    (haccepted : run.accepted = run.handled ++ [data] ++ queued) :
    Explained crc16_ccitt { run with sys, handled := run.handled ++ [data] } := by
  have hreport : ReportsToCloud data := h.accepted data (by simp [haccepted])
  have hmailboxes : before.mailbox = run.sys.mailbox := by
    rw [hbefore]
    rfl
  have hhandler (slot : Slot) : before.handler slot = run.sys.handler slot := by
    rw [hbefore]
    rfl
  have hctr : before.pkth.handlerCtr = run.sys.pkth.handlerCtr := by rw [hbefore]
  have hregistered : before.Registered := by
    rw [hbefore]
    exact ⟨h.initialized, h.distinct, h.transport⟩
  have hfirst : before.Consistent := by
    rw [hbefore]
    exact ⟨h.consistent.used, h.consistent.nodup, h.consistent.queued_iff⟩
  have hdelivery : deliveryStep crc16_ccitt before (.packet data) = .ok sys := hdispatch
  obtain ⟨hconsistent, -, hmailbox⟩ := deliveryStep_refines crc16_ccitt hfirst hdelivery
  have hsame := System.SameHandlers.of_handlePacketData hdispatch
  have hqueue : sys.pkth.pkthMsgq = pkthMsgq := by
    obtain ⟨-, rfl⟩ | ⟨target, pending, -, hdispatched⟩ :=
      handlePacketData_dispatched crc16_ccitt hdispatch
    · rw [hbefore]
    · rw [hdispatched.registry, hbefore]
  have hhistory : sys.trace = (mailboxStep crc16_ccitt before (.packet data)).history :=
    congrArg Mailbox.State.history hmailbox
  have hdelivered (slot : Slot) :
      Mailbox.delivered sys.trace slot = Mailbox.delivered run.sys.trace slot := by
    rw [hhistory, mailboxStep, hmailboxes]
    cases dispatchTarget before data with
    | none => rfl
    | some target => exact Mailbox.delivered_submit _ _ _ _
  have hlookup (instId : InstanceId) :
      sys.pkth.getHandler instId = run.sys.pkth.getHandler instId := by
    rw [hsame.getHandler, hbefore]
    rfl
  have htransported (destId : InstanceId) :
      RouterRun.transported { run with sys, handled := run.handled ++ [data] } destId =
        run.transported destId := by
    simp only [RouterRun.transported, hlookup, hdelivered]
  refine { hsame.registered hregistered with
    consistent := hconsistent
    inOrder := ?_
    unused := fun slot hslot ↦ ?_
    queue := ⟨queued, by rwa [hqueue], haccepted⟩
    accepted := h.accepted
    origins := fun slot hslot ↦ ?_
    sent := by
      rw [htransported]
      exact h.sent
    written := by
      rw [htransported]
      exact h.written
    rs485 := h.rs485
    ble := h.ble }
  · change Mailbox.InOrder sys.mailbox
    rw [hmailbox, mailboxStep, hmailboxes]
    cases dispatchTarget before data with
    | none => exact h.inOrder
    | some target => exact h.inOrder.dispatch target _
  · have hbeyond : ¬ slot.val < before.pkth.handlerCtr := by rwa [← hsame.handlerCtr]
    have hsilent := h.unused slot (by rwa [← hctr])
    change Mailbox.dispatched sys.trace slot = []
    rw [hhistory, mailboxStep, hmailboxes]
    cases htarget : dispatchTarget before data with
    | none => exact hsilent
    | some target =>
      have hother : target ≠ slot := by
        rintro rfl
        exact hbeyond (used_of_dispatchTarget htarget)
      simp only [Mailbox.dispatch, Mailbox.dispatched_submit, if_neg hother, List.append_nil]
      exact hsilent
  · have horigins := h.origins slot (by rwa [← hctr, ← hsame.handlerCtr])
    change List.SublistForall₂ (MadeOf crc16_ccitt (sys.handler slot).id)
      (Mailbox.dispatched sys.trace slot) _
    rw [hsame.id, hhandler, hhistory, mailboxStep, hmailboxes]
    cases htarget : dispatchTarget before data with
    | none => exact horigins.append_inputs [data]
    | some target =>
      have hmade := madeOf_dispatchedPacket hdispatch hreport htarget
      rw [hhandler] at hmade
      simp only [Mailbox.dispatch, Mailbox.dispatched_submit]
      split_ifs with hslot
      · subst hslot
        exact horigins.concat hmade
      · rw [List.append_nil]
        exact horigins.append_inputs [data]

theorem packetThread (h : Explained crc16_ccitt run)
    (hstep : run.packetThread crc16_ccitt = .ok next) : Explained crc16_ccitt next := by
  obtain ⟨⟨found, pkth⟩, hget, hstep⟩ := bind_eq_ok.mp hstep
  obtain ⟨pkthMsgq, queued, rfl, hqueued, haccepted⟩ := h.taken hget
  cases found with
  | none =>
    cases hstep
    exact { h with
      consistent := ⟨h.consistent.used, h.consistent.nodup, h.consistent.queued_iff⟩
      queue := ⟨queued, hqueued, by simpa using haccepted⟩ }
  | some data =>
    obtain ⟨sys, hdispatch, hnext⟩ := bind_eq_ok.mp hstep
    cases hnext
    exact h.dispatch rfl hdispatch hqueued haccepted

/-! ### The work queue -/

/-- What the transports have read when a work item has run. -/
theorem transported_runWork (h : Explained crc16_ccitt run) {slot : Slot}
    (hused : slot.val < run.sys.pkth.handlerCtr) (hsame : System.SameHandlers run.sys next.sys)
    {message : List UInt8} (htrace : next.sys.trace = run.sys.trace ++ [.run slot message])
    (destId : InstanceId) :
    next.transported destId =
      run.transported destId ++ if (run.sys.handler slot).id = destId then [message] else [] := by
  have howner : run.sys.pkth.getHandler destId = some slot ↔
      (run.sys.handler slot).id = destId := by
    rw [PacketHandler.getHandler_of_initialized h.initialized, h.distinct.findSlot_eq_some,
      and_iff_right hused]
    rfl
  simp only [RouterRun.transported, hsame.getHandler, htrace]
  cases hfound : run.sys.pkth.getHandler destId with
  | none =>
    rw [hfound] at howner
    have hother : (run.sys.handler slot).id ≠ destId := by simpa using howner
    simp [hother]
  | some target =>
    rw [hfound, Option.some.injEq] at howner
    simp only [Mailbox.delivered_run, ← howner, eq_comm]

/-- A work item that has run, and a transport that has sent or written the message of its handler,
or left it. -/
theorem worked (h : Explained crc16_ccitt run) {slot : Slot} {rest : List Slot}
    (hworkq : run.sys.workq = slot :: rest) {lock : ℕ}
    (hsys : next.sys = run.sys.runWork.modify slot fun handler ↦ { handler with workLock := lock })
    (haccepted : next.accepted = run.accepted) (hhandled : next.handled = run.handled)
    {messages : List (List UInt8)} (hsent : next.sentMessages = run.sentMessages ++ messages)
    (hmessages : messages.Sublist
      (if (run.sys.handler slot).id = instanceIdCloud then [(run.sys.handler slot).msg.contents]
      else []))
    {bytes : List (List UInt8)} (hwritten : next.written = run.written ++ bytes)
    (hbytes : bytes.Sublist
      (if (run.sys.handler slot).id = instanceIdBlePeripheral then
        [(run.sys.handler slot).msg.contents]
      else []))
    (hrs485 : next.rs485.srcId = run.rs485.srcId ∧ next.rs485.destId = run.rs485.destId)
    (hble : next.ble.initialized = run.ble.initialized ∧ next.ble.srcId = run.ble.srcId ∧
      next.ble.destId = run.ble.destId) :
    Explained crc16_ccitt next := by
  have hmailbox : next.sys.mailbox = Mailbox.work run.sys.mailbox := by
    rw [hsys, System.mailbox_modify, System.mailbox_runWork]
    exact fun _ ↦ rfl
  have htrace : next.sys.trace =
      run.sys.trace ++ [.run slot (run.sys.handler slot).msg.contents] := by
    have hhistory := congrArg Mailbox.State.history hmailbox
    simpa [Mailbox.work, System.mailbox, hworkq] using hhistory
  have hsame : System.SameHandlers run.sys next.sys := by
    rw [hsys]
    exact .of_work run.sys slot lock
  have hused := h.consistent.used slot (by simp [hworkq])
  have htransported := h.transported_runWork hused hsame htrace
  exact { hsame.registered h.toRegistered with
    consistent := by
      rw [hsys]
      exact h.consistent.runWork.modify slot _ fun _ ↦ rfl
    inOrder := by
      rw [hmailbox]
      exact h.inOrder.work
    unused := fun other hother ↦ by
      rw [htrace, Mailbox.dispatched_run]
      exact h.unused other (by rwa [← hsame.handlerCtr])
    queue := by
      obtain ⟨queued, hqueued, hsplit⟩ := h.queue
      refine ⟨queued, ?_, by rw [haccepted, hhandled, hsplit]⟩
      rwa [hsys, System.pkthMsgq_modify, System.pkthMsgq_runWork]
    accepted := by
      rw [haccepted]
      exact h.accepted
    origins := fun other hother ↦ by
      rw [hsame.id, htrace, Mailbox.dispatched_run, hhandled]
      exact h.origins other (by rwa [← hsame.handlerCtr])
    sent := by
      rw [hsent, htransported]
      exact h.sent.append hmessages
    written := by
      rw [hwritten, htransported]
      exact h.written.append hbytes
    rs485 := ⟨hrs485.1.trans h.rs485.1, hrs485.2.trans h.rs485.2⟩
    ble := fun hinit ↦ by
      rw [hble.1] at hinit
      obtain ⟨hsrc, hdest⟩ := h.ble hinit
      exact ⟨hble.2.1.trans hsrc, hble.2.2.trans hdest⟩ }

/-- The work queue calls the transport of the handler whose item it runs. -/
theorem work (h : Explained crc16_ccitt run) {bt : BtAnswers}
    (hstep : run.work text bt = .ok next) : Explained crc16_ccitt next := by
  unfold RouterRun.work at hstep
  cases hworkq : run.sys.workq with
  | nil =>
    simp only [hworkq] at hstep
    cases hstep
    exact h
  | cons slot rest =>
    simp only [hworkq] at hstep
    have hused := h.consistent.used slot (by simp [hworkq])
    obtain ⟨transport, hcallback, hid⟩ := h.transport slot hused
    obtain ⟨queued, hhandler⟩ := run.sys.handler_runWork slot
    simp only [RouterRun.transport, hhandler, hcallback] at hstep
    cases transport with
    | sendMessage =>
      have hcloud : (run.sys.handler slot).id = instanceIdCloud := hid
      simp only at hstep
      split at hstep
      · next after calls hsend =>
        cases hstep
        refine h.worked hworkq rfl rfl rfl List.filterMap_append ?_ (List.append_nil _).symm
          (List.nil_sublist _) ⟨rfl, rfl⟩ ⟨rfl, rfl, rfl⟩
        rw [if_pos hcloud]
        have hmessages := WebSocket.sendMessage_effect hsend
        exact hmessages
      · cases hstep
        exact h
    | sendBleMessage =>
      obtain ⟨⟨ble, after, calls⟩, hsend, hnext⟩ := bind_eq_ok.mp hstep
      cases hnext
      obtain ⟨hsame, hwritten⟩ := BleDriver.sendBleMessage_effect hsend
      have hperipheral : (run.sys.handler slot).id = instanceIdBlePeripheral := hid
      refine h.worked hworkq rfl rfl rfl (List.append_nil _).symm (List.nil_sublist _) rfl ?_
        ⟨rfl, rfl⟩ hsame
      rw [if_pos hperipheral]
      exact hwritten
    | sendUartMessage =>
      obtain ⟨⟨rs485, after⟩, hsend, hnext⟩ := bind_eq_ok.mp hstep
      cases hnext
      have hport := Uart.SamePort.of_sendUartMessage hsend
      exact h.worked hworkq rfl rfl rfl (List.append_nil _).symm (List.nil_sublist _)
        (List.append_nil _).symm (List.nil_sublist _) ⟨hport.srcId, hport.destId⟩ ⟨rfl, rfl, rfl⟩

/-- Whatever an actor does. -/
theorem step {hex2bin : Hex2Bin} (h : Explained crc16_ccitt run) {action : RouterAction}
    (hstep : run.step hex2bin crc16_ccitt text action = .ok next) :
    Explained crc16_ccitt next := by
  unfold RouterRun.step at hstep
  split_ifs at hstep
  · cases hstep
    exact h
  · cases action with
    | main answers => exact h.mainStep hstep
    | receive answer => exact h.receive hstep
    | callback event hcallback => exact h.callback hcallback hstep
    | interrupt irq => exact h.interrupt hstep
    | uartThread => exact h.uartThread hstep
    | packetThread => exact h.packetThread hstep
    | work bt => exact h.work hstep

end Explained

/-! ## Runs -/

/-- What the transport of a handler has read is made of packets that have been handled, in their
order. -/
theorem Explained.transported_origins {run : RouterRun} (h : Explained crc16_ccitt run)
    (destId : InstanceId) :
    List.SublistForall₂ (MadeOf crc16_ccitt destId) (run.transported destId) run.handled := by
  unfold RouterRun.transported
  cases hfound : run.sys.pkth.getHandler destId with
  | none => exact .nil
  | some slot =>
    obtain ⟨hused, hid⟩ := PacketHandler.getHandler_spec hfound
    have horigins := (h.origins slot hused).of_sublist (h.inOrder.delivered_sublist slot)
    have howner : (run.sys.handler slot).id = destId := hid
    rwa [howner] at horigins

theorem Explained.transported_commands {run : RouterRun} (h : Explained crc16_ccitt run)
    {destId : InstanceId} (hperipheral : destId ≠ instanceIdCloud) :
    List.SublistForall₂ (CommandFor destId) (run.transported destId) run.handled :=
  (h.transported_origins destId).imp_of_mem fun _ _ _ hmade ↦
    hmade.resolve_right fun hreport ↦ hperipheral hreport.1

/-- The cloud sends a command for the RS485 port, and the port answers it with a line. -/
def exchange : List RouterAction :=
  [.receive (.stored (genericFrame genericTypeControl
      (controlFrame 6 instanceIdCloud instanceIdUartRs485 1 [0x61, 0x62])) 0),
    .packetThread, .work (succeeding .disconnect).answers, .interrupt (.transmitReady 16 true),
    .interrupt (.received 0x68), .interrupt (.received lineFeed), .uartThread, .packetThread,
    .work (succeeding .disconnect).answers]

end CrownstoneRouter
