import CrownstoneRouter.Router.Provenance

/-!
# What actors leave alone

Whatever an actor other than `main` does, it changes neither what `main` has set up nor the handlers
that it has registered, apart from their mailboxes.
-/

namespace CrownstoneRouter

open CheckedMemory CheckedRun

variable {hex2bin : Hex2Bin} {crc16_ccitt : UInt16 → List UInt8 → UInt16} {text : BtAddrText}

/-- What the actions of `main` meet. -/
def RouterAction.mainAnswers : RouterAction → Option MainAnswers
  | .main answers => some answers
  | _ => none

/-- What `main` has set up is as it was. -/
structure RouterRun.Undisturbed (run next : RouterRun) : Prop where
  point : next.point = run.point
  ret : next.ret = run.ret
  webSocket : next.webSocket = run.webSocket
  ble : next.ble.initialized = run.ble.initialized
  rs485 : next.rs485.initialized = run.rs485.initialized
  handlers : System.SameHandlers run.sys next.sys

theorem System.SameHandlers.refl (sys : System) : SameHandlers sys sys :=
  ⟨rfl, rfl, fun _ ↦ rfl, fun _ ↦ rfl⟩

theorem System.SameHandlers.trans {sys next last : System} (h : SameHandlers sys next)
    (hlast : SameHandlers next last) : SameHandlers sys last where
  initialized := hlast.initialized.trans h.initialized
  handlerCtr := hlast.handlerCtr.trans h.handlerCtr
  id slot := (hlast.id slot).trans (h.id slot)
  callback slot := (hlast.callback slot).trans (h.callback slot)

namespace RouterRun.Undisturbed

variable {run next last : RouterRun}

theorem refl (run : RouterRun) : Undisturbed run run :=
  ⟨rfl, rfl, rfl, rfl, rfl, .refl _⟩

theorem trans (h : Undisturbed run next) (hlast : Undisturbed next last) :
    Undisturbed run last where
  point := hlast.point.trans h.point
  ret := hlast.ret.trans h.ret
  webSocket := hlast.webSocket.trans h.webSocket
  ble := hlast.ble.trans h.ble
  rs485 := hlast.rs485.trans h.rs485
  handlers := h.handlers.trans hlast.handlers

theorem of_handlePacket {data : PacketData} {ret : RetCode} {pkth : PacketHandler}
    (hhandle : run.sys.pkth.handlePacket data = .ok (ret, pkth)) (packets : List PacketData) :
    Undisturbed run (run.handedOver pkth packets) := by
  rcases PacketHandler.handlePacket_cases hhandle with ⟨-, rfl⟩ | ⟨-, pkthMsgq, -, rfl⟩
  · exact ⟨rfl, rfl, rfl, rfl, rfl, .refl _⟩
  · exact ⟨rfl, rfl, rfl, rfl, rfl, ⟨rfl, rfl, fun _ ↦ rfl, fun _ ↦ rfl⟩⟩

theorem of_receive {answer : RecvMsg} (hstep : run.receive answer = .ok next) :
    Undisturbed run next := by
  obtain ⟨⟨receiver, pkth, handed⟩, hround, hnext⟩ := bind_eq_ok.mp hstep
  cases hnext
  rcases ReceiveThread.handleMessageReceived_cases hround with
    ⟨rfl, rfl⟩ | ⟨data, ret, -, hhandle, rfl⟩
  · exact ⟨rfl, rfl, rfl, rfl, rfl, .refl _⟩
  · exact { of_handlePacket hhandle [data] with }

theorem of_interrupt {irq : UartIrq} (hstep : run.interrupt irq = .ok next) :
    Undisturbed run next := by
  unfold RouterRun.interrupt at hstep
  split_ifs at hstep
  · cases hstep
    exact .refl run
  · obtain ⟨⟨rs485, bytes⟩, hirq, hnext⟩ := bind_eq_ok.mp hstep
    cases hnext
    exact { refl run with rs485 := (Uart.SamePort.of_interrupt hirq).initialized }

theorem of_uartThread (hstep : run.uartThread = .ok next) : Undisturbed run next := by
  obtain ⟨⟨rs485, pkth, handed⟩, hround, hnext⟩ := bind_eq_ok.mp hstep
  cases hnext
  obtain ⟨rfl, rfl, rfl⟩ | ⟨uartMsgq, -, rfl, rfl, rfl⟩ |
    ⟨msgBuf, data, uartMsgq, threadRunning, -, -, rfl, ⟨-, rfl, rfl⟩ | ⟨ret, hhandle, rfl⟩⟩ :=
      Uart.handleUartMessages_cases hround
  · exact ⟨rfl, rfl, rfl, rfl, rfl, .refl _⟩
  · exact ⟨rfl, rfl, rfl, rfl, rfl, .refl _⟩
  · exact ⟨rfl, rfl, rfl, rfl, rfl, .refl _⟩
  · exact { of_handlePacket hhandle [data] with }

theorem of_follow {calls : List BleCall} (hstep : run.follow calls = .ok next) :
    Undisturbed run next := by
  induction calls generalizing run with
  | nil =>
    cases hstep
    exact .refl _
  | cons call rest ih =>
    unfold RouterRun.follow at hstep
    cases hpacket : call.packet with
    | none =>
      simp only [hpacket] at hstep
      exact { ih hstep with }
    | some data =>
      simp only [hpacket] at hstep
      obtain ⟨⟨ret, pkth⟩, hhandle, hstep⟩ := bind_eq_ok.mp hstep
      exact (of_handlePacket hhandle [data]).trans (ih hstep)

theorem of_callback {event : BleEvent} (hcallback : event.action.isCallback = true)
    (hstep : run.callback text event = .ok next) : Undisturbed run next := by
  unfold RouterRun.callback at hstep
  split_ifs at hstep
  · cases hstep
    exact .refl run
  · obtain ⟨⟨ble, calls⟩, hperform, hfollow⟩ := bind_eq_ok.mp hstep
    have hport := BleDriver.SamePort.of_perform hcallback hperform
    have hfollowed := of_follow hfollow
    exact { hfollowed with ble := hfollowed.ble.trans hport.initialized }

theorem of_packetThread (hstep : run.packetThread crc16_ccitt = .ok next) :
    Undisturbed run next := by
  obtain ⟨⟨found, pkth⟩, hget, hstep⟩ := bind_eq_ok.mp hstep
  obtain ⟨⟨other, pkthMsgq⟩, -, hpkth⟩ := bind_eq_ok.mp hget
  cases hpkth
  have htaken : System.SameHandlers run.sys
      { run.sys with pkth := { run.sys.pkth with pkthMsgq } } :=
    ⟨rfl, rfl, fun _ ↦ rfl, fun _ ↦ rfl⟩
  cases found with
  | none =>
    cases hstep
    exact ⟨rfl, rfl, rfl, rfl, rfl, htaken⟩
  | some data =>
    obtain ⟨sys, hdispatch, hnext⟩ := bind_eq_ok.mp hstep
    cases hnext
    exact ⟨rfl, rfl, rfl, rfl, rfl, htaken.trans (.of_handlePacketData hdispatch)⟩

theorem of_work {bt : BtAnswers} (hstep : run.work text bt = .ok next) :
    Undisturbed run next := by
  unfold RouterRun.work at hstep
  split at hstep
  · cases hstep
    exact .refl run
  · next slot rest hworkq =>
    unfold RouterRun.transport at hstep
    simp only at hstep
    split at hstep
    · split at hstep
      · cases hstep
        exact ⟨rfl, rfl, rfl, rfl, rfl, .of_work run.sys slot _⟩
      · cases hstep
        exact .refl run
    · obtain ⟨⟨ble, after, calls⟩, hsend, hnext⟩ := bind_eq_ok.mp hstep
      cases hnext
      have hsame := (BleDriver.sendBleMessage_effect hsend).1
      exact ⟨rfl, rfl, rfl, hsame.1, rfl, .of_work run.sys slot _⟩
    · obtain ⟨⟨rs485, after⟩, hsend, hnext⟩ := bind_eq_ok.mp hstep
      cases hnext
      have hport := Uart.SamePort.of_sendUartMessage hsend
      exact ⟨rfl, rfl, rfl, rfl, hport.initialized, .of_work run.sys slot _⟩
    · cases hstep

/-- Whatever an actor other than `main` does. -/
theorem of_step {action : RouterAction} (hother : action.mainAnswers = none)
    (hstep : run.step hex2bin crc16_ccitt text action = .ok next) : Undisturbed run next := by
  unfold RouterRun.step at hstep
  split_ifs at hstep
  · cases hstep
    exact .refl run
  · cases action with
    | main answers => cases hother
    | receive answer => exact of_receive hstep
    | callback event hcallback => exact of_callback hcallback hstep
    | interrupt irq => exact of_interrupt hstep
    | uartThread => exact of_uartThread hstep
    | packetThread => exact of_packetThread hstep
    | work bt => exact of_work hstep

end RouterRun.Undisturbed

end CrownstoneRouter
