import CrownstoneRouter.Drivers.BleAccesses
import CrownstoneRouter.Drivers.PortBounds
import CrownstoneRouter.PacketHandling.Lookups
import CrownstoneRouter.Router.Handover

/-!
# Offences

The steps of the actors that leave the memory of the router, by what the actors meet and by the
state that they meet it in: accesses of the drivers, messages that do not fit, packets that cannot
be handled, and one packet more than the message buffer has slots for.
-/

namespace CrownstoneRouter

open CheckedMemory CheckedRun

/-! ## Callbacks -/

namespace BleDriver

variable {text : BtAddrText} {ble next : BleDriver} {calls : List BleCall}

/-- A callback of the stack returns exactly if it does not stray. -/
theorem perform_returns_iff (text : BtAddrText) (ble : BleDriver) {event : BleEvent}
    (hcallback : event.action.isCallback = true) :
    (∃ result, ble.perform text event = .ok result) ↔ ¬ ble.Strays event.action := by
  obtain ⟨action, bt⟩ := event
  cases action with
  | deviceFound addr type =>
    obtain ⟨after, calls, h, -⟩ := LinkRun.deviceFound_returns text ble addr type bt
    exact iff_of_true ⟨_, h⟩ id
  | connectionResult conn connErr dst =>
    obtain ⟨after, calls, h, -⟩ := LinkRun.connectionResult_returns text ble conn connErr dst bt
    exact iff_of_true ⟨_, h⟩ id
  | disconnected conn reason dst =>
    obtain ⟨after, calls, h, -⟩ := LinkRun.disconnected_returns text ble conn reason dst bt
    exact iff_of_true ⟨_, h⟩ id
  | discovered conn attr fresh =>
    have h := ble.handleDiscoveryResults_returns conn attr fresh
    exact iff_of_true ((bind_returns_iff fun _ ↦ ⟨_, rfl⟩).mpr h) id
  | discoveryDone err => exact iff_of_true ⟨_, rfl⟩ id
  | notified conn data length =>
    exact (bind_returns_iff fun _ ↦ ⟨_, rfl⟩).trans (ble.handleNotifications_returns_iff conn data length)
  | readResult err data length =>
    exact (bind_returns_iff fun _ ↦ ⟨_, rfl⟩).trans (ble.handleReadResult_returns_iff err data length)
  | connect deviceAddr => cases hcallback
  | discoverServices uuid => cases hcallback
  | write handle data len => cases hcallback
  | read handle => cases hcallback
  | disconnect => cases hcallback
  | sendMessage hdlr => cases hcallback

/-- A callback of the stack hands over one packet at most. -/
theorem packets_of_perform {event : BleEvent} (hcallback : event.action.isCallback = true)
    (h : ble.perform text event = .ok (next, calls)) :
    (calls.filterMap BleCall.packet).length = if ble.Reports event.action then 1 else 0 := by
  have hsilent (hnone : calls.filterMap BleCall.packet = []) (hnot : ¬ ble.Reports event.action) :
      (calls.filterMap BleCall.packet).length = if ble.Reports event.action then 1 else 0 := by
    rw [hnone, if_neg hnot]
    rfl
  obtain ⟨action, bt⟩ := event
  cases action with
  | deviceFound addr type => exact hsilent (packets_of_handleBleDeviceFound h) id
  | connectionResult conn connErr dst =>
    exact hsilent (packets_of_handleConnectionResult h) id
  | disconnected conn reason dst => exact hsilent (packets_of_handleDisonnectionResult h) id
  | discovered conn attr fresh =>
    obtain ⟨⟨iter, made, asked⟩, hdiscover, h⟩ := bind_eq_ok.mp h
    cases h
    exact hsilent (packets_of_handleDiscoveryResults hdiscover) id
  | discoveryDone err =>
    have hnone := packets_of_handleDiscoveryDone ble err bt
    rw [Except.ok.inj h] at hnone
    exact hsilent hnone id
  | notified conn data length =>
    obtain ⟨⟨iter, made, asked⟩, hnotified, h⟩ := bind_eq_ok.mp h
    cases h
    exact packets_of_handleNotifications hnotified
  | readResult err data length =>
    obtain ⟨⟨iter, made, asked⟩, hread, h⟩ := bind_eq_ok.mp h
    cases h
    exact packets_of_handleReadResult hread
  | connect deviceAddr => cases hcallback
  | discoverServices uuid => cases hcallback
  | write handle data len => cases hcallback
  | read handle => cases hcallback
  | disconnect => cases hcallback
  | sendMessage hdlr => cases hcallback

end BleDriver

/-! ## The receive thread -/

/-- A chunk does not fit behind what has been received. -/
def ReceiveThread.Overflows (ws : ReceiveThread) : RecvMsg → Prop
  | .stored bytes _ => packetBufSize < ws.readPos + bytes.length
  | .again | .failed => False

instance (ws : ReceiveThread) : ∀ answer, Decidable (ws.Overflows answer)
  | .stored _ _ => inferInstanceAs (Decidable (_ < _))
  | .again | .failed => inferInstanceAs (Decidable False)

/-- The inner loop of the receive thread ends. -/
def RecvMsg.Ends : RecvMsg → Prop
  | .stored _ remaining => remaining = 0
  | .again => False
  | .failed => True

instance : ∀ answer : RecvMsg, Decidable answer.Ends
  | .stored _ _ => inferInstanceAs (Decidable (_ = _))
  | .again => inferInstanceAs (Decidable False)
  | .failed => inferInstanceAs (Decidable True)

/-! ## The router -/

namespace RouterRun

/-- Every slot of the message buffer has been written, and the next one lies behind it. -/
def Spent (run : RouterRun) : Prop :=
  packetQueueSize ≤ run.accepted.length

instance (run : RouterRun) : Decidable run.Spent :=
  inferInstanceAs (Decidable (_ ≤ _))

/-- The step of an actor leaves the memory of the router. Neither `main` nor the work queue ever
does. -/
def Offends (run : RouterRun) : RouterAction → Prop
  | .main _ => False
  | .receive answer =>
      run.receiver.running = true ∧ (run.receiver.Overflows answer ∨ answer.Ends ∧ run.Spent)
  | .callback event _ =>
      run.ble.initialized = true ∧
        (run.ble.Strays event.action ∨ run.ble.Reports event.action ∧ run.Spent)
  | .interrupt irq => run.rs485.initialized = true ∧ run.rs485.InterruptOverreads irq
  | .uartThread => run.rs485.HasLine ∧ run.Spent
  | .packetThread =>
      ∃ data ∈ run.accepted[run.handled.length]?, ¬ Handleable run.sys data
  | .work _ => False

instance (run : RouterRun) : ∀ action, Decidable (run.Offends action)
  | .main _ | .work _ => inferInstanceAs (Decidable False)
  | .receive _ | .callback _ _ => inferInstanceAs (Decidable (_ ∧ (_ ∨ _ ∧ _)))
  | .interrupt _ | .uartThread => inferInstanceAs (Decidable (_ ∧ _))
  | .packetThread =>
      decidable_of_iff (∃ data, run.accepted[run.handled.length]? = some data ∧
        ¬ Handleable run.sys data) Iff.rfl

/-- The router has been left, or the step of the actor stays inside of it. -/
def Stays (run : RouterRun) (action : RouterAction) : Prop :=
  run.point = .returned ∨ ¬ run.Offends action

instance (run : RouterRun) (action : RouterAction) : Decidable (run.Stays action) :=
  inferInstanceAs (Decidable (_ ∨ _))

end RouterRun

end CrownstoneRouter
