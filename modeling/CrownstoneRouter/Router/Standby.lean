import CrownstoneRouter.Router.Exchange

/-!
# From power-on to the first dialogue

While `main` brings the router up and nothing happens outside of it, the actors that have been
started find nothing to do. What `main` leaves behind attends to a dialogue from its start.
-/

namespace CrownstoneRouter

open CheckedMemory CheckedRun

variable {hex2bin : Hex2Bin} {crc16_ccitt : UInt16 → List UInt8 → UInt16} {text : BtAddrText}

/-- A statement of `main`, or a round of an actor that nothing from outside comes to. -/
def RouterAction.Quiet : RouterAction → Prop
  | .main _ | .receive .again | .uartThread | .packetThread | .work _ => True
  | .interrupt irq => irq.rxReady = false ∧ irq.txReady = false
  | .receive (.stored _ _) | .receive .failed | .callback _ _ => False

instance : ∀ action, Decidable (RouterAction.Quiet action)
  | .main _ | .receive .again | .uartThread | .packetThread | .work _ =>
      inferInstanceAs (Decidable True)
  | .interrupt _ => inferInstanceAs (Decidable (_ ∧ _))
  | .receive (.stored _ _) | .receive .failed | .callback _ _ => inferInstanceAs (Decidable False)

/-- Nothing has come from outside. -/
structure Quiescent (run : RouterRun) : Prop where
  hasPktHandler : run.receiver.hasPktHandler = true
  srcId : run.receiver.srcId = instanceIdCloud
  holds : run.receiver.Holds []
  running : SetUp 3 run.point.executed run.ret run.receiver.running
  port : (∃ uartBuf cells,
      run.rs485 = .created instanceIdUartRs485 instanceIdCloud uartBuf cells) ∨
    PortAttends (.listening none []) run.rs485
  queue : QueueInvariant ⟨run.sys.pkth, run.accepted, run.handled⟩ []
  accepted : run.accepted = []
  workq : run.sys.workq = []
  results : ∀ slot : Slot, slot.val < run.sys.pkth.handlerCtr →
    (run.sys.handler slot).result.id = 0
  sent : run.sent = []
  given : run.given = []

theorem PortAttends.initial (uartBuf : Buffer UInt8 uartBufferSize)
    (cells : Fin (uartMsgqBufSize / uartBufferSize) → Option (Buffer UInt8 uartBufferSize)) :
    PortAttends (.listening none [])
      (.initial instanceIdUartRs485 instanceIdCloud uartBuf cells) where
  duplex := { Uart.keeps_start instanceIdUartRs485 instanceIdCloud uartBuf cells with
    receives := fun _ ↦ ⟨rfl, rfl⟩
    sends := fun _ ↦ rfl }
  rx := rfl
  tx := rfl
  heard := ⟨[], RingQueue.represents_init cells (by decide), rfl⟩
  sayable := sayable_nil
  threadRunning := rfl
  hasPktHandler := rfl
  srcId := rfl
  destId := rfl

namespace Quiescent

variable {run next : RouterRun}

theorem boot (memory : MainMemory) (waited : RetCode) : Quiescent (.boot memory waited) where
  hasPktHandler := rfl
  srcId := rfl
  holds := ⟨rfl, rfl, Nat.zero_le _, rfl⟩
  running := ⟨nofun, nofun⟩
  port := .inl ⟨memory.uartBuf, memory.uartCells, rfl⟩
  queue := queueInvariant_start memory.handlers memory.cells
  accepted := rfl
  workq := rfl
  results _ hused := absurd hused (Nat.not_lt_zero _)
  sent := rfl
  given := rfl

/-- An actor to which nothing comes does nothing. -/
theorem idle (h : Quiescent run) {action : RouterAction} (hquiet : action.Quiet)
    (hother : action.mainAnswers = none) : run.step hex2bin crc16_ccitt text action = .ok run := by
  unfold RouterRun.step
  split_ifs
  · rfl
  · cases action with
    | main answers => cases hother
    | callback event hcallback => exact hquiet.elim
    | receive answer =>
      cases answer with
      | again =>
        dsimp only
        have hround : run.receiver.handleMessageReceived .again run.sys.pkth =
            .ok (run.receiver, run.sys.pkth, none) := by
          unfold ReceiveThread.handleMessageReceived
          split_ifs <;> rfl
        rw [RouterRun.receive, hround]
        change Except.ok { run.handedOver run.sys.pkth [] with receiver := run.receiver } = _
        rw [RouterRun.handedOver_nil]
      | stored bytes remaining => exact hquiet.elim
      | failed => exact hquiet.elim
    | interrupt irq =>
      have hround : run.rs485.handleUartInterrupt irq = .ok (run.rs485, []) := by
        unfold Uart.handleUartInterrupt
        simp [hquiet.1, hquiet.2, pure, Except.pure]
      change run.interrupt irq = _
      unfold RouterRun.interrupt
      split_ifs
      · rfl
      · rw [hround]
        change Except.ok { run with rs485 := run.rs485, given := run.given ++ [] } = _
        rw [List.append_nil]
    | uartThread =>
      have hround : run.rs485.handleUartMessages run.sys.pkth =
          .ok (run.rs485, run.sys.pkth, none) := by
        obtain ⟨uartBuf, cells, hcreated⟩ | hattends := h.port
        · rw [hcreated]
          rfl
        · exact hattends.waits rfl run.sys.pkth
      change run.uartThread = _
      rw [RouterRun.uartThread, hround]
      change Except.ok { run.handedOver run.sys.pkth [] with rs485 := run.rs485 } = _
      rw [RouterRun.handedOver_nil]
    | packetThread =>
      have hget := h.queue.represents.get_nil
      simp [RouterRun.packetThread, PacketHandler.getPacket, hget, bind, pure, Except.pure]
    | work bt =>
      dsimp only
      rw [RouterRun.work, h.workq]

/-- A registration. -/
theorem register (h : Quiescent run) (hregistry : run.sys.Registered) {instId : InstanceId}
    {address : Address} {point : MainPoint} (hexecuted : point.executed = run.point.executed + 1)
    (hother : point.executed ≠ 3) (hstep : run.register instId address point = .ok next) :
    Quiescent next := by
  have hfirst {other : RetCode} : run.ret.lor other = RetCode.ok → run.ret = RetCode.ok :=
    fun hok ↦ (RetCode.lor_eq_ok.mp hok).1
  have hrunning {ret : RetCode} :
      SetUp 3 point.executed (run.ret.lor ret) run.receiver.running := by
    rw [hexecuted] at hother ⊢
    exact h.running.other hfirst hother
  obtain ⟨⟨ret, pkth⟩, hregister, hnext⟩ := bind_eq_ok.mp hstep
  cases hnext
  have hqueue := h.queue
  cases hfound : run.sys.pkth.findSlot instId with
  | some slot =>
    rw [PacketHandler.registerHandler_of_present hregistry.initialized hfound] at hregister
    cases hregister
    exact { h with
      running := hrunning
      queue := hqueue.of_registry rfl rfl rfl }
  | none =>
    by_cases hroom : run.sys.pkth.handlerCtr < packetHandlers
    · rw [PacketHandler.registerHandler_of_absent hregistry.initialized hfound hroom] at hregister
      cases hregister
      refine { h with
        running := hrunning
        queue := hqueue.of_registry rfl rfl rfl
        results := fun slot hslot ↦ ?_ }
      change ((run.sys.pkth.append hroom
        (PacketHandler.newHandler instId address address)).handlers slot).result.id = 0
      rcases (PacketHandler.used_append hroom _).mp hslot with hslot | rfl
      · rw [PacketHandler.handlers_append_of_used hroom _ hslot]
        exact h.results slot hslot
      · rw [PacketHandler.handlers_append_self]
        rfl
    · rw [PacketHandler.registerHandler_of_full hregistry.initialized hfound hroom] at hregister
      cases hregister

/-- A statement of `main`. -/
theorem mainStep (h : Quiescent run) (hregistry : run.sys.Registered) {answers : MainAnswers}
    (hstep : run.mainStep hex2bin answers = .ok next) : Quiescent next := by
  have hfirst {other : RetCode} : run.ret.lor other = RetCode.ok → run.ret = RetCode.ok :=
    fun hok ↦ (RetCode.lor_eq_ok.mp hok).1
  have hrunning := h.running
  unfold RouterRun.mainStep at hstep
  cases hpoint : run.point with
  | webSocketInit =>
    simp only [hpoint] at hstep hrunning
    cases hstep
    exact { h with running := hrunning.other hfirst (by decide) }
  | registerCloud =>
    simp only [hpoint] at hstep
    exact h.register hregistry (by rw [hpoint]; rfl) (by decide) hstep
  | webSocketConnect =>
    simp only [hpoint] at hstep
    cases hstep
    exact { h with
      holds := ⟨h.holds.readPos, h.holds.totalRead, h.holds.fits, h.holds.slice⟩
      running := .last fun hok ↦ by simp [(RetCode.lor_eq_ok.mp hok).2] }
  | bleInit =>
    simp only [hpoint] at hstep hrunning
    obtain ⟨⟨ret, ble⟩, hinit, hnext⟩ := bind_eq_ok.mp hstep
    cases hnext
    exact { h with running := hrunning.other hfirst (by decide) }
  | registerBle =>
    simp only [hpoint] at hstep
    exact h.register hregistry (by rw [hpoint]; rfl) (by decide) hstep
  | uartInit =>
    simp only [hpoint] at hstep hrunning
    cases hstep
    refine { h with
      running := hrunning.other hfirst (by decide)
      port := ?_ }
    obtain ⟨uartBuf, cells, hcreated⟩ | hattends := h.port
    · obtain ⟨-, -, config, -, hinit⟩ | ⟨-, ret, config, -, hinit⟩ :=
        Uart.init_cases instanceIdUartRs485 instanceIdCloud uartBuf cells none answers.uartReady
          answers.uartConfigured
      · rw [hcreated, hinit]
        exact .inr (.initial uartBuf cells)
      · rw [hcreated, hinit]
        exact .inl ⟨uartBuf, cells, rfl⟩
    · have hagain : run.rs485.init none answers.uartReady answers.uartConfigured =
          (.alreadyInitialized, run.rs485, none) := if_pos hattends.duplex.initialized
      rw [hagain]
      exact .inr hattends
  | registerUart =>
    simp only [hpoint] at hstep
    obtain ⟨last, hregister, hnext⟩ := bind_eq_ok.mp hstep
    cases hnext
    have hjoining : last.point = .joining := by
      obtain ⟨⟨ret, pkth⟩, -, hlast⟩ := bind_eq_ok.mp hregister
      cases hlast
      rfl
    have hlast := h.register hregistry (by rw [hpoint]; rfl) (by decide) hregister
    have hexecuted : MainPoint.executed (if last.ret ≠ .ok then .returned else .joining) =
        last.point.executed := by
      rw [hjoining]
      split_ifs <;> rfl
    exact { hlast with
      running := by
        rw [hexecuted]
        exact hlast.running }
  | joining =>
    simp only [hpoint] at hstep
    cases hstep
    exact h
  | returned =>
    simp only [hpoint] at hstep
    cases hstep
    exact h

/-- Quiet actions keep the router quiescent. -/
theorem step (h : Quiescent run) (hregistry : run.sys.Registered) {action : RouterAction}
    (hquiet : action.Quiet) (hstep : run.step hex2bin crc16_ccitt text action = .ok next) :
    Quiescent next := by
  cases hanswers : action.mainAnswers with
  | none =>
    have hidle : run.step hex2bin crc16_ccitt text action = .ok run := h.idle hquiet hanswers
    obtain rfl := Except.ok.inj (hidle.symm.trans hstep)
    exact h
  | some answers =>
    obtain rfl : action = .main answers := by
      cases action <;> cases hanswers
      rfl
    unfold RouterRun.step at hstep
    split_ifs at hstep
    · cases hstep
      exact h
    · exact h.mainStep hregistry hstep

/-- What `main` leaves behind attends to a dialogue. -/
theorem attends (h : Quiescent run) (hexplained : Explained crc16_ccitt run)
    (hjoins : run.point = .joining) (hok : run.ret = RetCode.ok) (hserving : Serving run) :
    ∃ cloud rs485, Attends crc16_ccitt cloud rs485 run .start := by
  obtain ⟨cloud, hcloud, -⟩ := hserving.handlers .sendMessage
  obtain ⟨rs485, hrs485, -⟩ := hserving.handlers .sendUartMessage
  refine ⟨cloud, rs485, ?_⟩
  constructor
  case toStanding => exact ⟨hexplained, hjoins, hserving.webSocket, hcloud, hrs485⟩
  case toFollows =>
    constructor
    case receiver =>
      have hexecuted : 3 ≤ run.point.executed := by
        rw [hjoins]
        decide
      exact ⟨h.running.done hok hexecuted, h.hasPktHandler, h.srcId, h.holds⟩
    case port =>
      obtain ⟨uartBuf, cells, hcreated⟩ | hattends := h.port
      · have hinit := hserving.rs485
        rw [hcreated] at hinit
        cases hinit
      · exact hattends
    case queue => exact h.queue
    case packets =>
      rw [h.accepted]
      rfl
    case workq => exact h.workq
    case held => exact h.results rs485 (PacketHandler.getHandler_spec hrs485).1
    case sent =>
      rw [RouterRun.sentMessages, h.sent]
      rfl
    case given => exact h.given

end Quiescent

def exchanges (count : ℕ) : List RouterAction :=
  (List.replicate count exchange).flatten

end CrownstoneRouter
