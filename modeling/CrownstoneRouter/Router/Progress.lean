import CrownstoneRouter.Router.Actors

/-!
# The progress of `main`

`main` sets up one object after the other, whatever has become of those before, and looks at the
results behind the last one. What it has set up and registered at each of its statements is an
invariant of the router, and what it does is that of a machine with the answers as its input.
-/

namespace CrownstoneRouter

open CheckedMemory CheckedRun

variable {hex2bin : Hex2Bin} {crc16_ccitt : UInt16 → List UInt8 → UInt16} {text : BtAddrText}

/-! ## The statements of `main` -/

namespace MainPoint

def statements : List MainPoint :=
  [.webSocketInit, .registerCloud, .webSocketConnect, .bleInit, .registerBle, .uartInit,
    .registerUart]

/-- How many of them have been executed. -/
def executed : MainPoint → ℕ
  | .webSocketInit => 0
  | .registerCloud => 1
  | .webSocketConnect => 2
  | .bleInit => 3
  | .registerBle => 4
  | .uartInit => 5
  | .registerUart => 6
  | .joining | .returned => 7

/-- The calls to the system that a statement makes do not fail. -/
def Succeeds (answers : MainAnswers) : MainPoint → Prop
  | .webSocketInit => 0 ≤ answers.sockId
  | .webSocketConnect => 0 ≤ answers.connected ∧ 0 ≤ answers.websockId
  | .bleInit => answers.btEnable = 0
  | .uartInit => answers.uartReady = true ∧ answers.uartConfigured = 0
  | .registerCloud | .registerBle | .registerUart | .joining | .returned => True

instance (answers : MainAnswers) : ∀ point, Decidable (Succeeds answers point)
  | .webSocketInit => inferInstanceAs (Decidable (_ ≤ _))
  | .webSocketConnect => inferInstanceAs (Decidable (_ ∧ _))
  | .bleInit => inferInstanceAs (Decidable (_ = _))
  | .uartInit => inferInstanceAs (Decidable (_ ∧ _))
  | .registerCloud | .registerBle | .registerUart | .joining | .returned =>
      inferInstanceAs (Decidable True)

/-- The ids that handlers have been registered for. -/
def registeredIds : MainPoint → List InstanceId
  | .webSocketInit | .registerCloud => []
  | .webSocketConnect | .bleInit | .registerBle => [instanceIdCloud]
  | .uartInit | .registerUart => [instanceIdCloud, instanceIdBlePeripheral]
  | .joining | .returned => [instanceIdCloud, instanceIdBlePeripheral, instanceIdUartRs485]

/-- The point behind a statement, where everything has succeeded so far or not. -/
def behind (ok : Bool) : MainPoint → MainPoint
  | .webSocketInit => .registerCloud
  | .registerCloud => .webSocketConnect
  | .webSocketConnect => .bleInit
  | .bleInit => .registerBle
  | .registerBle => .uartInit
  | .uartInit => .registerUart
  | .registerUart => if ok then .joining else .returned
  | .joining => .joining
  | .returned => .returned

end MainPoint

/-! ## Progress -/

theorem RetCode.lor_eq_ok {ret other : RetCode} :
    ret.lor other = RetCode.ok ↔ ret = .ok ∧ other = .ok := by
  change Int.lor ret other = 0 ↔ ret = 0 ∧ other = 0
  cases ret with
  | ofNat m => cases other <;> simp [Int.lor]
  | negSucc m => cases other <;> simp [Int.lor]

theorem Socket.ret_keepId (sock : Socket) (sockId : ℤ) :
    (sock.keepId sockId).1 = .ok ↔ 0 ≤ sockId := by
  have hfailed : RetCode.socketCreationFailed ≠ .ok := by decide
  unfold keepId
  split_ifs with hsock
  · exact iff_of_false hfailed (not_le.mpr hsock)
  · exact iff_of_true rfl (not_lt.mp hsock)

theorem Socket.initPeer_ret (sock : Socket) (peerName : List UInt8) (ipVer : SocketIp)
    (port : UInt16) (parsed : InetPton) (sockId : ℤ) :
    ((sock.initPeer peerName ipVer port parsed sockId).1 = .ok ↔ 0 ≤ sockId) ∧
      (0 ≤ sockId → (sock.initPeer peerName ipVer port parsed sockId).2.1.initialized = true) := by
  refine ⟨ret_keepId _ sockId, fun hsock ↦ ?_⟩
  simp [initPeer, hsock]

theorem WebSocket.initialized_close (ws : WebSocket) :
    ws.close.2.1.initialized = ws.initialized := by
  cases hinit : ws.initialized with
  | false => simp [close, hinit]
  | true =>
    simp only [close, Socket.close, hinit, Bool.not_true, Bool.false_eq_true, if_false]
    by_cases hsock : 0 ≤ ws.sockId
    · simp [hsock]
    · simp [hsock, hinit]

/-- What a connection returns and sets. -/
theorem WebSocket.connect_ret (ws : WebSocket) (url : Option (List UInt8))
    (connected websockId : ℤ) :
    ((ws.connect url connected websockId).1 = .ok ↔
        ws.initialized = true ∧ 0 ≤ connected ∧ 0 ≤ websockId) ∧
      (ws.connect url connected websockId).2.1.initialized = ws.initialized ∧
      ((ws.connect url connected websockId).1 = .ok →
        (ws.connect url connected websockId).2.1.connectedEvent = true) := by
  have hnot : RetCode.notInitialized ≠ .ok := by decide
  have hrefused : RetCode.socketConnectFailed ≠ .ok := by decide
  have hfailed : RetCode.socketWebsocketConnectFailed ≠ .ok := by decide
  unfold connect
  cases hinit : ws.initialized with
  | false => simp [hnot, hinit]
  | true =>
    by_cases hconnected : connected < 0
    · simp [hrefused, hinit, hconnected]
    · by_cases hwebsock : websockId < 0
      · have hclosed := initialized_close { ws with connectedEvent := false, websockId }
        simp [hfailed, hinit, hconnected, hwebsock, hclosed, not_le.mpr hwebsock]
      · simp [hinit, hconnected, hwebsock, not_lt.mp hconnected, not_lt.mp hwebsock]

/-- A new driver is initialized if the stack is enabled. -/
theorem BleDriver.init_ret {ble next : BleDriver} {baseUuid : Option (List UInt8)}
    {hasPktHandler : Bool} {btEnable : ℤ} {uuid128Buf : Buffer UInt8 btUuidSize128} {ret : RetCode}
    (hnew : ble.initialized = false)
    (h : ble.init hex2bin baseUuid hasPktHandler btEnable uuid128Buf = .ok (ret, next)) :
    (ret = .ok ↔ btEnable = 0) ∧ (ret = .ok → next.initialized = true) := by
  unfold init at h
  rw [if_neg (by simp [hnew])] at h
  split_ifs at h with henable
  · cases h
    exact ⟨iff_of_false (by decide) henable, fun hok ↦ absurd hok (by decide)⟩
  · obtain ⟨uuidBase, -, h⟩ := bind_eq_ok.mp h
    obtain ⟨uuidCcc, -, h⟩ := bind_eq_ok.mp h
    cases h
    exact ⟨iff_of_true rfl (not_not.mp henable), fun _ ↦ rfl⟩

/-- A new port is initialized with its default configuration if the device takes it. -/
theorem Uart.init_ret {uart : Uart} (hnew : uart.initialized = false) (ready : Bool)
    (configured : ℤ) :
    ((uart.init none ready configured).1 = .ok ↔ ready = true ∧ configured = 0) ∧
      ((uart.init none ready configured).1 = .ok →
        (uart.init none ready configured).2.1.initialized = true) := by
  have hnotReady : RetCode.deviceNotReady ≠ .ok := by decide
  have hfailed : RetCode.uartConfigFailed ≠ .ok := by decide
  unfold init
  rw [if_neg (by simp [hnew])]
  cases ready with
  | false => simp [hnotReady]
  | true =>
    by_cases hconfigured : configured = 0
    · simp [uartCfg, hconfigured]
    · simp [uartCfg, hconfigured, hfailed]

/-- A flag is set by the last one of some statements, if that succeeds, and not before. -/
structure SetUp (statements executed : ℕ) (ret : RetCode) (flag : Bool) : Prop where
  early : flag = true → statements ≤ executed
  done : ret = .ok → statements ≤ executed → flag = true

namespace SetUp

variable {statements executed : ℕ} {ret after : RetCode} {flag : Bool}

theorem other (h : SetUp statements executed ret flag) (hret : after = .ok → ret = .ok)
    (hother : executed + 1 ≠ statements) : SetUp statements (executed + 1) after flag where
  early hflag := Nat.le_succ_of_le (h.early hflag)
  done hafter hle := h.done (hret hafter) (Nat.lt_succ_iff.mp (lt_of_le_of_ne hle hother.symm))

theorem last (hflag : after = .ok → flag = true) : SetUp statements statements after flag where
  early _ := le_rfl
  done hafter _ := hflag hafter

end SetUp

/-- What has been set up at some point of `main`. -/
structure Progressing (run : RouterRun) : Prop where
  registered : ∀ instId,
    (run.sys.pkth.getHandler instId).isSome = true ↔ instId ∈ run.point.registeredIds
  handlerCtr : run.sys.pkth.handlerCtr = run.point.registeredIds.length
  webSocket : SetUp 1 run.point.executed run.ret run.webSocket.initialized
  connected : SetUp 3 run.point.executed run.ret run.webSocket.connectedEvent
  ble : SetUp 4 run.point.executed run.ret run.ble.initialized
  rs485 : SetUp 6 run.point.executed run.ret run.rs485.initialized

namespace Progressing

variable {run next : RouterRun}

theorem boot (memory : MainMemory) (waited : RetCode) : Progressing (.boot memory waited) where
  registered instId := by
    have hnone : (RouterRun.boot memory waited).sys.pkth.findSlot instId = none :=
      PacketHandler.findSlot_eq_none.mpr fun slot hused ↦ absurd hused (Nat.not_lt_zero slot.val)
    rw [PacketHandler.getHandler_of_initialized rfl, hnone]
    exact ⟨nofun, nofun⟩
  handlerCtr := rfl
  webSocket := ⟨nofun, nofun⟩
  connected := ⟨nofun, nofun⟩
  ble := ⟨nofun, nofun⟩
  rs485 := ⟨nofun, nofun⟩

theorem undisturbed (h : Progressing run) (hsame : run.Undisturbed next) : Progressing next where
  registered instId := by
    rw [hsame.handlers.getHandler, hsame.point]
    exact h.registered instId
  handlerCtr := by
    rw [hsame.handlers.handlerCtr, hsame.point]
    exact h.handlerCtr
  webSocket := by
    rw [hsame.ret, hsame.point, hsame.webSocket]
    exact h.webSocket
  connected := by
    rw [hsame.ret, hsame.point, hsame.webSocket]
    exact h.connected
  ble := by
    rw [hsame.ret, hsame.point, hsame.ble]
    exact h.ble
  rs485 := by
    rw [hsame.ret, hsame.point, hsame.rs485]
    exact h.rs485

/-- A registration with a new id succeeds. -/
theorem register (h : Progressing run) (hregistry : run.sys.Registered) {instId : InstanceId}
    {address : Address} {point : MainPoint} (hnew : instId ∉ run.point.registeredIds)
    (hids : point.registeredIds = run.point.registeredIds ++ [instId])
    (hroom : run.point.registeredIds.length < packetHandlers)
    (hexecuted : point.executed = run.point.executed + 1)
    (hothers : point.executed ∉ [1, 3, 4, 6])
    (hstep : run.register instId address point = .ok next) :
    Progressing next ∧ next.point = point ∧ (next.ret = .ok ↔ run.ret = RetCode.ok) := by
  have habsent : run.sys.pkth.findSlot instId = none := by
    have hnone := mt (h.registered instId).mp hnew
    rw [PacketHandler.getHandler_of_initialized hregistry.initialized] at hnone
    exact Option.not_isSome_iff_eq_none.mp hnone
  have hfree : run.sys.pkth.handlerCtr < packetHandlers := by rwa [h.handlerCtr]
  rw [RouterRun.register, PacketHandler.registerHandler_of_absent hregistry.initialized habsent
    hfree] at hstep
  cases hstep
  have hret : run.ret.lor RetCode.ok = RetCode.ok ↔ run.ret = .ok := by
    rw [RetCode.lor_eq_ok]
    exact and_iff_left rfl
  simp only [List.mem_cons, List.not_mem_nil, or_false, not_or] at hothers
  obtain ⟨hone, hthree, hfour, hsix⟩ := hothers
  rw [hexecuted] at hone hthree hfour hsix
  refine ⟨?_, rfl, hret⟩
  constructor
  case registered =>
    intro other
    have hbefore := h.registered other
    rw [PacketHandler.getHandler_of_initialized hregistry.initialized] at hbefore
    have hinit : (run.sys.pkth.append hfree
        (PacketHandler.newHandler instId address address)).initialized = true :=
      hregistry.initialized
    rw [hids, List.mem_append, List.mem_singleton, ← hbefore,
      PacketHandler.getHandler_of_initialized hinit]
    by_cases hother : other = instId
    · have hfound : (run.sys.pkth.append hfree
          (PacketHandler.newHandler instId address address)).findSlot other =
            some ⟨run.sys.pkth.handlerCtr, hfree⟩ := by
        rw [hother]
        exact PacketHandler.findSlot_append_self hregistry.distinct hfree habsent
      rw [hfound]
      exact iff_of_true rfl (.inr hother)
    · rw [PacketHandler.findSlot_append_of_ne hregistry.distinct hfree habsent hother]
      exact (or_iff_left hother).symm
  case handlerCtr =>
    rw [hids, List.length_append, ← h.handlerCtr]
    rfl
  case webSocket =>
    rw [hexecuted]
    exact h.webSocket.other hret.mp hone
  case connected =>
    rw [hexecuted]
    exact h.connected.other hret.mp hthree
  case ble =>
    rw [hexecuted]
    exact h.ble.other hret.mp hfour
  case rs485 =>
    rw [hexecuted]
    exact h.rs485.other hret.mp hsix

/-- A statement that registers nothing, and sets up at most one of the objects. -/
theorem advance (h : Progressing run) (hpkth : next.sys.pkth = run.sys.pkth)
    (hids : next.point.registeredIds = run.point.registeredIds)
    (hexecuted : next.point.executed = run.point.executed + 1)
    (hws : SetUp 1 (run.point.executed + 1) next.ret next.webSocket.initialized)
    (hconnected : SetUp 3 (run.point.executed + 1) next.ret next.webSocket.connectedEvent)
    (hble : SetUp 4 (run.point.executed + 1) next.ret next.ble.initialized)
    (hrs485 : SetUp 6 (run.point.executed + 1) next.ret next.rs485.initialized) :
    Progressing next where
  registered instId := by
    rw [hpkth, hids]
    exact h.registered instId
  handlerCtr := by
    rw [hpkth, hids]
    exact h.handlerCtr
  webSocket := by rwa [hexecuted]
  connected := by rwa [hexecuted]
  ble := by rwa [hexecuted]
  rs485 := by rwa [hexecuted]

/-- A statement of `main` sets up what it is there for, unless the return code tells. -/
theorem mainStep (h : Progressing run) (hregistry : run.sys.Registered) {answers : MainAnswers}
    (hstep : run.mainStep hex2bin answers = .ok next) :
    Progressing next ∧ (next.ret = .ok ↔ run.ret = RetCode.ok ∧ run.point.Succeeds answers) ∧
      next.point = run.point.behind (decide (next.ret = RetCode.ok)) := by
  have hfirst {other : RetCode} : run.ret.lor other = RetCode.ok → run.ret = RetCode.ok :=
    fun hok ↦ (RetCode.lor_eq_ok.mp hok).1
  have hws := h.webSocket
  have hconnected := h.connected
  have hble := h.ble
  have hrs485 := h.rs485
  unfold RouterRun.mainStep at hstep
  cases hpoint : run.point with
  | webSocketInit =>
    simp only [hpoint, MainPoint.executed] at hstep hconnected hble hrs485
    cases hstep
    obtain ⟨hret, hinit⟩ := run.webSocket.toSocket.initPeer_ret hostAddr .ipv4 hostPort
      answers.parsed answers.sockId
    refine ⟨h.advance rfl (by rw [hpoint]; rfl) (by rw [hpoint]; rfl) ?_ ?_ ?_ ?_, ?_, rfl⟩
    · rw [hpoint]
      exact .last fun hok ↦ hinit (hret.mp (RetCode.lor_eq_ok.mp hok).2)
    · rw [hpoint]
      exact hconnected.other hfirst (by decide)
    · rw [hpoint]
      exact hble.other hfirst (by decide)
    · rw [hpoint]
      exact hrs485.other hfirst (by decide)
    · exact RetCode.lor_eq_ok.trans (and_congr_right fun _ ↦ hret)
  | registerCloud =>
    simp only [hpoint] at hstep
    obtain ⟨hnext, hbehind, hret⟩ := h.register hregistry (by rw [hpoint]; decide)
      (by rw [hpoint]; rfl) (by rw [hpoint]; decide) (by rw [hpoint]; rfl) (by decide) hstep
    exact ⟨hnext, hret.trans (and_iff_left trivial).symm, hbehind⟩
  | webSocketConnect =>
    simp only [hpoint, MainPoint.executed] at hstep hws hble hrs485
    cases hstep
    obtain ⟨hret, hinit, hevent⟩ := run.webSocket.connect_ret none answers.connected
      answers.websockId
    refine ⟨h.advance rfl (by rw [hpoint]; rfl) (by rw [hpoint]; rfl) ?_ ?_ ?_ ?_, ?_, rfl⟩
    · rw [hpoint]
      change SetUp 1 3 _ (run.webSocket.connect none answers.connected
        answers.websockId).2.1.initialized
      rw [hinit]
      exact hws.other hfirst (by decide)
    · rw [hpoint]
      exact .last fun hok ↦ hevent (RetCode.lor_eq_ok.mp hok).2
    · rw [hpoint]
      exact hble.other hfirst (by decide)
    · rw [hpoint]
      exact hrs485.other hfirst (by decide)
    · refine RetCode.lor_eq_ok.trans (and_congr_right fun hok ↦ hret.trans ?_)
      exact and_iff_right (hws.done hok (by decide))
  | bleInit =>
    simp only [hpoint, MainPoint.executed] at hstep hws hconnected hble hrs485
    obtain ⟨⟨ret, ble⟩, hinit, hnext⟩ := bind_eq_ok.mp hstep
    cases hnext
    have hnew : run.ble.initialized = false :=
      Bool.eq_false_iff.mpr fun hset ↦ absurd (hble.early hset) (by decide)
    obtain ⟨hret, henabled⟩ := BleDriver.init_ret (by exact hnew) hinit
    refine ⟨h.advance rfl (by rw [hpoint]; rfl) (by rw [hpoint]; rfl) ?_ ?_ ?_ ?_, ?_, rfl⟩
    · rw [hpoint]
      exact hws.other hfirst (by decide)
    · rw [hpoint]
      exact hconnected.other hfirst (by decide)
    · rw [hpoint]
      exact .last fun hok ↦ henabled (RetCode.lor_eq_ok.mp hok).2
    · rw [hpoint]
      exact hrs485.other hfirst (by decide)
    · exact RetCode.lor_eq_ok.trans (and_congr_right fun _ ↦ hret)
  | registerBle =>
    simp only [hpoint] at hstep
    obtain ⟨hnext, hbehind, hret⟩ := h.register hregistry (by rw [hpoint]; decide)
      (by rw [hpoint]; rfl) (by rw [hpoint]; decide) (by rw [hpoint]; rfl) (by decide) hstep
    exact ⟨hnext, hret.trans (and_iff_left trivial).symm, hbehind⟩
  | uartInit =>
    simp only [hpoint, MainPoint.executed] at hstep hws hconnected hble hrs485
    cases hstep
    have hnew : run.rs485.initialized = false :=
      Bool.eq_false_iff.mpr fun hset ↦ absurd (hrs485.early hset) (by decide)
    obtain ⟨hret, hinit⟩ := Uart.init_ret hnew answers.uartReady answers.uartConfigured
    refine ⟨h.advance rfl (by rw [hpoint]; rfl) (by rw [hpoint]; rfl) ?_ ?_ ?_ ?_, ?_, rfl⟩
    · rw [hpoint]
      exact hws.other hfirst (by decide)
    · rw [hpoint]
      exact hconnected.other hfirst (by decide)
    · rw [hpoint]
      exact hble.other hfirst (by decide)
    · rw [hpoint]
      exact .last fun hok ↦ hinit (RetCode.lor_eq_ok.mp hok).2
    · exact RetCode.lor_eq_ok.trans (and_congr_right fun _ ↦ hret)
  | registerUart =>
    simp only [hpoint] at hstep
    obtain ⟨last, hregister, hnext⟩ := bind_eq_ok.mp hstep
    cases hnext
    obtain ⟨hlast, hjoining, hret⟩ := h.register hregistry (by rw [hpoint]; decide)
      (by rw [hpoint]; rfl) (by rw [hpoint]; decide) (by rw [hpoint]; rfl) (by decide) hregister
    have hids : MainPoint.registeredIds (if last.ret ≠ .ok then .returned else .joining) =
        last.point.registeredIds := by
      rw [hjoining]
      split_ifs <;> rfl
    have hexecuted : MainPoint.executed (if last.ret ≠ .ok then .returned else .joining) =
        last.point.executed := by
      rw [hjoining]
      split_ifs <;> rfl
    refine ⟨⟨?_, ?_, ?_, ?_, ?_, ?_⟩, hret.trans (and_iff_left trivial).symm, ?_⟩
    · rw [hids]
      exact hlast.registered
    · rw [hids]
      exact hlast.handlerCtr
    · rw [hexecuted]
      exact hlast.webSocket
    · rw [hexecuted]
      exact hlast.connected
    · rw [hexecuted]
      exact hlast.ble
    · rw [hexecuted]
      exact hlast.rs485
    · by_cases hok : last.ret = RetCode.ok
      · simp [hok, MainPoint.behind]
      · simp [hok, MainPoint.behind]
  | joining =>
    simp only [hpoint] at hstep
    cases hstep
    exact ⟨h, by simp [MainPoint.Succeeds], hpoint⟩
  | returned =>
    simp only [hpoint] at hstep
    cases hstep
    exact ⟨h, by simp [MainPoint.Succeeds], hpoint⟩

end Progressing

/-! ## The machine -/

/-- How far `main` is, and whether everything has succeeded so far. -/
structure Progress where
  point : MainPoint
  ok : Bool

namespace Progress

def next (progress : Progress) (answers : MainAnswers) : Progress :=
  let ok := progress.ok && decide (progress.point.Succeeds answers)
  { point := progress.point.behind ok, ok }

/-- What `main` does in one step. -/
def step (progress : Progress) (action : RouterAction) : Progress :=
  match action.mainAnswers with
  | some answers => progress.next answers
  | none => progress

def rest (progress : Progress) : List MainPoint :=
  MainPoint.statements.drop progress.point.executed

/-- Behind its statements `main` goes on exactly if everything has succeeded. -/
structure Decided (progress : Progress) : Prop where
  joining : progress.point = .joining → progress.ok = true
  returned : progress.point = .returned → progress.ok = false

variable {progress : Progress} {answers : MainAnswers}

theorem Decided.next (h : Decided progress) (answers : MainAnswers) :
    Decided (progress.next answers) := by
  obtain ⟨point, ok⟩ := progress
  obtain ⟨hjoining, hreturned⟩ := h
  cases point with
  | registerUart =>
    cases ok with
    | false => exact ⟨nofun, fun _ ↦ rfl⟩
    | true => exact ⟨fun _ ↦ rfl, nofun⟩
  | joining =>
    obtain rfl : ok = true := hjoining rfl
    exact ⟨fun _ ↦ rfl, nofun⟩
  | returned =>
    obtain rfl : ok = false := hreturned rfl
    exact ⟨nofun, fun _ ↦ rfl⟩
  | _ => exact ⟨nofun, nofun⟩

theorem rest_eq_cons (hjoining : progress.point ≠ .joining) (hreturned : progress.point ≠ .returned)
    (answers : MainAnswers) : progress.rest = progress.point :: (progress.next answers).rest := by
  obtain ⟨point, ok⟩ := progress
  cases point with
  | registerUart =>
    cases ok <;> rfl
  | joining => exact absurd rfl hjoining
  | returned => exact absurd rfl hreturned
  | _ => rfl

theorem next_of_end (hend : progress.point = .joining ∨ progress.point = .returned)
    (answers : MainAnswers) : progress.next answers = progress := by
  obtain ⟨point, ok⟩ := progress
  rcases hend with rfl | rfl <;> cases ok <;> rfl

theorem rest_of_end (hend : progress.point = .joining ∨ progress.point = .returned) :
    progress.rest = [] := by
  unfold rest
  rcases hend with hpoint | hpoint <;> rw [hpoint] <;> rfl

/-- Where `main` is after some answers. -/
theorem foldl_next (h : Decided progress) (all : List MainAnswers) :
    ((all.foldl next progress).point = .joining ↔ progress.ok = true ∧
        List.Forall₂ (fun point answers ↦ point.Succeeds answers) progress.rest
          (all.take progress.rest.length)) ∧
      ((all.foldl next progress).point = .returned ↔ progress.rest.length ≤ all.length ∧
        (all.foldl next progress).point ≠ .joining) := by
  induction all generalizing progress with
  | nil =>
    simp only [List.foldl_nil, List.take_nil, List.forall₂_nil_right_iff, List.length_nil,
      Nat.le_zero_eq, List.length_eq_zero_iff]
    obtain ⟨point, ok⟩ := progress
    cases point with
    | joining =>
      have hok : ok = true := h.joining rfl
      simp [rest, hok, MainPoint.executed, MainPoint.statements]
    | returned =>
      have hok : ok = false := h.returned rfl
      simp [rest, hok, MainPoint.executed, MainPoint.statements]
    | _ => simp [rest, MainPoint.executed, MainPoint.statements]
  | cons answers all ih =>
    rw [List.foldl_cons]
    by_cases hend : progress.point = .joining ∨ progress.point = .returned
    · rw [next_of_end hend]
      have hrest := ih h
      rw [rest_of_end hend] at hrest ⊢
      simpa using hrest
    · rw [not_or] at hend
      obtain ⟨hjoins, hreturns⟩ := ih (h.next answers)
      rw [hjoins, hreturns, rest_eq_cons hend.1 hend.2 answers, List.length_cons,
        List.take_succ_cons, List.forall₂_cons, List.length_cons, Nat.succ_le_succ_iff]
      refine ⟨?_, Iff.rfl⟩
      simp [next, and_assoc]

theorem foldl_step (actions : List RouterAction) (progress : Progress) :
    actions.foldl step progress =
      (actions.filterMap RouterAction.mainAnswers).foldl next progress := by
  rw [List.foldl_filterMap]
  congr 1
  funext progress action
  unfold step
  cases action.mainAnswers <;> rfl

end Progress

/-- The state of `main` is what the machine says. -/
structure Tracked (crc16_ccitt : UInt16 → List UInt8 → UInt16) (run : RouterRun)
    (progress : Progress) : Prop where
  explained : Explained crc16_ccitt run
  progressing : Progressing run
  decided : progress.Decided
  point : run.point = progress.point
  ret : run.ret = RetCode.ok ↔ progress.ok = true

theorem Tracked.step {run next : RouterRun} {progress : Progress} {action : RouterAction}
    (h : Tracked crc16_ccitt run progress)
    (hstep : run.step hex2bin crc16_ccitt text action = .ok next) :
    Tracked crc16_ccitt next (progress.step action) := by
  have hexplained := h.explained.step hstep
  cases hanswers : action.mainAnswers with
  | none =>
    have hsame := RouterRun.Undisturbed.of_step hanswers hstep
    rw [Progress.step, hanswers]
    exact ⟨hexplained, h.progressing.undisturbed hsame, h.decided, hsame.point.trans h.point,
      hsame.ret ▸ h.ret⟩
  | some answers =>
    obtain rfl : action = .main answers := by
      cases action <;> cases hanswers
      rfl
    rw [Progress.step, hanswers]
    unfold RouterRun.step at hstep
    split_ifs at hstep with hreturned
    · cases hstep
      have hend : progress.point = .joining ∨ progress.point = .returned :=
        .inr (h.point.symm.trans hreturned)
      simp only [Progress.next_of_end hend]
      exact h
    · obtain ⟨hprogressing, hret, hpoint⟩ :=
        h.progressing.mainStep h.explained.toRegistered hstep
      have hok : next.ret = RetCode.ok ↔ (progress.next answers).ok = true := by
        rw [hret, h.ret, h.point]
        simp [Progress.next]
      refine ⟨hexplained, hprogressing, h.decided.next answers, ?_, hok⟩
      rw [hpoint, h.point]
      simp only [Progress.next] at hok ⊢
      congr 1
      rw [Bool.eq_iff_iff, decide_eq_true_iff]
      exact hok

theorem tracked_boot (memory : MainMemory) (waited : RetCode) :
    Tracked crc16_ccitt (.boot memory waited)
      { point := .webSocketInit, ok := decide (waited = RetCode.ok) } where
  explained := .boot memory waited
  progressing := .boot memory waited
  decided := ⟨nofun, nofun⟩
  point := rfl
  ret := decide_eq_true_iff.symm

end CrownstoneRouter
