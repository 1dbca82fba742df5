import CrownstoneRouter.Router.Progress

/-!
# Bringing up the router

The actors that `main` has started are at work while it goes on. They do not keep it from its end,
but the packet thread uses the handlers of its packets whether they have been registered or not.
-/

namespace CrownstoneRouter

open CheckedMemory CheckedRun

variable {hex2bin : Hex2Bin} {crc16_ccitt : UInt16 → List UInt8 → UInt16} {text : BtAddrText}

/-- The websocket is connected, the drivers are initialized, and each of the ids of `main` has a
handler with its transport. -/
structure Serving (run : RouterRun) : Prop where
  webSocket : run.webSocket.initialized = true ∧ run.webSocket.connectedEvent = true
  ble : run.ble.initialized = true
  rs485 : run.rs485.initialized = true
  handlers : ∀ transport : Transport, ∃ slot, run.sys.pkth.getHandler transport.owner = some slot ∧
    Transport.ofAddress (run.sys.handler slot).workItem.handler = some transport

theorem Explained.callback_of_getHandler {run : RouterRun} {transport : Transport}
    {slot : Slot} (h : Explained crc16_ccitt run)
    (hfound : run.sys.pkth.getHandler transport.owner = some slot) :
    Transport.ofAddress (run.sys.handler slot).workItem.handler = some transport := by
  obtain ⟨hused, hid⟩ := PacketHandler.getHandler_spec hfound
  obtain ⟨other, hcallback, hother⟩ := h.transport slot hused
  have howner : other.owner = transport.owner := hother.symm.trans hid
  have hsame : other = transport := by
    cases other <;> cases transport <;> first | rfl | exact absurd howner (by decide)
  rw [hcallback, hsame]

/-- When `main` waits for its threads, everything serves. -/
theorem Tracked.serving {run : RouterRun} {progress : Progress}
    (h : Tracked crc16_ccitt run progress) (hjoins : run.point = .joining) :
    run.ret = RetCode.ok ∧ Serving run := by
  have hok : run.ret = RetCode.ok := h.ret.mpr (h.decided.joining (h.point.symm.trans hjoins))
  have hprogressing := h.progressing
  have hexecuted : run.point.executed = 7 := by
    rw [hjoins]
    rfl
  refine ⟨hok, ?_⟩
  constructor
  case webSocket =>
    exact ⟨hprogressing.webSocket.done hok (by rw [hexecuted]; decide),
      hprogressing.connected.done hok (by rw [hexecuted]; decide)⟩
  case ble => exact hprogressing.ble.done hok (by rw [hexecuted]; decide)
  case rs485 => exact hprogressing.rs485.done hok (by rw [hexecuted]; decide)
  case handlers =>
    intro transport
    have hregistered : transport.owner ∈ run.point.registeredIds := by
      rw [hjoins]
      cases transport <;> decide
    obtain ⟨slot, hfound⟩ :=
      Option.isSome_iff_exists.mp ((hprogressing.registered transport.owner).mpr hregistered)
    exact ⟨slot, hfound, h.explained.callback_of_getHandler hfound⟩

/-- **Bring-up.** However the actors that `main` has started interleave with it inside the memory,
`main` comes to wait for its threads exactly if the wait for the Wi-Fi connection and the calls of
all its statements succeed, and then everything serves; behind its statements it returns
otherwise. -/
theorem main_joins_iff {memory : MainMemory} {waited : RetCode} {actions : List RouterAction}
    {last : RouterRun}
    (hrun : run (RouterRun.step hex2bin crc16_ccitt text) (.boot memory waited) actions =
      .ok last) :
    (last.point = .joining ↔ waited = RetCode.ok ∧
        List.Forall₂ (fun point answers ↦ point.Succeeds answers) MainPoint.statements
          ((actions.filterMap RouterAction.mainAnswers).take MainPoint.statements.length)) ∧
      (last.point = .returned ↔
        MainPoint.statements.length ≤ (actions.filterMap RouterAction.mainAnswers).length ∧
          last.point ≠ .joining) ∧
      (last.point = .joining → Serving last) := by
  have htracked : Tracked crc16_ccitt last
      (actions.foldl Progress.step ⟨.webSocketInit, decide (waited = RetCode.ok)⟩) :=
    run_refines (Tracked crc16_ccitt) (fun h hstep ↦ h.step hstep) (tracked_boot memory waited) hrun
  have hstart : Tracked crc16_ccitt (.boot memory waited) _ := tracked_boot memory waited
  obtain ⟨hjoining, hreturned⟩ :=
    Progress.foldl_next hstart.decided (actions.filterMap RouterAction.mainAnswers)
  rw [← Progress.foldl_step, ← htracked.point] at hjoining hreturned
  exact ⟨hjoining.trans (and_congr_left' decide_eq_true_iff), hreturned,
    fun hjoins ↦ (htracked.serving hjoins).2⟩

/-- `main` with a message of the cloud and a round of the packet thread in between. -/
def interruptedBringUp : List RouterAction :=
  List.replicate 4 (.main succeedingMain) ++
    [.receive (.stored (genericFrame genericTypeData (dataFrame instanceIdCloud [7])) 0),
      .packetThread] ++ List.replicate 3 (.main succeedingMain)

/-- A start at which every call succeeds. -/
theorem main_joins_of_success :
    ∃ last, run (RouterRun.step zephyrHex2bin zephyrCrc16Ccitt zephyrText)
        (.boot zeroedMemory .ok) interruptedBringUp = .ok last ∧
      last.point = .joining ∧ Serving last := by
  obtain ⟨last, hrun⟩ : ∃ last, run (RouterRun.step zephyrHex2bin zephyrCrc16Ccitt zephyrText)
      (.boot zeroedMemory .ok) interruptedBringUp = .ok last := ⟨_, rfl⟩
  obtain ⟨hjoining, -, hserving⟩ := main_joins_iff hrun
  have hjoins := hjoining.mpr ⟨rfl, by decide +kernel⟩
  exact ⟨last, hrun, hjoins, hserving hjoins⟩

/-! ## Handlers that are not registered yet -/

/-- The id whose handler the packet thread uses for a packet. -/
def PacketData.neededId (data : PacketData) : Option InstanceId :=
  match data.type with
  | .incoming => if Loadable data ∧ IsControl data then some (incomingControl data).destId else none
  | .outgoing => some data.srcId

/-- Whoever is registered for data to be reported, the cloud is. -/
theorem MainPoint.cloud_mem_registeredIds {point : MainPoint} {instId : InstanceId}
    (h : instId ∈ point.registeredIds) : instanceIdCloud ∈ point.registeredIds := by
  cases point <;> simp [registeredIds] at h ⊢

/-- A packet makes the packet thread use a null pointer exactly if its handler is missing. -/
theorem handlePacketData_eq_nullPointer_iff {sys : System} {ids : List InstanceId}
    (hids : ∀ instId, (sys.pkth.getHandler instId).isSome = true ↔ instId ∈ ids)
    (hcloud : ∀ instId ∈ ids, instanceIdCloud ∈ ids) {data : PacketData}
    (hreport : ReportsToCloud data) :
    handlePacketData crc16_ccitt sys data = .error .nullPointer ↔
      ∃ instId, data.neededId = some instId ∧ instId ∉ ids := by
  have hmissing (instId : InstanceId) : sys.pkth.getHandler instId = none ↔ instId ∉ ids := by
    rw [← hids, Option.not_isSome_iff_eq_none]
  cases htype : data.type with
  | incoming =>
    simp only [handlePacketData, PacketData.neededId, htype, handleIncomingPacket_eq]
    by_cases hloadable : Loadable data
    · by_cases hcontrol : IsControl data
      · simp only [hloadable, hcontrol, and_self, if_true, Option.some.injEq, exists_eq_left',
          ← hmissing]
        cases hdest : sys.pkth.getHandler (incomingControl data).destId with
        | none => simp
        | some slot =>
          simp only [reduceCtorEq, iff_false]
          split_ifs <;> simp
      · simp [hloadable, hcontrol]
    · simp [hloadable]
  | outgoing =>
    simp only [handlePacketData, PacketData.neededId, htype, handleOutgoingPacket_eq,
      Option.some.injEq, exists_eq_left', ← hmissing]
    cases hsource : sys.pkth.getHandler data.srcId with
    | none => simp
    | some source =>
      have hsourceId : data.srcId ∈ ids := (hids data.srcId).mp (by rw [hsource]; rfl)
      obtain ⟨slot, hdest⟩ : ∃ slot, sys.pkth.getHandler data.destId = some slot := by
        rw [(hreport htype).1]
        exact Option.isSome_iff_exists.mp ((hids instanceIdCloud).mpr (hcloud _ hsourceId))
      simp only [hdest, reduceCtorEq, iff_false]
      split_ifs <;> simp

theorem RouterRun.packetThread_of_get {run : RouterRun} {data : PacketData}
    {pkthMsgq : RingQueue PacketData (msgqBufSize / sizeofPacketData)}
    (hget : run.sys.pkth.pkthMsgq.get = .ok (some data, pkthMsgq)) :
    run.packetThread crc16_ccitt = (handlePacketData crc16_ccitt
      { run.sys with pkth := { run.sys.pkth with pkthMsgq } } data).bind fun sys ↦
        .ok { run with sys, handled := run.handled ++ [data] } := by
  simp [RouterRun.packetThread, PacketHandler.getPacket, hget, bind, pure, Except.pure]

/-- **The race at the start.** In every state that the router reaches from power-on, the packet
thread uses a null pointer exactly if the next packet needs a handler that `main` has not registered
by then: data of a peripheral whose driver is at work already, or a control packet for whomever the
cloud names. -/
theorem packetThread_uses_null_iff {memory : MainMemory} {waited : RetCode}
    {actions : List RouterAction} {last : RouterRun}
    (hrun : run (RouterRun.step hex2bin crc16_ccitt text) (.boot memory waited) actions =
      .ok last) :
    last.packetThread crc16_ccitt = .error .nullPointer ↔
      ∃ data instId, last.accepted[last.handled.length]? = some data ∧
        data.neededId = some instId ∧ instId ∉ last.point.registeredIds := by
  have htracked : Tracked crc16_ccitt last
      (actions.foldl Progress.step ⟨.webSocketInit, decide (waited = RetCode.ok)⟩) :=
    run_refines (Tracked crc16_ccitt) (fun h hstep ↦ h.step hstep) (tracked_boot memory waited) hrun
  obtain ⟨queued, hqueued, haccepted⟩ := htracked.explained.queue
  have hnext : last.accepted[last.handled.length]? = queued.head? := by
    rw [haccepted, List.getElem?_append_right le_rfl, Nat.sub_self, List.head?_eq_getElem?]
  rw [hnext]
  cases queued with
  | nil =>
    have hget := hqueued.get_nil
    simp [RouterRun.packetThread, PacketHandler.getPacket, hget, bind, pure, Except.pure]
  | cons data rest =>
    obtain ⟨pkthMsgq, hget, -⟩ := hqueued.get_cons
    have hreport : ReportsToCloud data := htracked.explained.accepted data (by simp [haccepted])
    have hids (instId : InstanceId) :
        (({ last.sys.pkth with pkthMsgq } : PacketHandler).getHandler instId).isSome = true ↔
          instId ∈ last.point.registeredIds := htracked.progressing.registered instId
    have hdispatch := @handlePacketData_eq_nullPointer_iff crc16_ccitt
      { last.sys with pkth := { last.sys.pkth with pkthMsgq } } _ hids
      (fun _ hmem ↦ MainPoint.cloud_mem_registeredIds hmem) data hreport
    simp only [List.head?_cons, Option.some.injEq, exists_and_left, exists_eq_left']
    rw [← hdispatch, RouterRun.packetThread_of_get hget]
    cases handlePacketData crc16_ccitt { last.sys with pkth := { last.sys.pkth with pkthMsgq } }
        data with
    | error fault => simp
    | ok sys => simp

def earlyLine : List RouterAction :=
  List.replicate 6 (.main succeedingMain) ++
    [.interrupt (.received 0x68), .interrupt (.received lineFeed), .uartThread]

/-- The line makes the packet thread use a null pointer. -/
theorem earlyLine_uses_null :
    ∃ last, run (RouterRun.step zephyrHex2bin zephyrCrc16Ccitt zephyrText)
        (.boot zeroedMemory .ok) earlyLine = .ok last ∧
      last.packetThread zephyrCrc16Ccitt = .error .nullPointer := by
  obtain ⟨last, hrun, hneeded⟩ : ∃ last,
      run (RouterRun.step zephyrHex2bin zephyrCrc16Ccitt zephyrText) (.boot zeroedMemory .ok)
        earlyLine = .ok last ∧
      ∃ data instId, last.accepted[last.handled.length]? = some data ∧
        data.neededId = some instId ∧ instId ∉ last.point.registeredIds :=
    ⟨_, rfl, _, _, rfl, rfl, by decide +kernel⟩
  exact ⟨last, hrun, (packetThread_uses_null_iff hrun).mpr hneeded⟩

end CrownstoneRouter
