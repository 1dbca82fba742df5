import CrownstoneRouter.Drivers.BleAddress
import CrownstoneRouter.Foundation.Transition

/-!
# The connection of the Bluetooth driver

A scan for a target, the creation of a connection, its result and its end each happen in a callback
of their own, and failures start the next scan from inside these callbacks. Here they are taken in
any order. The stack knows the peer of every connection that it has created.

Two invariants of this machine are studied: the connection leads to the target of the driver, which
always holds, and the event that announces an available driver is set while there is no connection,
which holds exactly as long as no connection is created.
-/

namespace CrownstoneRouter

open CheckedMemory CheckedRun BleDriver

/-- What happens to the connection of the driver. -/
inductive LinkAction
  | connect (deviceAddr : List UInt8)
  | deviceFound (addr : BtAddr) (type : UInt8)
  | connectionResult (conn : ℕ) (connErr : UInt8)
  | disconnected (conn : ℕ) (reason : UInt8)

/-- An action and what the stack answers meanwhile. -/
structure LinkEvent where
  action : LinkAction
  answers : BtAnswers

/-- The event at the driver. The address that comes with a connection is that of its peer. -/
def LinkEvent.atDriver (event : LinkEvent) (peer : ℕ → BtAddr) : BleEvent where
  action :=
    match event.action with
    | .connect deviceAddr => .connect (.ok deviceAddr)
    | .deviceFound addr type => .deviceFound addr type
    | .connectionResult conn connErr => .connectionResult conn connErr (peer conn)
    | .disconnected conn reason => .disconnected conn reason (peer conn)
  answers := event.answers

namespace BleDriver

/-- A report of a device makes the stack create a connection. -/
def Creates (ble : BleDriver) (addr : BtAddr) (type : UInt8) (bt : BtAnswers) : Prop :=
  (type = advTypeInd ∨ type = advTypeDirectInd) ∧ addr = ble.devAddr ∧ bt.scanStop = 0 ∧
    bt.connCreate = 0

instance (ble : BleDriver) (addr : BtAddr) (type : UInt8) (bt : BtAnswers) :
    Decidable (ble.Creates addr type bt) :=
  inferInstanceAs (Decidable (_ ∧ _ ∧ _ ∧ _))

end BleDriver

/-- A driver, and the peers of the connections that have been created. -/
structure LinkRun where
  ble : BleDriver
  peer : ℕ → BtAddr

namespace LinkRun

variable (text : BtAddrText)

/-- The peers after an event. -/
def peerAfter (run : LinkRun) (event : LinkEvent) : ℕ → BtAddr :=
  match event.action with
  | .deviceFound addr type =>
      if run.ble.Creates addr type event.answers then
        Function.update run.peer event.answers.conn addr
      else run.peer
  | .connect _ | .connectionResult _ _ | .disconnected _ _ => run.peer

def step (run : LinkRun) (event : LinkEvent) : Checked LinkRun := do
  let (ble, _) ← run.ble.perform text (event.atDriver run.peer)
  return { ble, peer := run.peerAfter event }

/-! ## The target -/

/-- The connection leads to the target. -/
def FollowsTarget (run : LinkRun) : Prop :=
  ∀ conn, run.ble.conn = some conn → run.peer conn = run.ble.devAddr

/-- The result of a connection is reported for the connection that the driver holds. -/
def ResultOfHeld (run : LinkRun) (event : LinkEvent) : Prop :=
  match event.action with
  | .connectionResult conn _ => run.ble.conn = some conn
  | .connect _ | .deviceFound _ _ | .disconnected _ _ => True

/-- The device whose connection fails or is lost in an event. -/
def lostDevice (run : LinkRun) (event : LinkEvent) : Option BtAddr :=
  match event.action with
  | .connect _ => none
  | .deviceFound addr _ => some addr
  | .connectionResult conn _ | .disconnected conn _ => some (run.peer conn)

/-- A scan that a callback starts looks for the device whose connection has failed or is lost. -/
def RescansLost (run : LinkRun) (event : LinkEvent) : Prop :=
  ∀ next calls, run.ble.perform text (event.atDriver run.peer) = .ok (next, calls) →
    ∀ addr, run.lostDevice event = some addr → .scanStart ∈ calls →
      next.devAddr = addr ∧ .acceptListAdd addr ∈ calls ∧
        ∀ other, .acceptListAdd other ∈ calls → other = addr

instance (run : LinkRun) : ∀ event, Decidable (run.ResultOfHeld event)
  | { action := .connectionResult _ _, answers := _ } => inferInstanceAs (Decidable (_ = _))
  | { action := .connect _, answers := _ } | { action := .deviceFound _ _, answers := _ }
  | { action := .disconnected _ _, answers := _ } => inferInstanceAs (Decidable True)

variable {text} {run next : LinkRun} {event : LinkEvent}

/-- A report of a device creates a connection, does nothing but stop the scan, or scans again for
the same device. -/
theorem deviceFound_cases {ble after : BleDriver} {addr : BtAddr} {type : UInt8} {bt : BtAnswers}
    {calls : List BleCall}
    (h : ble.handleBleDeviceFound text addr type bt = .ok (after, calls)) :
    (ble.Creates addr type bt ∧ after = { ble with conn := some bt.conn } ∧
      calls = [.scanStop, .connCreate addr]) ∨
    (¬ ble.Creates addr type bt ∧ after = ble ∧ .scanStart ∉ calls) ∨
    (¬ ble.Creates addr type bt ∧ addr = ble.devAddr ∧ ∃ ret asked,
      ble.connect text (.ok (text.toStr addr)) bt = .ok (ret, after, asked) ∧
      calls = [.scanStop, .connCreate addr] ++ asked) := by
  unfold handleBleDeviceFound at h
  split_ifs at h with htype haddr hstop hcreate
  · cases h
    refine .inr (.inl ⟨fun hcreates ↦ ?_, rfl, List.not_mem_nil⟩)
    exact hcreates.1.elim htype.1 htype.2
  · cases h
    exact .inr (.inl ⟨fun hcreates ↦ haddr hcreates.2.1, rfl, List.not_mem_nil⟩)
  · cases h
    exact .inr (.inl ⟨fun hcreates ↦ hstop hcreates.2.2.1, rfl, by simp⟩)
  · obtain ⟨⟨ret, made, asked⟩, hconnect, h⟩ := bind_eq_ok.mp h
    cases h
    exact .inr (.inr ⟨fun hcreates ↦ hcreate hcreates.2.2.2, not_not.mp haddr, ret, asked, hconnect,
      rfl⟩)
  · cases h
    simp only [not_and_or, not_not] at htype haddr hstop hcreate
    exact .inl ⟨⟨htype, haddr, hstop, hcreate⟩, rfl, rfl⟩

/-- The text of an address does not parse, so a callback that connects to one keeps the target. -/
theorem reconnect_cases (htext : text.KeepsAddress) (hsuffix : text.AppendsType)
    {ble after : BleDriver} {addr : BtAddr} {bt : BtAnswers} {ret : RetCode} {calls : List BleCall}
    (h : ble.connect text (.ok (text.toStr addr)) bt = .ok (ret, after, calls)) :
    after = ble ∧ (calls = [] ∨ calls = [.acceptListAdd ble.devAddr, .scanStart]) := by
  rcases connect_cases h with ⟨rfl, rfl⟩ | ⟨str, hstr, hafter, rfl⟩
  · exact ⟨rfl, .inl rfl⟩
  · obtain rfl := Except.ok.inj hstr
    rw [htext.fromStr_toStr hsuffix] at hafter
    rw [hafter]
    exact ⟨rfl, .inr rfl⟩

theorem scanStart_notMem_discoverServices (ble : BleDriver) (uuid : Option ServiceUuid)
    (bt : BtAnswers) : .scanStart ∉ (ble.discoverServices uuid bt).2.2 := by
  unfold discoverServices
  split_ifs <;> simp

/-- A connection that has been established does not start a scan. -/
theorem scanStart_notMem_of_connected {ble after : BleDriver} {conn : ℕ} {dst : BtAddr}
    {bt : BtAnswers} {calls : List BleCall}
    (h : ble.handleConnectionResult text conn 0 dst bt = .ok (after, calls)) :
    .scanStart ∉ calls := by
  unfold handleConnectionResult at h
  by_cases hmtu : bt.exchangeMtu = 0
  · simp only [ne_eq, not_true_eq_false, if_false, hmtu] at h
    cases h
    simp [scanStart_notMem_discoverServices]
  · simp only [ne_eq, not_true_eq_false, if_false, hmtu, not_false_eq_true, if_true] at h
    cases h
    simp

/-- Every event keeps the connection on the target. -/
theorem FollowsTarget.step (h : run.FollowsTarget) (htext : text.KeepsAddress)
    (hsuffix : text.AppendsType) (hstep : run.step text event = .ok next) : next.FollowsTarget := by
  obtain ⟨⟨ble, calls⟩, hperform, hnext⟩ := bind_eq_ok.mp hstep
  cases hnext
  obtain ⟨action, bt⟩ := event
  intro conn hconn
  cases action with
  | connect deviceAddr =>
    obtain ⟨⟨ret, made, asked⟩, hconnect, hmade⟩ := bind_eq_ok.mp hperform
    cases hmade
    have hsame : run.ble.conn = some conn := (SameLink.of_connect hconnect).conn ▸ hconn
    have hconnected : run.ble.isConnected = true := by simp [BleCentral.isConnected, hsame]
    rw [connect_of_connected hconnected] at hconnect
    cases hconnect
    exact h conn hsame
  | deviceFound addr type =>
    rcases deviceFound_cases hperform with
      ⟨hcreates, rfl, -⟩ | ⟨hnot, rfl, -⟩ | ⟨hnot, -, ret, asked, hconnect, -⟩
    · obtain rfl : bt.conn = conn := Option.some.inj hconn
      have hpeer : run.peerAfter ⟨.deviceFound addr type, bt⟩ =
          Function.update run.peer bt.conn addr := if_pos hcreates
      calc
        run.peerAfter ⟨.deviceFound addr type, bt⟩ bt.conn
          = Function.update run.peer bt.conn addr bt.conn := congrFun hpeer bt.conn
        _ = addr := Function.update_self ..
        _ = run.ble.devAddr := hcreates.2.1
    · have hpeer : run.peerAfter ⟨.deviceFound addr type, bt⟩ = run.peer := if_neg hnot
      exact (congrFun hpeer conn).trans (h conn hconn)
    · obtain ⟨rfl, -⟩ := reconnect_cases htext hsuffix hconnect
      have hpeer : run.peerAfter ⟨.deviceFound addr type, bt⟩ = run.peer := if_neg hnot
      exact (congrFun hpeer conn).trans (h conn hconn)
  | connectionResult other connErr =>
    rcases handleConnectionResult_cases hperform with
      ⟨-, ret, asked, hconnect, -⟩ | ⟨-, discover, subscribe, rfl⟩
    · rw [(SameLink.of_connect hconnect).conn] at hconn
      cases hconn
    · exact h conn hconn
  | disconnected other reason =>
    rcases handleDisonnectionResult_cases hperform with
      ⟨-, rfl, -⟩ | ⟨-, rfl, -⟩ | ⟨-, ret, asked, hconnect, -⟩
    · exact h conn hconn
    · cases hconn
    · rw [(SameLink.of_connect hconnect).conn] at hconn
      cases hconn

/-- The calls of a reconnection, behind others that neither scan nor add a device, look for the
target. -/
theorem looksFor_target {addr : BtAddr} (before : List BleCall) {asked : List BleCall}
    (hasked : asked = [] ∨ asked = [.acceptListAdd addr, .scanStart])
    (hscan : .scanStart ∉ before) (hadd : ∀ other, .acceptListAdd other ∉ before)
    (h : .scanStart ∈ before ++ asked) :
    .acceptListAdd addr ∈ before ++ asked ∧
      ∀ other, .acceptListAdd other ∈ before ++ asked → other = addr := by
  rcases hasked with rfl | rfl
  · rw [List.append_nil] at h
    exact absurd h hscan
  · refine ⟨by simp, fun other hother ↦ ?_⟩
    simpa [hadd other] using hother

/-- While the connection leads to the target, callbacks scan for the device that is lost. -/
theorem FollowsTarget.rescansLost (h : run.FollowsTarget) (htext : text.KeepsAddress)
    (hsuffix : text.AppendsType) (hheld : run.ResultOfHeld event) : run.RescansLost text event := by
  intro next calls hperform addr hlost hscan
  obtain ⟨action, bt⟩ := event
  cases action with
  | connect deviceAddr => cases hlost
  | deviceFound found type =>
    cases hlost
    rcases deviceFound_cases hperform with
      ⟨-, -, rfl⟩ | ⟨-, -, hnone⟩ | ⟨-, haddr, ret, asked, hconnect, rfl⟩
    · simp at hscan
    · exact absurd hscan hnone
    · obtain ⟨rfl, hasked⟩ := reconnect_cases htext hsuffix hconnect
      rw [← haddr] at hasked
      exact ⟨haddr.symm, looksFor_target _ hasked (by simp) (by simp) hscan⟩
  | connectionResult conn connErr =>
    cases hlost
    rcases handleConnectionResult_cases hperform with
      ⟨-, ret, asked, hconnect, rfl⟩ | ⟨rfl, -⟩
    · obtain ⟨rfl, hasked⟩ := reconnect_cases htext hsuffix hconnect
      rw [h conn hheld]
      exact ⟨rfl, looksFor_target [_] hasked (by simp) (by simp) hscan⟩
    · exact absurd hscan (scanStart_notMem_of_connected hperform)
  | disconnected conn reason =>
    cases hlost
    rcases handleDisonnectionResult_cases hperform with
      ⟨-, -, rfl⟩ | ⟨-, -, rfl⟩ | ⟨hconn, ret, asked, hconnect, rfl⟩
    · cases hscan
    · simp at hscan
    · obtain ⟨rfl, hasked⟩ := reconnect_cases htext hsuffix hconnect
      rw [h conn hconn]
      exact ⟨rfl, looksFor_target _ hasked (by simp) (by simp) hscan⟩

end LinkRun

open LinkRun

/-- Automatic reconnection stays with the same device: a connection always leads to the target, and
every scan that a callback starts looks for the device whose connection has failed or is lost. -/
theorem reconnects_to_target {text : BtAddrText} (htext : text.KeepsAddress)
    (hsuffix : text.AppendsType) {start : LinkRun} (hidle : start.ble.conn = none)
    {events : List LinkEvent} (hheld : Along (LinkRun.step text) ResultOfHeld start events) :
    (∀ last, run (LinkRun.step text) start events = .ok last → last.FollowsTarget) ∧
    Along (LinkRun.step text) (RescansLost text) start events := by
  have hstart : start.FollowsTarget := fun conn hconn ↦ by
    rw [hidle] at hconn
    cases hconn
  constructor
  · intro last hrun
    exact run_invariant FollowsTarget (fun h hstep ↦ h.step htext hsuffix hstep) hstart hrun
  · exact along_of_invariant_along (fun h hresult ↦ h.rescansLost htext hsuffix hresult)
      (fun h _ hstep ↦ h.step htext hsuffix hstep) hstart hheld

def idleLink : LinkRun where
  ble := serviceDriver
  peer := fun _ ↦ { type := 0, val := Buffer.fill 6 0 }

def LinkEvent.succeeding (action : LinkAction) : LinkEvent where
  action := action
  answers := (CrownstoneRouter.succeeding .disconnect).answers

/-- A connection that fails, and one that is lost. -/
def failingConnections : List LinkEvent := [
  .succeeding (.connect crownstoneText),
  .succeeding (.deviceFound crownstoneAddr advTypeInd),
  .succeeding (.connectionResult 1 0x3E),
  .succeeding (.deviceFound crownstoneAddr advTypeInd),
  .succeeding (.connectionResult 1 0),
  .succeeding (.disconnected 1 0x08)]

theorem reconnects_to_crownstone :
    (∀ last, run (LinkRun.step zephyrText) idleLink failingConnections = .ok last →
      last.FollowsTarget) ∧
    Along (LinkRun.step zephyrText) (RescansLost zephyrText) idleLink failingConnections :=
  reconnects_to_target zephyrText_readsAddress.toKeepsAddress zephyrText_appendsType rfl
    (by decide +kernel)

/-! ## Availability -/

namespace LinkRun

variable (text : BtAddrText) {run next : LinkRun} {event : LinkEvent}

/-- The event is set while there is no connection, and only then. -/
def Truthful (run : LinkRun) : Prop :=
  run.ble.availableEvent = true ↔ run.ble.conn = none

/-- A `connect` right after a wait that has returned `CS_OK` is not refused for a connection. -/
def WaitSound (run : LinkRun) : Prop :=
  ∀ timeoutMs waited, run.ble.waitAvailable timeoutMs waited = some .ok →
    ∀ str bt ret after calls, run.ble.connect text (.ok str) bt = .ok (ret, after, calls) →
      ret ≠ .bleAlreadyConnected

/-- No connection is created while the driver has none, and the result of a connection is reported
as a success while the driver has one, as a failure while it has none. -/
def KeepsTruthful (run : LinkRun) (event : LinkEvent) : Prop :=
  match event.action with
  | .connect _ | .disconnected _ _ => True
  | .deviceFound addr type => run.ble.Creates addr type event.answers → run.ble.conn ≠ none
  | .connectionResult _ connErr => connErr = 0 ↔ run.ble.conn ≠ none

/-- The connection after an event. -/
def connAfter (run : LinkRun) (event : LinkEvent) : Option ℕ :=
  match event.action with
  | .connect _ => run.ble.conn
  | .deviceFound addr type =>
      if run.ble.Creates addr type event.answers then some event.answers.conn else run.ble.conn
  | .connectionResult _ connErr => if connErr = 0 then run.ble.conn else none
  | .disconnected conn _ => if run.ble.conn = some conn then none else run.ble.conn

/-- The event that announces an available driver, after an event at the driver. -/
def availableAfter (run : LinkRun) (event : LinkEvent) : Bool :=
  match event.action with
  | .connect _ | .deviceFound _ _ => run.ble.availableEvent
  | .connectionResult _ connErr => if connErr = 0 then false else run.ble.availableEvent
  | .disconnected conn _ => if run.ble.conn = some conn then true else run.ble.availableEvent

instance (run : LinkRun) : Decidable run.Truthful :=
  inferInstanceAs (Decidable (_ ↔ _))

variable {text}

theorem connect_returns (text : BtAddrText) (ble : BleDriver) (str : List UInt8) (bt : BtAnswers) :
    ∃ ret after calls, ble.connect text (.ok str) bt = .ok (ret, after, calls) ∧
      after.conn = ble.conn ∧ after.availableEvent = ble.availableEvent := by
  by_cases hconn : ble.isConnected = true
  · exact ⟨_, ble, [], connect_of_connected hconn _, rfl, rfl⟩
  · by_cases hinit : ble.initialized = true
    · have hready : ble.isConnected = false := Bool.eq_false_of_not_eq_true hconn
      exact ⟨_, _, _, connect_of_ready hinit hready str, rfl, rfl⟩
    · exact ⟨.notInitialized, ble, [], by simp [BleDriver.connect, hinit, pure, Except.pure], rfl, rfl⟩

/-- What a report of a device does to the connection. -/
theorem deviceFound_returns (text : BtAddrText) (ble : BleDriver) (addr : BtAddr) (type : UInt8)
    (bt : BtAnswers) :
    ∃ after calls, ble.handleBleDeviceFound text addr type bt = .ok (after, calls) ∧
      after.conn = (if ble.Creates addr type bt then some bt.conn else ble.conn) ∧
      after.availableEvent = ble.availableEvent := by
  unfold handleBleDeviceFound
  by_cases htype : type ≠ advTypeInd ∧ type ≠ advTypeDirectInd
  · rw [if_pos htype]
    have hnot : ¬ ble.Creates addr type bt := fun h ↦ h.1.elim htype.1 htype.2
    exact ⟨ble, [], rfl, (if_neg hnot).symm, rfl⟩
  by_cases haddr : addr ≠ ble.devAddr
  · rw [if_neg htype, if_pos haddr]
    have hnot : ¬ ble.Creates addr type bt := fun h ↦ haddr h.2.1
    exact ⟨ble, [], rfl, (if_neg hnot).symm, rfl⟩
  by_cases hstop : bt.scanStop ≠ 0
  · rw [if_neg htype, if_neg haddr, if_pos hstop]
    have hnot : ¬ ble.Creates addr type bt := fun h ↦ hstop h.2.2.1
    exact ⟨ble, [.scanStop], rfl, (if_neg hnot).symm, rfl⟩
  by_cases hcreate : bt.connCreate ≠ 0
  · rw [if_neg htype, if_neg haddr, if_neg hstop, if_pos hcreate]
    have hnot : ¬ ble.Creates addr type bt := fun h ↦ hcreate h.2.2.2
    obtain ⟨ret, after, calls, hconnect, hconn, havailable⟩ :=
      connect_returns text ble (text.toStr addr) bt
    exact ⟨after, _, bind_eq_ok.mpr ⟨_, hconnect, rfl⟩, hconn.trans (if_neg hnot).symm, havailable⟩
  · rw [if_neg htype, if_neg haddr, if_neg hstop, if_neg hcreate]
    simp only [not_and_or, not_not] at htype haddr hstop hcreate
    have hcreates : ble.Creates addr type bt := ⟨htype, haddr, hstop, hcreate⟩
    exact ⟨_, _, rfl, (if_pos hcreates).symm, rfl⟩

/-- What the result of a connection does to the connection. -/
theorem connectionResult_returns (text : BtAddrText) (ble : BleDriver) (conn : ℕ) (connErr : UInt8)
    (dst : BtAddr) (bt : BtAnswers) :
    ∃ after calls, ble.handleConnectionResult text conn connErr dst bt = .ok (after, calls) ∧
      after.conn = (if connErr = 0 then ble.conn else none) ∧
      after.availableEvent = (if connErr = 0 then false else ble.availableEvent) := by
  unfold handleConnectionResult
  by_cases herr : connErr = 0
  · rw [if_neg (not_not.mpr herr), if_pos herr, if_pos herr]
    by_cases hmtu : bt.exchangeMtu = 0
    · rw [if_neg (not_not.mpr hmtu)]
      obtain ⟨discover, subscribe, hafter⟩ :=
        discoverServices_cases { ble with availableEvent := false } (some ble.uuidBase) bt
      exact ⟨_, _, rfl, congrArg (fun after ↦ after.conn) hafter,
        congrArg (fun after ↦ after.availableEvent) hafter⟩
    · rw [if_pos hmtu]
      exact ⟨_, _, rfl, rfl, rfl⟩
  · rw [if_pos herr, if_neg herr, if_neg herr]
    obtain ⟨ret, after, calls, hconnect, hconn, havailable⟩ :=
      connect_returns text { ble with conn := none } (text.toStr dst) bt
    exact ⟨after, _, bind_eq_ok.mpr ⟨_, hconnect, rfl⟩, hconn, havailable⟩

/-- What a disconnection does to the connection. -/
theorem disconnected_returns (text : BtAddrText) (ble : BleDriver) (conn : ℕ) (reason : UInt8)
    (dst : BtAddr) (bt : BtAnswers) :
    ∃ after calls, ble.handleDisonnectionResult text conn reason dst bt = .ok (after, calls) ∧
      after.conn = (if ble.conn = some conn then none else ble.conn) ∧
      after.availableEvent = (if ble.conn = some conn then true else ble.availableEvent) := by
  unfold handleDisonnectionResult
  by_cases hconn : ble.conn = some conn
  · rw [if_neg (not_not.mpr hconn), if_pos hconn, if_pos hconn]
    by_cases hreason : reason ≠ remoteUserTermConn ∧ reason ≠ localhostTermConn
    · simp only [if_pos hreason]
      obtain ⟨ret, after, calls, hconnect, hafter, havailable⟩ :=
        connect_returns text { ble with conn := none, availableEvent := true } (text.toStr dst) bt
      exact ⟨after, _, bind_eq_ok.mpr ⟨_, hconnect, rfl⟩, hafter, havailable⟩
    · simp only [if_neg hreason]
      exact ⟨_, _, rfl, rfl, rfl⟩
  · rw [if_pos hconn, if_neg hconn, if_neg hconn]
    exact ⟨ble, [], rfl, rfl, rfl⟩

/-- What an event does to the connection and to the event that announces an available driver. -/
theorem step_returns (text : BtAddrText) (run : LinkRun) (event : LinkEvent) :
    ∃ next, run.step text event = .ok next ∧ next.ble.conn = run.connAfter event ∧
      next.ble.availableEvent = run.availableAfter event := by
  suffices h : ∃ after calls, run.ble.perform text (event.atDriver run.peer) = .ok (after, calls) ∧
      after.conn = run.connAfter event ∧ after.availableEvent = run.availableAfter event by
    obtain ⟨after, calls, hperform, hconn, havailable⟩ := h
    exact ⟨_, bind_eq_ok.mpr ⟨_, hperform, rfl⟩, hconn, havailable⟩
  obtain ⟨action, bt⟩ := event
  cases action with
  | connect deviceAddr =>
    obtain ⟨ret, after, calls, hconnect, hconn, havailable⟩ :=
      connect_returns text run.ble deviceAddr bt
    exact ⟨after, calls, bind_eq_ok.mpr ⟨_, hconnect, rfl⟩, hconn, havailable⟩
  | deviceFound addr type => exact deviceFound_returns text run.ble addr type bt
  | connectionResult conn connErr =>
    exact connectionResult_returns text run.ble conn connErr (run.peer conn) bt
  | disconnected conn reason =>
    exact disconnected_returns text run.ble conn reason (run.peer conn) bt

/-- In a truthful state a wait that succeeds makes sure that there is no connection. -/
theorem Truthful.waitSound (h : run.Truthful) : run.WaitSound text := by
  intro timeoutMs waited hwait str bt ret after calls hconnect
  unfold waitAvailable at hwait
  split_ifs at hwait with hinit
  · cases hwait
  · obtain ⟨seen, hpoll, hseen⟩ := Option.map_eq_some_iff.mp hwait
    have htrue : seen = true := by
      by_contra hfalse
      rw [if_neg hfalse] at hseen
      cases hseen
    have hnone : run.ble.conn = none := h.mp (EventWait.set_of_poll (htrue ▸ hpoll))
    have hready : run.ble.isConnected = false := by simp [BleCentral.isConnected, hnone]
    rw [connect_of_ready (by simpa using hinit) hready] at hconnect
    cases hconnect
    split_ifs <;> decide

/-- The events that keep the state truthful. -/
theorem Truthful.step_iff (h : run.Truthful) :
    (∀ next, run.step text event = .ok next → next.Truthful ∧ next.WaitSound text) ↔
      run.KeepsTruthful event := by
  obtain ⟨next, hstep, hconn, havailable⟩ := step_returns text run event
  have htruthful : next.Truthful ↔
      (run.availableAfter event = true ↔ run.connAfter event = none) := by
    rw [Truthful, hconn, havailable]
  have hnext : (∀ next, run.step text event = .ok next → next.Truthful ∧ next.WaitSound text) ↔
      next.Truthful := by
    rw [forall_eq_ok_iff hstep]
    exact and_iff_left_of_imp Truthful.waitSound
  rw [hnext, htruthful]
  unfold Truthful at h
  obtain ⟨action, bt⟩ := event
  cases action with
  | connect deviceAddr => simpa [connAfter, availableAfter, KeepsTruthful] using h
  | deviceFound addr type =>
    simp only [connAfter, availableAfter, KeepsTruthful]
    by_cases hcreates : run.ble.Creates addr type bt
    · simp [hcreates, h]
    · simp [hcreates, h]
  | connectionResult conn connErr =>
    simp only [connAfter, availableAfter, KeepsTruthful]
    by_cases herr : connErr = 0
    · simp [herr]
    · simp [herr, h]
  | disconnected conn reason =>
    simp only [connAfter, availableAfter, KeepsTruthful]
    by_cases hheld : run.ble.conn = some conn
    · simp [hheld]
    · simp [hheld, h]

end LinkRun

/-- From a truthful state on, the event is truthful in every state of a run, and a wait that succeeds
makes sure that there is no connection, exactly as long as no connection is created. -/
theorem availability_truthful_iff (text : BtAddrText) {start : LinkRun} (htruthful : start.Truthful)
    (events : List LinkEvent) :
    (∀ first last, first <+: events → run (LinkRun.step text) start first = .ok last →
      last.Truthful ∧ last.WaitSound text) ↔
    Along (LinkRun.step text) KeepsTruthful start events := by
  apply forall_prefix_iff_along
  · exact fun h _ ↦ h.1.step_iff
  · exact ⟨htruthful, htruthful.waitSound⟩
  · exact along_true

theorem truthful_idleLink : idleLink.Truthful := by decide

/-- A scan that finds another device. -/
theorem availability_truthful_of_other_device :
    (∀ first last, first <+: [LinkEvent.succeeding (.connect crownstoneText),
        .succeeding (.deviceFound { crownstoneAddr with type := 0 } advTypeInd)] →
      run (LinkRun.step zephyrText) idleLink first = .ok last →
      last.Truthful ∧ last.WaitSound zephyrText) ↔
    Along (LinkRun.step zephyrText) KeepsTruthful idleLink
      [LinkEvent.succeeding (.connect crownstoneText),
        .succeeding (.deviceFound { crownstoneAddr with type := 0 } advTypeInd)] :=
  availability_truthful_iff zephyrText truthful_idleLink _

/-- While a connection is being established, the driver is announced as available and refuses to
connect. -/
theorem available_while_connecting :
    ∃ last, run (LinkRun.step zephyrText) idleLink
        [.succeeding (.connect crownstoneText),
          .succeeding (.deviceFound crownstoneAddr advTypeInd)] = .ok last ∧
      ¬ last.Truthful ∧ ¬ last.WaitSound zephyrText := by
  refine ⟨_, rfl, by decide +kernel, fun hsound ↦ ?_⟩
  exact hsound (-1) 0 rfl crownstoneText (LinkEvent.succeeding (.connect [])).answers _ _ _ rfl rfl

end CrownstoneRouter
