import CrownstoneRouter.Drivers.Wifi
import CrownstoneRouter.Foundation.Transition

/-!
# The status of the Wi-Fi driver

Calls and callbacks of the Wi-Fi driver in any order, beside the link itself: whether an address is
held, which scans have reported a match to the calls of `connect` that wait for them, and whether a
requested disconnection is outstanding. Events and flag of the driver are set along with the link,
but none of them is ever cleared.
-/

namespace CrownstoneRouter

open CheckedMemory CheckedRun

/-- What happens at the Wi-Fi driver. Scans are numbered in the order of their requests; `scanWaited`
is the wait of the call of `connect` that has requested the scan, after some time. -/
inductive WifiAction
  | init (ready : Bool) (iface : Option ℕ) (ssid psk : List UInt8)
  | connect (scanRequest : ℤ)
  | scanWaited (scan waited : ℕ)
  | scanResult (scan : ℕ) (entry : WifiScanResult)
  | connectionResult (status : ℤ)
  | addressResult
  | disconnectionResult (status : ℤ)
  | disconnect (request : ℤ)

/-- A call of `connect` that waits for its scan, and whether this scan has reported a match. -/
structure WaitingScan where
  scan : ℕ
  matched : Bool

/-- The driver and the link: an address is held, and a requested disconnection is outstanding. -/
structure WifiRun where
  wifi : Wifi
  scans : ℕ
  waiting : List WaitingScan
  online : Bool
  outstanding : Bool

namespace WifiRun

/-- Before anything has been called. -/
def start : WifiRun where
  wifi := .created
  scans := 0
  waiting := []
  online := false
  outstanding := false

/-- A call of `connect` begins. -/
def connect (run : WifiRun) (scanRequest : ℤ) : WifiRun :=
  match (run.wifi.requestScan scanRequest).1 with
  | some _ => run
  | none =>
      { run with
        scans := run.scans + 1
        waiting := run.waiting ++ [{ scan := run.scans, matched := false }] }

/-- A call of `connect` ends, if its wait is over. -/
def scanWaited (run : WifiRun) (scan waited : ℕ) : WifiRun :=
  match run.wifi.awaitScan waited with
  | some seen =>
      { run with
        wifi := (run.wifi.requestConnect seen).2.1
        waiting := run.waiting.filter fun call ↦ call.scan ≠ scan }
  | none => run

/-- A scan reports a result. -/
def scanResult (run : WifiRun) (scan : ℕ) (entry : WifiScanResult) : WifiRun :=
  { run with
    wifi := run.wifi.handleWifiScanResult entry
    waiting := run.waiting.map fun call ↦
      { call with
        matched := call.matched || (call.scan = scan && run.wifi.matchesSsid entry) } }

/-- One action. The callbacks are registered by `init`. The result of a disconnection with an error
reports that an outstanding request has failed, and every other one that the link is down. -/
def step (run : WifiRun) : WifiAction → Checked WifiRun
  | .init ready iface ssid psk => do
      let (_, wifi, _) ← run.wifi.init ready iface ssid psk
      return { run with wifi := wifi }
  | .connect scanRequest => .ok (run.connect scanRequest)
  | .scanWaited scan waited =>
      .ok (if ∃ call ∈ run.waiting, call.scan = scan then run.scanWaited scan waited else run)
  | .scanResult scan entry => .ok (if run.wifi.initialized then run.scanResult scan entry else run)
  | .connectionResult status =>
      .ok (if run.wifi.initialized then
        { run with wifi := (run.wifi.handleWifiConnectionResult status).1 } else run)
  | .addressResult =>
      .ok (if run.wifi.initialized then
        { run with wifi := run.wifi.handleWifiIpAddrResult, online := true } else run)
  | .disconnectionResult status =>
      .ok (if run.wifi.initialized then
        { run with
          wifi := run.wifi.handleWifiDisconnectionResult status
          online := run.online && run.outstanding && status ≠ 0
          outstanding := false } else run)
  | .disconnect request =>
      .ok { run with
        wifi := (run.wifi.disconnect request).2.1
        outstanding := run.outstanding || request = 0 }

/-- The status of the driver is that of the link. -/
structure FollowsLink (run : WifiRun) : Prop where
  connected : run.wifi.connected = true ↔ run.online = true
  waitSound : ∀ timeoutMs waited,
    run.wifi.waitConnected timeoutMs waited = some .ok → run.online = true
  ssidFound : run.wifi.ssidFound = true → ∀ call ∈ run.waiting, call.matched = true
  disconnecting : run.wifi.disconnecting = true → run.outstanding = true

/-- A scan begins while `CS_WIFI_SSID_FOUND_EVENT` is not set, a match comes from the scan of every
call that waits without one, the link goes down while neither `CS_WIFI_CONNECTED_EVENT` nor the flag
is set, and a disconnect request succeeds unless another one is outstanding. -/
def KeepsStatus (run : WifiRun) : WifiAction → Prop
  | .init _ _ _ _ | .scanWaited _ _ | .connectionResult _ | .addressResult => True
  | .connect scanRequest =>
      (run.wifi.requestScan scanRequest).1 = none → run.wifi.ssidFound = false
  | .scanResult scan entry =>
      run.wifi.initialized = true → run.wifi.matchesSsid entry = true →
        ∀ call ∈ run.waiting, call.matched = true ∨ call.scan = scan
  | .disconnectionResult _ =>
      run.wifi.initialized = true →
        run.wifi.connected = false ∧ run.wifi.disconnecting = false
  | .disconnect request => request = 0 ∨ run.outstanding = true

/-- Events exist once the driver is initialized, no address is held before, and an outstanding
disconnection has set the flag. -/
structure Consistent (run : WifiRun) : Prop where
  isSome : run.wifi.wifiEvts.isSome = run.wifi.initialized
  online : run.wifi.initialized = false → run.online = false
  outstanding : run.outstanding = true → run.wifi.disconnecting = true

variable {run next : WifiRun} {action : WifiAction}

theorem followsLink_iff :
    run.FollowsLink ↔
      (run.wifi.connected = true ↔ run.online = true) ∧
      (run.wifi.ssidFound = true → ∀ call ∈ run.waiting, call.matched = true) ∧
      (run.wifi.disconnecting = true → run.outstanding = true) := by
  constructor
  · exact fun h ↦ ⟨h.connected, h.ssidFound, h.disconnecting⟩
  · rintro ⟨hconnected, hssid, hdisconnecting⟩
    exact ⟨hconnected, fun _ _ hwait ↦ hconnected.mp (Wifi.connected_of_waitConnected hwait), hssid,
      hdisconnecting⟩

theorem consistent_start : start.Consistent where
  isSome := rfl
  online := fun _ ↦ rfl
  outstanding := fun h ↦ by cases h

theorem followsLink_start : start.FollowsLink :=
  followsLink_iff.mpr ⟨Iff.rfl, fun h ↦ absurd h (by decide), fun h ↦ absurd h (by decide)⟩

/-- Every action keeps the run consistent. -/
theorem Consistent.step (h : run.Consistent) (hstep : run.step action = .ok next) :
    next.Consistent := by
  cases action with
  | init ready iface ssid psk =>
    obtain ⟨⟨ret, wifi, calls⟩, hinit, hnext⟩ := bind_eq_ok.mp hstep
    cases hnext
    rcases Wifi.init_cases hinit with ⟨-, rfl⟩ | ⟨-, -, hinitialized, hevts, hflag⟩
    · exact h
    · exact ⟨by simp [hevts, hinitialized], fun hnot ↦ by simp [hinitialized] at hnot,
        fun hout ↦ hflag.trans (h.outstanding hout)⟩
  | connect scanRequest =>
    cases hstep
    unfold connect
    split
    · exact h
    · exact ⟨h.isSome, h.online, h.outstanding⟩
  | scanWaited scan waited =>
    cases hstep
    split_ifs
    · unfold scanWaited
      split
      · next seen _ =>
        obtain ⟨params, hwifi⟩ := run.wifi.requestConnect_effect seen
        rw [hwifi]
        exact ⟨h.isSome, h.online, h.outstanding⟩
      · exact h
    · exact h
  | scanResult scan entry =>
    cases hstep
    split_ifs
    · obtain ⟨hinit, hsome, -, hflag, -⟩ := run.wifi.handleWifiScanResult_effect entry
      exact ⟨hsome.trans (h.isSome.trans hinit.symm), fun hnot ↦ h.online (hinit.symm.trans hnot),
        fun hout ↦ hflag.trans (h.outstanding hout)⟩
    · exact h
  | connectionResult status =>
    cases hstep
    split_ifs
    · unfold Wifi.handleWifiConnectionResult
      split_ifs <;> exact h
    · exact h
  | addressResult =>
    cases hstep
    split_ifs with hinit
    · exact ⟨(Wifi.isSome_postConnected _).trans h.isSome,
        fun hnot ↦ absurd (hinit.symm.trans hnot) (by decide), h.outstanding⟩
    · exact h
  | disconnectionResult status =>
    cases hstep
    split_ifs with hinit
    · exact ⟨h.isSome, fun hnot ↦ absurd (hinit.symm.trans hnot) (by decide), fun hout ↦ by cases hout⟩
    · exact h
  | disconnect request =>
    cases hstep
    rw [Wifi.disconnect_effect]
    exact ⟨h.isSome, h.online, fun _ ↦ rfl⟩

/-- An initialization clears the events, before there is an address. -/
theorem FollowsLink.init (h : run.FollowsLink) (hrun : run.Consistent) {ready : Bool}
    {iface : Option ℕ} {ssid psk : List UInt8}
    (hstep : run.step (.init ready iface ssid psk) = .ok next) : next.FollowsLink := by
  obtain ⟨⟨ret, wifi, calls⟩, hinit, hnext⟩ := bind_eq_ok.mp hstep
  cases hnext
  rcases Wifi.init_cases hinit with ⟨-, rfl⟩ | ⟨-, hbefore, -, hevts, hflag⟩
  · exact h
  · have honline := hrun.online hbefore
    refine followsLink_iff.mpr ⟨?_, ?_, fun hset ↦ h.disconnecting (hflag.symm.trans hset)⟩
    · simp [Wifi.connected, hevts, honline]
    · simp [Wifi.ssidFound, hevts]

/-- A call of `connect` waits for a match of its own scan, so the event must not be set before. -/
theorem FollowsLink.connect_iff (h : run.FollowsLink) (scanRequest : ℤ) :
    (run.connect scanRequest).FollowsLink ↔ run.KeepsStatus (.connect scanRequest) := by
  rw [followsLink_iff]
  unfold connect
  cases hrequest : (run.wifi.requestScan scanRequest).1 with
  | some ret => simpa [KeepsStatus, hrequest] using followsLink_iff.mp h
  | none =>
    simp only [KeepsStatus, hrequest, true_imp_iff]
    constructor
    · rintro ⟨-, hall, -⟩
      by_contra hset
      have hmatched := hall (by simpa using hset) { scan := run.scans, matched := false } (by simp)
      cases hmatched
    · intro hclear
      exact ⟨h.connected, fun hset ↦ absurd (hset.symm.trans hclear) (by decide), h.disconnecting⟩

theorem FollowsLink.scanWaited (h : run.FollowsLink) (scan waited : ℕ) :
    (run.scanWaited scan waited).FollowsLink := by
  unfold WifiRun.scanWaited
  split
  · next seen _ =>
    obtain ⟨params, hwifi⟩ := run.wifi.requestConnect_effect seen
    rw [hwifi]
    exact followsLink_iff.mpr ⟨h.connected,
      fun hset call hcall ↦ h.ssidFound hset call (List.mem_filter.mp hcall).1, h.disconnecting⟩
  · exact h

/-- A match sets the event for all calls that wait, so it must be for those that have none. -/
theorem FollowsLink.scanResult_iff (h : run.FollowsLink) (hrun : run.Consistent)
    (hinit : run.wifi.initialized = true) (scan : ℕ) (entry : WifiScanResult) :
    (run.scanResult scan entry).FollowsLink ↔ run.KeepsStatus (.scanResult scan entry) := by
  obtain ⟨-, -, hconnected, hflag, hfound⟩ := run.wifi.handleWifiScanResult_effect entry
  rw [followsLink_iff]
  simp only [scanResult, KeepsStatus, hconnected, hflag, hfound, hrun.isSome, hinit, true_imp_iff,
    List.forall_mem_map]
  cases hmatch : run.wifi.matchesSsid entry with
  | true =>
    simp only [if_true, Bool.and_true, Bool.or_eq_true, decide_eq_true_eq, true_imp_iff]
    exact ⟨fun hnext ↦ hnext.2.1, fun hall ↦ ⟨h.connected, hall, h.disconnecting⟩⟩
  | false => simpa using followsLink_iff.mp h

/-- Nothing is cleared when the link goes down, so neither the event nor the flag may be set. -/
theorem FollowsLink.disconnectionResult_iff (h : run.FollowsLink) (hrun : run.Consistent)
    (hinit : run.wifi.initialized = true) (status : ℤ) :
    FollowsLink { run with
      wifi := run.wifi.handleWifiDisconnectionResult status
      online := run.online && run.outstanding && status ≠ 0
      outstanding := false } ↔ run.KeepsStatus (.disconnectionResult status) := by
  rw [followsLink_iff]
  simp only [KeepsStatus, hinit, true_imp_iff, Wifi.handleWifiDisconnectionResult]
  have hidle (hflag : run.wifi.disconnecting = false) : run.outstanding = false :=
    Bool.eq_false_of_not_eq_true fun hout ↦
      absurd (hflag.symm.trans (hrun.outstanding hout)) (by decide)
  constructor
  · rintro ⟨hconnected, -, hflag⟩
    have hclear : run.wifi.disconnecting = false :=
      Bool.eq_false_of_not_eq_true fun hset ↦ absurd (hflag hset) (by decide)
    refine ⟨?_, hclear⟩
    simpa [hidle hclear] using hconnected
  · rintro ⟨hconnected, hclear⟩
    exact ⟨by simp [hconnected, hidle hclear], h.ssidFound, fun hset ↦
      absurd (hclear.symm.trans hset) (by decide)⟩

/-- The actions that keep the status that of the link. -/
theorem FollowsLink.step_iff (h : run.FollowsLink) (hrun : run.Consistent) :
    (∀ next, run.step action = .ok next → next.FollowsLink) ↔ run.KeepsStatus action := by
  have hone {next : WifiRun} (hstep : run.step action = .ok next) :
      (∀ next, run.step action = .ok next → next.FollowsLink) ↔ next.FollowsLink :=
    forall_eq_ok_iff hstep
  cases action with
  | init ready iface ssid psk =>
    simp only [KeepsStatus, iff_true]
    exact fun next hstep ↦ h.init hrun hstep
  | connect scanRequest => exact (hone rfl).trans (h.connect_iff scanRequest)
  | scanWaited scan waited =>
    rw [hone rfl]
    simp only [KeepsStatus, iff_true]
    split_ifs
    · exact h.scanWaited scan waited
    · exact h
  | scanResult scan entry =>
    rw [hone rfl]
    by_cases hinit : run.wifi.initialized = true
    · rw [if_pos hinit]
      exact h.scanResult_iff hrun hinit scan entry
    · rw [if_neg hinit]
      exact ⟨fun _ hset ↦ absurd hset hinit, fun _ ↦ h⟩
  | connectionResult status =>
    rw [hone rfl]
    simp only [KeepsStatus, iff_true]
    split_ifs
    · unfold Wifi.handleWifiConnectionResult
      split_ifs <;> exact h
    · exact h
  | addressResult =>
    rw [hone rfl]
    simp only [KeepsStatus, iff_true]
    split_ifs with hinit
    · simpa [followsLink_iff, Wifi.handleWifiIpAddrResult, hrun.isSome, hinit]
        using ⟨h.ssidFound, h.disconnecting⟩
    · exact h
  | disconnectionResult status =>
    rw [hone rfl]
    by_cases hinit : run.wifi.initialized = true
    · rw [if_pos hinit]
      exact h.disconnectionResult_iff hrun hinit status
    · rw [if_neg hinit]
      exact ⟨fun _ hset ↦ absurd hset hinit, fun _ ↦ h⟩
  | disconnect request =>
    rw [hone rfl, followsLink_iff, Wifi.disconnect_effect]
    simp only [KeepsStatus, true_imp_iff, Bool.or_eq_true, decide_eq_true_eq]
    constructor
    · rintro ⟨-, -, hout⟩
      exact hout.symm
    · intro hout
      exact ⟨h.connected, h.ssidFound, hout.symm⟩

end WifiRun

open WifiRun

/-- The status of the driver is that of the link in every state of a run, exactly as long as every
scan begins without the event of an earlier match, no match is for another call than those that
wait, the link never goes down while the driver counts on it, and disconnect requests succeed. -/
theorem status_follows_link_iff (actions : List WifiAction) :
    (∀ first last, first <+: actions → run WifiRun.step .start first = .ok last →
      last.FollowsLink) ↔
    Along WifiRun.step KeepsStatus .start actions := by
  have hconsistent : Along WifiRun.step (fun run _ ↦ run.Consistent) .start actions :=
    along_of_invariant id (fun h hstep ↦ h.step hstep) consistent_start
  exact forall_prefix_iff_along (fun h hrun ↦ h.step_iff hrun) followsLink_start hconsistent

/-- The result of a scan that reports this network. -/
def scanOf (ssid : List UInt8) : WifiScanResult where
  ssid := (Buffer.fill wifiSsidMaxLen 0).overlay ssid
  ssidLength := UInt8.ofNat ssid.length
  band := 0
  channel := 1
  security := 1
  mfp := 0

/-- Once connected, the driver is taken to be connected for ever, although the link goes down. -/
theorem connected_after_link_down :
    ∃ last, run WifiRun.step .start
        [.init true (some 0) [0x73] [0x70], .connect 0, .scanResult 0 (scanOf [0x73]),
          .scanWaited 0 0, .connectionResult 0, .addressResult, .disconnectionResult 0] = .ok last ∧
      last.online = false ∧ last.wifi.waitConnected 0 0 = some .ok ∧ ¬ last.FollowsLink :=
  ⟨_, rfl, rfl, rfl, fun hfollows ↦ absurd (hfollows.waitSound 0 0 rfl) (by decide)⟩

end CrownstoneRouter
