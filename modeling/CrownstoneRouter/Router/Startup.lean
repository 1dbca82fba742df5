import CrownstoneRouter.Drivers.Wifi

/-!
# The start of the router

`main` initializes the Wi-Fi driver, lets it connect until a scan finds the network, waits for an
address, and opens the websocket. The results of all these calls are collected in one return code
that is looked at in the end only.
-/

namespace CrownstoneRouter

open CheckedMemory

/-- `TEST_SSID` -/
def testSsid : List UInt8 := "ssid".toList.map fun c ↦ UInt8.ofNat c.toNat

/-- `TEST_PSK` -/
def testPsk : List UInt8 := "psk".toList.map fun c ↦ UInt8.ofNat c.toNat

/-- What one call of `Wifi::connect` meets: what the scan request returns, and the scan results that
are reported before its wait is over. -/
structure WifiAttempt where
  scanRequest : ℤ
  results : List WifiScanResult

/-- What `main` meets: whether the device is ready and has an interface, the calls of
`Wifi::connect` that have ended, and the time from the beginning of the wait for an address until it
is assigned. -/
structure StartupInput where
  ready : Bool
  iface : Option ℕ
  attempts : List WifiAttempt
  addressDelay : Option ℕ

/-- What `main` does that concerns the network, with `_wifi_evts` as they are then. -/
inductive StartupCall
  | waitEvent (wifiEvts : Option WifiEvents)
  | websocketInit (wifiEvts : Option WifiEvents)
  | websocketConnect (wifiEvts : Option WifiEvents)
  deriving DecidableEq

namespace Startup

/-- One call of `Wifi::connect`. -/
def attempt (wifi : Wifi) (input : WifiAttempt) : RetCode × Wifi × List StartupCall :=
  match (wifi.requestScan input.scanRequest).1 with
  | some ret => (ret, wifi, [])
  | none =>
      let found := input.results.foldl Wifi.handleWifiScanResult wifi
      let (ret, connecting, _) := found.requestConnect found.ssidFound
      (ret, connecting, [.waitEvent wifi.wifiEvts])

/-- The loop around `Wifi::connect`, which goes on as long as scans time out. -/
def connectLoop (wifi : Wifi) : List WifiAttempt → Option Wifi × List StartupCall
  | [] => (none, [])
  | input :: rest =>
      let (ret, wifi, calls) := attempt wifi input
      if ret = .wifiScanResultTimeout then
        let (last, more) := connectLoop wifi rest
        (last, calls ++ more)
      else (some wifi, calls)

/-- `main` from the wait for an address on. The timeout is converted to 16 bits, and its result is
not looked at. -/
def openWebsocket (wifi : Wifi) (addressDelay : Option ℕ) : List StartupCall :=
  let timeout := Wifi.connectedTimeout (UInt16.ofInt sysForeverMs)
  match EventWait.outcome timeout addressDelay with
  | none => [.waitEvent wifi.wifiEvts]
  | some seen =>
      let after := if seen then wifi.handleWifiIpAddrResult else wifi
      [.waitEvent wifi.wifiEvts, .websocketInit after.wifiEvts, .websocketConnect after.wifiEvts]

/-- `main` as far as the websocket. -/
def main (input : StartupInput) : List StartupCall :=
  match Wifi.created.init input.ready input.iface testSsid testPsk with
  | .error _ => []
  | .ok (ret, wifi, _) =>
      if ret = .ok then
        match connectLoop wifi input.attempts with
        | (none, calls) => calls
        | (some wifi, calls) => calls ++ openWebsocket wifi input.addressDelay
      else openWebsocket wifi input.addressDelay

end Startup

/-- The network is used once an address has been assigned, and events are waited for once they have
been initialized. -/
def StartupCall.Lawful : StartupCall → Prop
  | .waitEvent wifiEvts => wifiEvts.isSome = true
  | .websocketInit wifiEvts | .websocketConnect wifiEvts =>
      wifiEvts.any WifiEvents.connected = true

/-- A scan result reports the configured network, as far as the driver compares it. -/
def WifiScanResult.ReportsNetwork (entry : WifiScanResult) : Prop :=
  entry.ssid.slice 0 testSsid.length = testSsid

/-- The call of `Wifi::connect` times out: a scan is made that does not report the network. -/
def WifiAttempt.TimesOut (input : WifiAttempt) : Prop :=
  input.scanRequest = 0 ∧ ∀ entry ∈ input.results, ¬ entry.ReportsNetwork

/-- The address is assigned within 65535 ms. -/
def StartupInput.AddressInTime (input : StartupInput) : Prop :=
  ∃ delay, input.addressDelay = some delay ∧ delay ≤ 65535

/-- The device is ready, and the driver has no interface, or every scan times out, or the address is
assigned in time. -/
def StartupInput.BringsUpWifi (input : StartupInput) : Prop :=
  input.ready = true ∧
    (input.iface = none ∨ (∀ call ∈ input.attempts, call.TimesOut) ∨ input.AddressInTime)

namespace Startup

/-- An initialized driver that looks for the configured network and has no address yet. -/
structure Scanning (wifi : Wifi) : Prop where
  initialized : wifi.initialized = true
  isSome : wifi.wifiEvts.isSome = true
  connected : wifi.connected = false
  matchesSsid : ∀ entry, wifi.matchesSsid entry = true ↔ entry.ReportsNetwork

variable {wifi : Wifi}

/-- Initialization leaves such a driver behind. -/
theorem scanning_of_init {ready : Bool} {iface : Option ℕ} {next : Wifi} {calls : List WifiCall}
    (h : Wifi.created.init ready iface testSsid testPsk = .ok (.ok, next, calls)) :
    Scanning next ∧ next.ssidFound = false := by
  cases ready with
  | false =>
    have hret : RetCode.deviceNotReady = RetCode.ok := congrArg Prod.fst (Except.ok.inj h)
    exact absurd hret (by decide)
  | true =>
    cases iface with
    | none => cases h
    | some iface =>
      cases h
      refine ⟨⟨rfl, rfl, rfl, fun entry ↦ ?_⟩, rfl⟩
      have hssid : (Wifi.created.ssid.overlay (testSsid.take wifiSsidMaxLen)).slice 0
          testSsid.length = testSsid := by decide +kernel
      have hlength : min testSsid.length wifiSsidMaxLen = testSsid.length := by decide
      simp only [Wifi.matchesSsid, hssid, hlength, decide_eq_true_eq]
      exact eq_comm

theorem Scanning.scanResult (h : Scanning wifi) (entry : WifiScanResult) :
    Scanning (wifi.handleWifiScanResult entry) := by
  obtain ⟨hinit, hsome, hconnected, -, -⟩ := wifi.handleWifiScanResult_effect entry
  refine ⟨hinit.trans h.initialized, hsome.trans h.isSome, hconnected.trans h.connected,
    fun other ↦ ?_⟩
  rw [← h.matchesSsid]
  unfold Wifi.handleWifiScanResult
  split_ifs <;> rfl

/-- The results of a scan set the event exactly if one of them reports the network. -/
theorem Scanning.scanResults (h : Scanning wifi) (results : List WifiScanResult) :
    Scanning (results.foldl Wifi.handleWifiScanResult wifi) ∧
      ((results.foldl Wifi.handleWifiScanResult wifi).ssidFound = true ↔
        wifi.ssidFound = true ∨ ∃ entry ∈ results, entry.ReportsNetwork) := by
  induction results generalizing wifi with
  | nil => simpa using h
  | cons entry rest ih =>
    obtain ⟨hscanning, hfound⟩ := ih (h.scanResult entry)
    refine ⟨hscanning, hfound.trans ?_⟩
    obtain ⟨-, -, -, -, hevent⟩ := wifi.handleWifiScanResult_effect entry
    rw [hevent, h.isSome, List.exists_mem_cons_iff, ← h.matchesSsid]
    cases hmatch : wifi.matchesSsid entry with
    | true => simp
    | false => simp

/-- What one call of `Wifi::connect` leaves behind. -/
theorem Scanning.attempt (h : Scanning wifi) (hfound : wifi.ssidFound = false)
    (input : WifiAttempt) :
    Scanning (Startup.attempt wifi input).2.1 ∧
      (∀ call ∈ (Startup.attempt wifi input).2.2, call.Lawful) ∧
      ((Startup.attempt wifi input).1 = .wifiScanResultTimeout ↔ input.TimesOut) ∧
      (input.TimesOut → (Startup.attempt wifi input).2.1.ssidFound = false) := by
  unfold Startup.attempt Wifi.requestScan
  by_cases hrequest : input.scanRequest = 0
  · simp only [h.initialized, hrequest, Bool.not_true, Bool.false_eq_true, if_false, ne_eq,
      not_true_eq_false]
    obtain ⟨hscanning, hresults⟩ := h.scanResults input.results
    rw [hfound] at hresults
    have htimesOut : input.TimesOut ↔
        (input.results.foldl Wifi.handleWifiScanResult wifi).ssidFound = false := by
      rw [← Bool.not_eq_true, hresults, WifiAttempt.TimesOut]
      simp [hrequest]
    generalize input.results.foldl Wifi.handleWifiScanResult wifi = found at hscanning htimesOut
    obtain ⟨params, hparams⟩ := found.requestConnect_effect found.ssidFound
    rw [hparams, htimesOut]
    refine ⟨⟨hscanning.initialized, hscanning.isSome, hscanning.connected, hscanning.matchesSsid⟩,
      by simpa [StartupCall.Lawful] using h.isSome, ?_, id⟩
    cases hset : found.ssidFound with
    | true =>
      have hret : (found.requestConnect true).1 = .ok := rfl
      rw [hret]
      decide
    | false => exact ⟨fun _ ↦ rfl, fun _ ↦ rfl⟩
  · simp only [h.initialized, hrequest, Bool.not_true, Bool.false_eq_true, if_false, ne_eq,
      not_false_eq_true, if_true]
    refine ⟨h, by simp, ?_, fun _ ↦ hfound⟩
    exact ⟨fun hret ↦ absurd hret (by decide), fun hout ↦ absurd hout.1 hrequest⟩

/-- What the loop does: it waits for initialized events, goes on as long as every scan times out, and
otherwise leaves a driver behind that has no address yet. -/
theorem Scanning.connectLoop (h : Scanning wifi) (hfound : wifi.ssidFound = false)
    (attempts : List WifiAttempt) :
    (∀ call ∈ (Startup.connectLoop wifi attempts).2, call.Lawful) ∧
      ((Startup.connectLoop wifi attempts).1 = none ↔ ∀ call ∈ attempts, call.TimesOut) ∧
      ∀ last, (Startup.connectLoop wifi attempts).1 = some last → Scanning last := by
  induction attempts generalizing wifi with
  | nil =>
    refine ⟨?_, ?_, ?_⟩
    · simp [Startup.connectLoop]
    · simp [Startup.connectLoop]
    · simp [Startup.connectLoop]
  | cons input rest ih =>
    obtain ⟨hscanning, hlawful, hret, hclear⟩ := h.attempt hfound input
    unfold Startup.connectLoop
    by_cases htimesOut : input.TimesOut
    · simp only [if_pos (hret.mpr htimesOut)]
      obtain ⟨hrest, hloops, hlast⟩ := ih hscanning (hclear htimesOut)
      refine ⟨List.forall_mem_append.mpr ⟨hlawful, hrest⟩, hloops.trans ?_, hlast⟩
      simp [htimesOut]
    · simp only [if_neg (mt hret.mp htimesOut)]
      refine ⟨hlawful, ?_, fun last hlast ↦ ?_⟩
      · simp [htimesOut]
      · cases hlast
        exact hscanning

/-- Behind the loop everything is lawful exactly if the events are initialized and the address is
assigned before the wait ends, which happens after 65535 ms. -/
theorem openWebsocket_lawful_iff (hconnected : wifi.connected = false) (addressDelay : Option ℕ) :
    (∀ call ∈ openWebsocket wifi addressDelay, call.Lawful) ↔
      wifi.wifiEvts.isSome = true ∧ ∃ delay, addressDelay = some delay ∧ delay ≤ 65535 := by
  have htimeout : Wifi.connectedTimeout (UInt16.ofInt sysForeverMs) = some 65535 :=
    Wifi.connectedTimeout_eq _
  have hposted : wifi.handleWifiIpAddrResult.wifiEvts.any WifiEvents.connected =
      wifi.wifiEvts.isSome := wifi.connected_postConnected
  have hbefore : wifi.wifiEvts.any WifiEvents.connected = false := hconnected
  unfold openWebsocket
  rw [htimeout]
  cases addressDelay with
  | none => simp [EventWait.outcome, StartupCall.Lawful, hbefore]
  | some delay =>
    by_cases hdelay : delay ≤ 65535
    · simp [EventWait.outcome, StartupCall.Lawful, hposted, hdelay]
    · simp [EventWait.outcome, StartupCall.Lawful, hbefore, hdelay]

end Startup

/-- Nothing uses the network before an address has been assigned, and nothing waits for events that
have not been initialized, exactly if the initialization of the Wi-Fi driver does not return an error
and the address is assigned in time, should the driver ever find its network. -/
theorem network_used_after_wifi_iff (input : StartupInput) :
    (∀ call ∈ Startup.main input, call.Lawful) ↔ input.BringsUpWifi := by
  unfold Startup.main StartupInput.BringsUpWifi
  cases hready : input.ready with
  | false =>
    have hinit : Wifi.created.init false input.iface testSsid testPsk =
        .ok (.deviceNotReady, .created, []) := rfl
    have hret : RetCode.deviceNotReady ≠ .ok := by decide
    rw [hinit]
    have hconnected : Wifi.created.connected = false := rfl
    have hevts : Wifi.created.wifiEvts.isSome = false := rfl
    simp only [if_neg hret, Startup.openWebsocket_lawful_iff hconnected, hevts, Bool.false_eq_true,
      false_and]
  | true =>
    cases hiface : input.iface with
    | none =>
      have hinit : Wifi.created.init true none testSsid testPsk = .error .nullPointer := rfl
      rw [hinit]
      simp
    | some iface =>
      obtain ⟨wifi, calls, hinit⟩ : ∃ wifi calls,
          Wifi.created.init true (some iface) testSsid testPsk = .ok (.ok, wifi, calls) :=
        ⟨_, _, rfl⟩
      obtain ⟨hscanning, hclear⟩ := Startup.scanning_of_init hinit
      obtain ⟨hlawful, hloops, hlast⟩ := hscanning.connectLoop hclear input.attempts
      rw [hinit]
      simp only [if_true, reduceCtorEq, false_or, true_and]
      rcases hloop : Startup.connectLoop wifi input.attempts with ⟨last, waits⟩
      rw [hloop] at hlawful hloops hlast
      cases last with
      | none => exact ⟨fun _ ↦ .inl (hloops.mp rfl), fun _ ↦ hlawful⟩
      | some last =>
        have hends : ¬ ∀ call ∈ input.attempts, call.TimesOut := fun hall ↦ by
          cases hloops.mpr hall
        have hscanned := hlast last rfl
        simp only [hends, false_or, List.forall_mem_append,
          Startup.openWebsocket_lawful_iff hscanned.connected, hscanned.isSome, true_and]
        exact and_iff_right hlawful

/-- A start at which the address is assigned after a little more than a minute. -/
def slowStart : StartupInput where
  ready := true
  iface := some 0
  attempts := [{ scanRequest := 0, results := [
    { ssid := (Buffer.fill wifiSsidMaxLen 0).overlay testSsid
      ssidLength := 4
      band := 0
      channel := 1
      security := 1
      mfp := 0 }] }]
  addressDelay := some 70000

/-- Although `main` asks for a wait without a limit, the websocket is opened without an address. -/
theorem websocket_opened_without_address :
    ¬ ∀ call ∈ Startup.main slowStart, call.Lawful := by
  intro hlawful
  have hopened : StartupCall.websocketInit (some { ssidFound := true, connected := false }) ∈
      Startup.main slowStart := by decide +kernel
  have hposted : false = true := hlawful _ hopened
  cases hposted

end CrownstoneRouter
