import CrownstoneRouter.Foundation.EventWait
import CrownstoneRouter.PacketHandling.Packets

/-!
# The Wi-Fi driver

The class `Wifi` scans for the configured network, connects to it, and posts two events of
`_wifi_evts` from callbacks of the network stack: one when a scan result matches, one when an address
has been assigned. Both are waited for by other calls. What the network stack answers is an input,
and what the driver asks it for is a list of calls.
-/

namespace CrownstoneRouter

open CheckedMemory

/-- `WIFI_SSID_MAX_LEN` -/
abbrev wifiSsidMaxLen : ℕ := 32

/-- `WIFI_PSK_MAX_LEN` -/
abbrev wifiPskMaxLen : ℕ := 64

/-- `CS_WIFI_SCAN_TIMEOUT` -/
def wifiScanTimeout : ℕ := 5000

/-- `SYS_FOREVER_MS` -/
def sysForeverMs : ℤ := -1

namespace RetCode

/-- `CS_ERR_WIFI_SCAN_REQUEST_FAILED` -/
def wifiScanRequestFailed : RetCode := 0x202

/-- `CS_ERR_WIFI_SCAN_RESULT_TIMEOUT` -/
def wifiScanResultTimeout : RetCode := 0x203

/-- `CS_ERR_WIFI_DISCONNECT_REQUEST_FAILED` -/
def wifiDisconnectRequestFailed : RetCode := 0x204

end RetCode

/-- `wifi_scan_result` -/
structure WifiScanResult where
  ssid : Buffer UInt8 wifiSsidMaxLen
  ssidLength : UInt8
  band : UInt8
  channel : UInt8
  security : ℕ
  mfp : ℕ
  deriving DecidableEq

/-- `wifi_connect_req_params`, with what its pointers lead to. -/
structure WifiConnectReqParams where
  ssid : Option (Buffer UInt8 wifiSsidMaxLen)
  ssidLength : ℕ
  psk : Option (Buffer UInt8 wifiPskMaxLen)
  pskLength : ℕ
  band : UInt8
  channel : UInt8
  security : ℕ
  mfp : ℕ
  timeout : ℤ
  deriving DecidableEq

/-- The parameters that `memset` leaves behind. -/
def WifiConnectReqParams.zero : WifiConnectReqParams where
  ssid := none
  ssidLength := 0
  psk := none
  pskLength := 0
  band := 0
  channel := 0
  security := 0
  mfp := 0
  timeout := 0

/-- The two events of `_wifi_evts`. -/
structure WifiEvents where
  ssidFound : Bool
  connected : Bool
  deriving DecidableEq

/-- What the driver asks the network stack for. -/
inductive WifiCall
  | setDefault (iface : ℕ)
  | addWifiCallback
  | addDhcpCallback
  | scanRequest (iface : Option ℕ)
  | connectRequest (iface : Option ℕ) (params : WifiConnectReqParams)
  | disconnectRequest (iface : Option ℕ)
  | dhcpv4Start
  deriving DecidableEq

/-- The class `Wifi`. Before `k_event_init` there are no events, and the lengths are those of what
has been stored. -/
structure Wifi where
  initialized : Bool
  iface : Option ℕ
  ssid : Buffer UInt8 wifiSsidMaxLen
  ssidLen : ℕ
  ssidLen_le : ssidLen ≤ wifiSsidMaxLen
  psk : Buffer UInt8 wifiPskMaxLen
  pskLen : ℕ
  pskLen_le : pskLen ≤ wifiPskMaxLen
  cnxParams : WifiConnectReqParams
  wifiEvts : Option WifiEvents
  disconnecting : Bool
  deriving DecidableEq

namespace Wifi

/-- The one instance before `init`. -/
def created : Wifi where
  initialized := false
  iface := none
  ssid := Buffer.fill wifiSsidMaxLen 0
  ssidLen := 0
  ssidLen_le := Nat.zero_le _
  psk := Buffer.fill wifiPskMaxLen 0
  pskLen := 0
  pskLen_le := Nat.zero_le _
  cnxParams := .zero
  wifiEvts := none
  disconnecting := false

/-- `CS_WIFI_SSID_FOUND_EVENT` is set. -/
def ssidFound (wifi : Wifi) : Bool :=
  wifi.wifiEvts.any WifiEvents.ssidFound

/-- `CS_WIFI_CONNECTED_EVENT` is set. -/
def connected (wifi : Wifi) : Bool :=
  wifi.wifiEvts.any WifiEvents.connected

/-- `k_event_post` of `CS_WIFI_SSID_FOUND_EVENT` -/
def postSsidFound (wifi : Wifi) : Wifi :=
  { wifi with wifiEvts := wifi.wifiEvts.map fun evts ↦ { evts with ssidFound := true } }

/-- `k_event_post` of `CS_WIFI_CONNECTED_EVENT` -/
def postConnected (wifi : Wifi) : Wifi :=
  { wifi with wifiEvts := wifi.wifiEvts.map fun evts ↦ { evts with connected := true } }

/-! ## Callbacks -/

/-- The `memcmp` of `handleWifiScanResult`. -/
def matchesSsid (wifi : Wifi) (entry : WifiScanResult) : Bool :=
  wifi.ssid.slice 0 wifi.ssidLen = entry.ssid.slice 0 wifi.ssidLen

/-- `handleWifiScanResult` -/
def handleWifiScanResult (wifi : Wifi) (entry : WifiScanResult) : Wifi :=
  if wifi.matchesSsid entry then
    { wifi with
      cnxParams := { wifi.cnxParams with
        security := entry.security
        band := entry.band
        channel := entry.channel
        mfp := entry.mfp } }.postSsidFound
  else wifi

/-- `handleWifiIpAddrResult` -/
def handleWifiIpAddrResult (wifi : Wifi) : Wifi :=
  wifi.postConnected

/-- `handleWifiConnectionResult` -/
def handleWifiConnectionResult (wifi : Wifi) (status : ℤ) : Wifi × List WifiCall :=
  if status ≠ 0 then (wifi, []) else (wifi, [.dhcpv4Start])

/-- `handleWifiDisconnectionResult`, which writes one of three texts to the log. -/
def handleWifiDisconnectionResult (wifi : Wifi) (_status : ℤ) : Wifi :=
  wifi

/-! ## Methods -/

/-- `Wifi::init`. Without an interface for the device, the error message follows the pointer that
has just been found to be null. -/
def init (wifi : Wifi) (ready : Bool) (iface : Option ℕ) (ssid psk : List UInt8) :
    Checked (RetCode × Wifi × List WifiCall) :=
  if wifi.initialized then .ok (.alreadyInitialized, wifi, [])
  else if !ready then .ok (.deviceNotReady, wifi, [])
  else
    match iface with
    | none => .error .nullPointer
    | some iface =>
        .ok (.ok, { wifi with
          iface := some iface
          wifiEvts := some { ssidFound := false, connected := false }
          cnxParams := .zero
          ssidLen := min ssid.length wifiSsidMaxLen
          ssidLen_le := Nat.min_le_right _ _
          pskLen := min psk.length wifiPskMaxLen
          pskLen_le := Nat.min_le_right _ _
          ssid := wifi.ssid.overlay (ssid.take wifiSsidMaxLen)
          psk := wifi.psk.overlay (psk.take wifiPskMaxLen)
          initialized := true },
          [.setDefault iface, .addWifiCallback, .addDhcpCallback])

/-- `Wifi::connect` up to its wait for `CS_WIFI_SSID_FOUND_EVENT`; `none` means that it waits.
`scanRequest` is what the scan request returns. -/
def requestScan (wifi : Wifi) (scanRequest : ℤ) : Option RetCode × List WifiCall :=
  if !wifi.initialized then (some .notInitialized, [])
  else if scanRequest ≠ 0 then (some .wifiScanRequestFailed, [.scanRequest wifi.iface])
  else (none, [.scanRequest wifi.iface])

/-- `Wifi::connect` from the end of its wait on. A connect request that fails is only logged. -/
def requestConnect (wifi : Wifi) (seen : Bool) : RetCode × Wifi × List WifiCall :=
  if !seen then (.wifiScanResultTimeout, wifi, [])
  else
    let wifi := { wifi with
      cnxParams := { wifi.cnxParams with
        ssid := some wifi.ssid
        ssidLength := wifi.ssidLen
        psk := some wifi.psk
        pskLength := wifi.pskLen
        timeout := sysForeverMs } }
    (.ok, wifi, [.connectRequest wifi.iface wifi.cnxParams])

/-- The wait of `Wifi::connect` at one moment. -/
def awaitScan (wifi : Wifi) (waited : ℕ) : Option Bool :=
  EventWait.poll wifi.ssidFound (some wifiScanTimeout) waited

/-- The timeout that `Wifi::waitConnected` makes of its parameter, which has 16 bits. -/
def connectedTimeout (timeoutMs : UInt16) : Option ℕ :=
  if (timeoutMs.toNat : ℤ) ≠ sysForeverMs then some timeoutMs.toNat else none

/-- `Wifi::waitConnected` at one moment of its wait; `none` means that it goes on. -/
def waitConnected (wifi : Wifi) (timeoutMs : UInt16) (waited : ℕ) : Option RetCode :=
  (EventWait.poll wifi.connected (connectedTimeout timeoutMs) waited).map fun seen ↦
    if seen then .ok else .timeout

/-- `Wifi::disconnect`; `request` is what the disconnect request returns. -/
def disconnect (wifi : Wifi) (request : ℤ) : RetCode × Wifi × List WifiCall :=
  let wifi := { wifi with disconnecting := true }
  if request ≠ 0 then (.wifiDisconnectRequestFailed, wifi, [.disconnectRequest wifi.iface])
  else (.ok, wifi, [.disconnectRequest wifi.iface])

/-! ## Specifications -/

/-- A parameter of 16 bits never means to wait without a limit. -/
theorem connectedTimeout_eq (timeoutMs : UInt16) :
    connectedTimeout timeoutMs = some timeoutMs.toNat := by
  apply if_pos
  unfold sysForeverMs
  omega

section Events

variable (wifi : Wifi)

@[simp]
theorem isSome_postSsidFound : wifi.postSsidFound.wifiEvts.isSome = wifi.wifiEvts.isSome := by
  simp [postSsidFound]

@[simp]
theorem ssidFound_postSsidFound : wifi.postSsidFound.ssidFound = wifi.wifiEvts.isSome := by
  cases hevts : wifi.wifiEvts <;> simp [postSsidFound, ssidFound, hevts]

@[simp]
theorem connected_postSsidFound : wifi.postSsidFound.connected = wifi.connected := by
  cases hevts : wifi.wifiEvts <;> simp [postSsidFound, connected, hevts]

@[simp]
theorem isSome_postConnected : wifi.postConnected.wifiEvts.isSome = wifi.wifiEvts.isSome := by
  simp [postConnected]

@[simp]
theorem ssidFound_postConnected : wifi.postConnected.ssidFound = wifi.ssidFound := by
  cases hevts : wifi.wifiEvts <;> simp [postConnected, ssidFound, hevts]

@[simp]
theorem connected_postConnected : wifi.postConnected.connected = wifi.wifiEvts.isSome := by
  cases hevts : wifi.wifiEvts <;> simp [postConnected, connected, hevts]

/-- A scan result changes nothing but the parameters and the event of a match. -/
theorem handleWifiScanResult_effect (entry : WifiScanResult) :
    let next := wifi.handleWifiScanResult entry
    next.initialized = wifi.initialized ∧ next.wifiEvts.isSome = wifi.wifiEvts.isSome ∧
      next.connected = wifi.connected ∧ next.disconnecting = wifi.disconnecting ∧
      next.ssidFound = if wifi.matchesSsid entry then wifi.wifiEvts.isSome else wifi.ssidFound := by
  unfold handleWifiScanResult
  cases hmatch : wifi.matchesSsid entry with
  | true =>
    simp only [if_true, isSome_postSsidFound, connected_postSsidFound, ssidFound_postSsidFound]
    exact ⟨rfl, trivial, rfl, rfl, trivial⟩
  | false => simp

theorem requestConnect_effect (seen : Bool) :
    ∃ params, (wifi.requestConnect seen).2.1 = { wifi with cnxParams := params } := by
  unfold requestConnect
  cases seen with
  | true => exact ⟨_, rfl⟩
  | false => exact ⟨wifi.cnxParams, rfl⟩

theorem disconnect_effect (request : ℤ) :
    (wifi.disconnect request).2.1 = { wifi with disconnecting := true } := by
  unfold disconnect
  split_ifs <;> rfl

end Events

/-- Everything that a call of `init` that returns can do: nothing, or initialize the driver with both
events cleared. -/
theorem init_cases {wifi next : Wifi} {ready : Bool} {iface : Option ℕ} {ssid psk : List UInt8}
    {ret : RetCode} {calls : List WifiCall}
    (h : wifi.init ready iface ssid psk = .ok (ret, next, calls)) :
    (ret ≠ .ok ∧ next = wifi) ∨
    (ret = .ok ∧ wifi.initialized = false ∧ next.initialized = true ∧
      next.wifiEvts = some { ssidFound := false, connected := false } ∧
      next.disconnecting = wifi.disconnecting) := by
  unfold init at h
  split_ifs at h with hinit hready
  · cases h
    exact .inl ⟨by decide, rfl⟩
  · cases h
    exact .inl ⟨by decide, rfl⟩
  · cases iface with
    | none => cases h
    | some iface =>
      cases h
      exact .inr ⟨rfl, by simpa using hinit, rfl, rfl, rfl⟩

theorem connected_of_waitConnected {wifi : Wifi} {timeoutMs : UInt16} {waited : ℕ}
    (h : wifi.waitConnected timeoutMs waited = some .ok) : wifi.connected = true := by
  obtain ⟨seen, hpoll, hseen⟩ := Option.map_eq_some_iff.mp h
  cases seen with
  | true => exact EventWait.set_of_poll hpoll
  | false => exact absurd hseen (by decide)

end Wifi

end CrownstoneRouter
