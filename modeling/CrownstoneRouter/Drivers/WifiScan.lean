import Mathlib.Data.List.Induction
import CrownstoneRouter.Drivers.Wifi

/-!
# Scan results

`handleWifiScanResult` compares as many bytes as the configured SSID has, and never looks at the
length of the SSID that was found. A network whose SSID only begins with the configured one matches
as well, and what it leaves in the parameters of the connect request is what the last match leaves.
-/

namespace CrownstoneRouter

open CheckedMemory

namespace WifiScanResult

/-- The SSID of the result is the configured one, in length and in every byte. -/
def HasSsid (entry : WifiScanResult) (ssid : List UInt8) : Prop :=
  entry.ssidLength.toNat = ssid.length ∧ entry.ssid.slice 0 ssid.length = ssid

/-- The SSID of the result has the configured one at its front, or is followed by the rest of it in
memory. -/
def beginsWith (ssid : List UInt8) (entry : WifiScanResult) : Bool :=
  entry.ssid.slice 0 ssid.length = ssid

def network (entry : WifiScanResult) : ℕ × UInt8 × UInt8 × ℕ :=
  (entry.security, entry.band, entry.channel, entry.mfp)

instance (entry : WifiScanResult) (ssid : List UInt8) : Decidable (entry.HasSsid ssid) :=
  inferInstanceAs (Decidable (_ ∧ _))

end WifiScanResult

/-- The network that a connect request is for. -/
def WifiConnectReqParams.network (params : WifiConnectReqParams) : ℕ × UInt8 × UInt8 × ℕ :=
  (params.security, params.band, params.channel, params.mfp)

namespace Wifi

def scanned (wifi : Wifi) (results : List WifiScanResult) : Wifi :=
  results.foldl handleWifiScanResult wifi

/-- The event is posted exactly if the configured network is among the results, and a request to
connect that follows is for that network. -/
structure JoinsOnlyConfigured (wifi : Wifi) (ssid : List UInt8) (results : List WifiScanResult) :
    Prop where
  found : (wifi.scanned results).ssidFound = true ↔ ∃ entry ∈ results, entry.HasSsid ssid
  joined : ∀ waited seen iface params, (wifi.scanned results).awaitScan waited = some seen →
    .connectRequest iface params ∈ ((wifi.scanned results).requestConnect seen).2.2 →
    ∃ entry ∈ results, entry.HasSsid ssid ∧ params.network = entry.network

/-- The driver is set up for this SSID. -/
structure Configured (wifi : Wifi) (ssid : List UInt8) : Prop where
  stored : wifi.ssid.slice 0 wifi.ssidLen = ssid
  length : wifi.ssidLen = ssid.length
  events : wifi.wifiEvts.isSome = true

variable {wifi next : Wifi} {ssid : List UInt8} {results : List WifiScanResult}

/-- A successful `init` stores an SSID that is not too long as a whole, with its events cleared. -/
theorem configured_of_init {ready : Bool} {iface : Option ℕ} {psk : List UInt8}
    {calls : List WifiCall} (hssid : ssid.length ≤ wifiSsidMaxLen)
    (h : wifi.init ready iface ssid psk = .ok (.ok, next, calls)) :
    next.Configured ssid ∧ next.ssidFound = false := by
  unfold init at h
  split_ifs at h with hinit hready
  · have hret : RetCode.alreadyInitialized = .ok := congrArg Prod.fst (Except.ok.inj h)
    exact absurd hret (by decide)
  · have hret : RetCode.deviceNotReady = .ok := congrArg Prod.fst (Except.ok.inj h)
    exact absurd hret (by decide)
  · cases iface with
    | none => cases h
    | some iface =>
      cases h
      have hstored : (wifi.ssid.overlay (ssid.take wifiSsidMaxLen)).slice 0
          (min ssid.length wifiSsidMaxLen) = ssid := by
        rw [List.take_of_length_le hssid, Nat.min_eq_left hssid]
        exact wifi.ssid.slice_overlay hssid
      exact ⟨⟨hstored, Nat.min_eq_left hssid, rfl⟩, rfl⟩

theorem Configured.matchesSsid (h : wifi.Configured ssid) (entry : WifiScanResult) :
    wifi.matchesSsid entry = entry.beginsWith ssid := by
  rw [Wifi.matchesSsid, WifiScanResult.beginsWith, h.stored, h.length, decide_eq_decide, eq_comm]

theorem Configured.handle_other (h : wifi.Configured ssid) {entry : WifiScanResult}
    (hother : entry.beginsWith ssid = false) : wifi.handleWifiScanResult entry = wifi := by
  simp [handleWifiScanResult, h.matchesSsid, hother]

theorem Configured.handle_match (h : wifi.Configured ssid) {entry : WifiScanResult}
    (hmatch : entry.beginsWith ssid = true) :
    (wifi.handleWifiScanResult entry).ssidFound = true ∧
      (wifi.handleWifiScanResult entry).cnxParams.network = entry.network := by
  simp only [handleWifiScanResult, h.matchesSsid, hmatch, if_true, ssidFound_postSsidFound]
  exact ⟨h.events, rfl⟩

theorem Configured.handle (h : wifi.Configured ssid) (entry : WifiScanResult) :
    (wifi.handleWifiScanResult entry).Configured ssid := by
  unfold handleWifiScanResult
  split_ifs
  · exact ⟨h.stored, h.length, (isSome_postSsidFound _).trans h.events⟩
  · exact h

/-- After a scan, the event and the parameters are those of the last result that begins with the
SSID. -/
theorem Configured.scanned (h : wifi.Configured ssid) (results : List WifiScanResult) :
    (wifi.scanned results).Configured ssid ∧
      match (results.filter (·.beginsWith ssid)).getLast? with
      | none => wifi.scanned results = wifi
      | some last =>
          (wifi.scanned results).ssidFound = true ∧
            (wifi.scanned results).cnxParams.network = last.network := by
  induction results using List.reverseRecOn with
  | nil => exact ⟨h, rfl⟩
  | append_singleton results entry ih =>
    obtain ⟨hconfigured, heffect⟩ := ih
    have hscanned : wifi.scanned (results ++ [entry]) =
        (wifi.scanned results).handleWifiScanResult entry := List.foldl_concat ..
    rw [hscanned]
    refine ⟨hconfigured.handle entry, ?_⟩
    cases hmatch : entry.beginsWith ssid with
    | true =>
      rw [List.filter_append, List.filter_singleton, hmatch]
      simpa using hconfigured.handle_match hmatch
    | false =>
      rw [List.filter_append, List.filter_singleton, hmatch, hconfigured.handle_other hmatch]
      simpa using heffect

theorem beginsWith_of_hasSsid {entry : WifiScanResult} (h : entry.HasSsid ssid) :
    entry.beginsWith ssid = true :=
  decide_eq_true h.2

/-- A request to connect is made once the wait has seen the event, for the network of the
parameters. -/
theorem connectRequest_mem_iff (wifi : Wifi) (seen : Bool) (network : ℕ × UInt8 × UInt8 × ℕ) :
    (∃ iface params, .connectRequest iface params ∈ (wifi.requestConnect seen).2.2 ∧
      params.network = network) ↔ seen = true ∧ wifi.cnxParams.network = network := by
  cases seen with
  | true => simp [requestConnect, WifiConnectReqParams.network]
  | false => simp [requestConnect]

/-- The driver joins the configured network, and no other one, exactly if the last result whose SSID
begins with the configured one describes a result with just this SSID. -/
theorem joins_only_configured_iff {ready : Bool} {iface : Option ℕ} {psk : List UInt8}
    {calls : List WifiCall} (hssid : ssid.length ≤ wifiSsidMaxLen)
    (hinit : wifi.init ready iface ssid psk = .ok (.ok, next, calls))
    (results : List WifiScanResult) :
    next.JoinsOnlyConfigured ssid results ↔
      ∀ last, (results.filter (·.beginsWith ssid)).getLast? = some last →
        ∃ entry ∈ results, entry.HasSsid ssid ∧ last.network = entry.network := by
  obtain ⟨hconfigured, hcleared⟩ := configured_of_init hssid hinit
  obtain ⟨-, heffect⟩ := hconfigured.scanned results
  cases hlast : (results.filter (·.beginsWith ssid)).getLast? with
  | none =>
    have hother : ∀ entry ∈ results, ¬ entry.HasSsid ssid := fun entry hentry hequal ↦
      List.filter_eq_nil_iff.mp (List.getLast?_eq_none_iff.mp hlast) entry hentry
        (beginsWith_of_hasSsid hequal)
    have hunseen : (next.scanned results).ssidFound = false := by
      simp only [hlast] at heffect
      rw [heffect, hcleared]
    simp only [reduceCtorEq, false_imp_iff, implies_true, iff_true]
    constructor
    · rw [hunseen]
      simpa using hother
    · intro waited seen iface params hwait hrequest
      obtain ⟨rfl, -⟩ := (connectRequest_mem_iff _ seen _).mp ⟨iface, params, hrequest, rfl⟩
      exact absurd (hunseen.symm.trans (EventWait.set_of_poll hwait)) (by decide)
  | some last =>
    simp only [hlast] at heffect
    obtain ⟨hseen, hnetwork⟩ := heffect
    simp only [Option.some.injEq, forall_eq']
    constructor
    · intro h
      have hwait : (next.scanned results).awaitScan 0 = some true := by
        rw [awaitScan, hseen, EventWait.poll_of_set]
      obtain ⟨iface, params, hrequest, hparams⟩ :=
        (connectRequest_mem_iff (next.scanned results) true _).mpr ⟨rfl, hnetwork⟩
      obtain ⟨entry, hentry, hequal, hsame⟩ := h.joined 0 true iface params hwait hrequest
      exact ⟨entry, hentry, hequal, hparams.symm.trans hsame⟩
    · rintro ⟨entry, hentry, hequal, hsame⟩
      constructor
      · exact iff_of_true hseen ⟨entry, hentry, hequal⟩
      · intro waited seen iface params _ hrequest
        obtain ⟨-, hparams⟩ := (connectRequest_mem_iff _ seen _).mp ⟨iface, params, hrequest, rfl⟩
        exact ⟨entry, hentry, hequal, (hparams.symm.trans hnetwork).trans hsame⟩

/-- A network as a scan reports it. -/
def foundNetwork (ssid : List UInt8) (channel : UInt8) : WifiScanResult where
  ssid := (Buffer.fill wifiSsidMaxLen 0).overlay ssid
  ssidLength := UInt8.ofNat ssid.length
  band := 0
  channel := channel
  security := 1
  mfp := 0

/-- A driver that looks for the network `s`, and finds it behind one with a longer SSID. -/
theorem joins_after_longer_ssid : ∃ (next : Wifi) (calls : List WifiCall),
    created.init true (some 1) [0x73] [] = .ok (.ok, next, calls) ∧
    (next.JoinsOnlyConfigured [0x73] [foundNetwork [0x73, 0x61] 6, foundNetwork [0x73] 1] ↔
      ∀ last, ([foundNetwork [0x73, 0x61] 6, foundNetwork [0x73] 1].filter
          (·.beginsWith [0x73])).getLast? = some last →
        ∃ entry ∈ [foundNetwork [0x73, 0x61] 6, foundNetwork [0x73] 1], entry.HasSsid [0x73] ∧
          last.network = entry.network) :=
  ⟨_, _, rfl, joins_only_configured_iff (by decide)
    (rfl : created.init true (some 1) [0x73] [] = _) _⟩

/-- A driver that looks for the network `s` joins the network `sa`. -/
theorem longer_ssid_joined : ∃ (next : Wifi) (calls : List WifiCall),
    created.init true (some 1) [0x73] [] = .ok (.ok, next, calls) ∧
    ¬ next.JoinsOnlyConfigured [0x73] [foundNetwork [0x73, 0x61] 6] := by
  refine ⟨_, _, rfl, fun h ↦ ?_⟩
  obtain ⟨entry, hentry, hequal⟩ := h.found.mp (by decide)
  obtain rfl := List.mem_singleton.mp hentry
  exact absurd hequal (by decide)

end Wifi

end CrownstoneRouter
