import CrownstoneRouter.Drivers.BleLink
import CrownstoneRouter.Drivers.BleSessions

/-!
# The accesses of the Bluetooth callbacks

Which callbacks of the stack leave the memory that they are given or the buffer of the driver, and
which of them hand a packet over.
-/

namespace CrownstoneRouter

open CheckedMemory

namespace BleDriver

/-- A callback leaves the memory that it is given, or the buffer: a notification without a counter,
a length that the memory does not cover, or the end of a read whose counter is behind the buffer. -/
def Strays (ble : BleDriver) : BleAction → Prop
  | .notified conn data length =>
      conn.isSome = true ∧ ∃ part ∈ data, part = [] ∨
        ble.TakesNotification conn data length ∧ (length = 0 ∨ part.length < length.toNat)
  | .readResult err data length =>
      match data with
      | none => packetBufSize < ble.bleBufCtr.toNat
      | some chunk => ble.TakesChunk err length ∧ chunk.length < length.toNat
  | _ => False

instance (ble : BleDriver) : ∀ action, Decidable (ble.Strays action)
  | .notified conn data length => decidable_of_iff (conn.isSome = true ∧
      ∃ part, data = some part ∧ (part = [] ∨
        ble.TakesNotification conn data length ∧ (length = 0 ∨ part.length < length.toNat))) Iff.rfl
  | .readResult _ none _ | .readResult _ (some _) _ => by
      unfold Strays
      infer_instance
  | .connect _ | .discoverServices _ | .write _ _ _ | .read _ | .disconnect | .sendMessage _
  | .deviceFound _ _ | .connectionResult _ _ _ | .disconnected _ _ _ | .discovered _ _ _
  | .discoveryDone _ => inferInstanceAs (Decidable False)

/-- A callback hands a packet over: the last notification of a series, or the end of a read. -/
def Reports (ble : BleDriver) : BleAction → Prop
  | .notified conn data length =>
      ble.hasPktHandler = true ∧ ble.TakesNotification conn data length ∧
        (data.getD []).getD 0 0 = 255
  | .readResult _ data _ => ble.hasPktHandler = true ∧ data = none
  | _ => False

instance (ble : BleDriver) : ∀ action, Decidable (ble.Reports action)
  | .notified _ _ _ => inferInstanceAs (Decidable (_ ∧ _ ∧ _))
  | .readResult _ _ _ => inferInstanceAs (Decidable (_ ∧ _))
  | .connect _ | .discoverServices _ | .write _ _ _ | .read _ | .disconnect | .sendMessage _
  | .deviceFound _ _ | .connectionResult _ _ _ | .disconnected _ _ _ | .discovered _ _ _
  | .discoveryDone _ => inferInstanceAs (Decidable False)

variable {text : BtAddrText} {ble next : BleDriver} {bt : BtAnswers} {calls : List BleCall}

/-! ## Notifications -/

/-- A notification with a counter whose length is covered is handled. -/
theorem handleNotifications_of_covered (ble : BleDriver) (conn : ℕ) {counter : UInt8}
    {body : List UInt8} {length : UInt16} (hlength : 1 ≤ length.toNat)
    (hcovered : length.toNat ≤ body.length + 1) :
    ∃ result, ble.handleNotifications (some conn) (some (counter :: body)) length = .ok result := by
  by_cases hctr : ble.bleBufCtr.toNat ≤ packetBufSize
  · rw [(holds_of_counter hctr).handleNotifications conn counter hlength hcovered]
    split_ifs <;> exact ⟨_, rfl⟩
  · have hlong : sizeOfInt (ble.bleBufCtr.toNat + length.toNat - 1) > packetBufSize := by
      have hbehind : 250 < ble.bleBufCtr.toNat := not_le.mp hctr
      have hcounter := ble.bleBufCtr.toNat_lt
      have hbound := length.toNat_lt
      unfold sizeOfInt packetBufSize
      omega
    have hfirst : loadByte (.ofList (counter :: body)) 0 = .ok counter :=
      if_pos (Nat.succ_pos body.length)
    refine ⟨(.stop, ble, []), ?_⟩
    simp only [handleNotifications, hfirst, bind, bind_ok, if_pos hlong]
    rfl

theorem handleNotifications_returns_iff (ble : BleDriver) (conn : Option ℕ)
    (data : Option (List UInt8)) (length : UInt16) :
    (∃ result, ble.handleNotifications conn data length = .ok result) ↔
      ¬ ble.Strays (.notified conn data length) := by
  cases conn with
  | none => exact iff_of_true ⟨_, rfl⟩ fun hstrays ↦ absurd hstrays.1 (by decide)
  | some conn =>
    cases data with
    | none =>
      refine iff_of_true ⟨_, rfl⟩ ?_
      rintro ⟨-, part, hpart, -⟩
      cases hpart
    | some part =>
      constructor
      · rintro ⟨⟨iter, next, calls⟩, hhandled⟩ ⟨-, other, hother, hstrays⟩
        obtain rfl := Option.some.inj hother
        cases part with
        | nil => simp [handleNotifications, loadByte, bind] at hhandled
        | cons counter body =>
          obtain ⟨htakes, hlength⟩ := hstrays.resolve_left (List.cons_ne_nil counter body)
          obtain ⟨hnot, -⟩ | ⟨-, taken, bleBuf, -, htaken, hcopy, -⟩ :=
            handleNotifications_cases hhandled
          · exact hnot htakes
          · obtain rfl := Option.some.inj htaken
            obtain ⟨hfits, hslice, -⟩ := Buffer.memcpy_eq_ok hcopy
            have hbound := length.toNat_lt
            have hsize : packetBufSize = 250 := rfl
            rw [Buffer.slice, List.length_take, List.length_drop, Buffer.length_cells] at hslice
            unfold sizeOfInt at hfits hslice
            rw [List.length_cons] at hlength hslice
            obtain rfl | hshort := hlength
            · have hwrapped : ((((0 : UInt16).toNat : ℤ) - 1) % 2 ^ 32).toNat = 4294967295 := rfl
              rw [hwrapped] at hfits
              omega
            · omega
      · intro hstays
        have htaken {rest : Prop} (h : part = [] ∨
            ble.TakesNotification (some conn) (some part) length ∧ rest)
            (hrest : rest → length = 0 ∨ part.length < length.toNat) :
            ble.Strays (.notified (some conn) (some part) length) :=
          ⟨rfl, part, rfl, h.imp_right (And.imp_right hrest)⟩
        cases part with
        | nil => exact absurd (htaken (.inl rfl) id) hstays
        | cons counter body =>
          by_cases htakes : ble.TakesNotification (some conn) (some (counter :: body)) length
          · by_cases hlength : length = 0 ∨ (counter :: body).length < length.toNat
            · exact absurd (htaken (.inr ⟨htakes, hlength⟩) id) hstays
            · obtain ⟨hpositive, hcovered⟩ := not_or.mp hlength
              have hone : 1 ≤ length.toNat :=
                Nat.one_le_iff_ne_zero.mpr fun hzero ↦ hpositive (UInt16.toNat_inj.mp hzero)
              exact ble.handleNotifications_of_covered conn hone (not_lt.mp hcovered)
          · have hlong : sizeOfInt (ble.bleBufCtr.toNat + length.toNat - 1) > packetBufSize :=
              not_le.mp fun hfits ↦ htakes ⟨rfl, rfl, hfits⟩
            have hfirst : loadByte (.ofList (counter :: body)) 0 = .ok counter :=
              if_pos (Nat.succ_pos body.length)
            refine ⟨(.stop, ble, []), ?_⟩
            simp only [handleNotifications, hfirst, bind, bind_ok, if_pos hlong]
            rfl

/-- A notification hands a packet over at the end of a series. -/
theorem packets_of_handleNotifications {conn : Option ℕ} {data : Option (List UInt8)}
    {length : UInt16} {iter : GattIter}
    (h : ble.handleNotifications conn data length = .ok (iter, next, calls)) :
    (calls.filterMap BleCall.packet).length =
      if ble.Reports (.notified conn data length) then 1 else 0 := by
  rcases handleNotifications_cases h with ⟨hnot, -, -, rfl⟩ |
    ⟨htakes, part, bleBuf, filled, rfl, -, rfl, ⟨hmore, -, -, rfl⟩ | ⟨hlast, packet, -, -, -, rfl⟩⟩
  · rw [if_neg fun hreports ↦ hnot hreports.2.1]
    rfl
  · rw [if_neg fun hreports ↦ hmore hreports.2.2]
    rfl
  · rw [packets_handOver]
    have hreports : ble.Reports (.notified conn (some part) length) ↔ ble.hasPktHandler = true :=
      ⟨And.left, fun hpkth ↦ ⟨hpkth, htakes, hlast⟩⟩
    split_ifs with hpkth hnot hnot
    · rfl
    · exact absurd (hreports.mpr hpkth) hnot
    · exact absurd (hreports.mp hnot) hpkth
    · rfl

/-! ## Reads -/

theorem handleReadResult_returns_iff (ble : BleDriver) (err : UInt8) (data : Option (List UInt8))
    (length : UInt16) :
    (∃ result, ble.handleReadResult err data length = .ok result) ↔
      ¬ ble.Strays (.readResult err data length) := by
  cases data with
  | none =>
    have hstrays : ¬ ble.Strays (.readResult err none length) ↔
        ble.bleBufCtr.toNat ≤ packetBufSize := not_lt
    rw [hstrays]
    constructor
    · rintro ⟨⟨iter, next, calls⟩, hhandled⟩
      obtain ⟨-, packet, hpacket, -⟩ | ⟨chunk, hchunk, -⟩ := handleReadResult_cases hhandled
      · obtain ⟨buf, hcopy, -⟩ := bind_eq_ok.mp hpacket
        have hfits := (Buffer.memcpy_eq_ok hcopy).1
        rwa [Nat.zero_add] at hfits
      · cases hchunk
    · intro hctr
      exact ⟨_, (holds_of_counter hctr).handleReadResult_none err length⟩
  | some chunk =>
    constructor
    · rintro ⟨⟨iter, next, calls⟩, hhandled⟩ ⟨htakes, hshort⟩
      obtain ⟨hnone, -⟩ | ⟨other, hother, ⟨hnot, -⟩ | ⟨-, bleBuf, hcopy, -⟩⟩ :=
        handleReadResult_cases hhandled
      · cases hnone
      · exact hnot htakes
      · obtain rfl := Option.some.inj hother
        have hslice := (Buffer.memcpy_eq_ok hcopy).2.1
        rw [Buffer.slice, List.length_take, List.length_drop, Buffer.length_cells] at hslice
        omega
    · intro hstays
      by_cases htakes : ble.TakesChunk err length
      · have hcovered : length.toNat ≤ chunk.length := not_lt.mp fun hshort ↦
          hstays ⟨htakes, hshort⟩
        rw [ble.handleReadResult_some err hcovered, if_pos htakes]
        exact ⟨_, rfl⟩
      · simp only [handleReadResult]
        by_cases herr : err = 0
        · have hlong : ble.gattReadParams.offset.toNat + length.toNat > packetBufSize :=
            not_le.mp fun hfits ↦ htakes ⟨herr, hfits⟩
          rw [if_neg (not_not.mpr herr), if_pos hlong]
          exact ⟨_, rfl⟩
        · rw [if_pos herr]
          exact ⟨_, rfl⟩

/-- The end of a read hands a packet over. -/
theorem packets_of_handleReadResult {err : UInt8} {data : Option (List UInt8)} {length : UInt16}
    {iter : GattIter} (h : ble.handleReadResult err data length = .ok (iter, next, calls)) :
    (calls.filterMap BleCall.packet).length =
      if ble.Reports (.readResult err data length) then 1 else 0 := by
  rcases handleReadResult_cases h with ⟨rfl, packet, -, -, -, rfl⟩ |
    ⟨chunk, rfl, ⟨-, -, -, rfl⟩ | ⟨-, bleBuf, -, -, -, rfl⟩⟩
  · have hreports : ble.Reports (.readResult err none length) ↔ ble.hasPktHandler = true :=
      ⟨And.left, fun hpkth ↦ ⟨hpkth, rfl⟩⟩
    simp only [hreports, handOver]
    split_ifs
    · rfl
    · rfl
  · rw [if_neg fun hreports ↦ Option.some_ne_none chunk hreports.2]
    rfl
  · rw [if_neg fun hreports ↦ Option.some_ne_none chunk hreports.2]
    rfl

/-! ## Messages -/

/-- The message of a handler is sent inside the buffers. Without a connection it is the text of an
address; with one, and a control handle, it is copied to the buffer of the driver. -/
def SendsInside (ble : BleDriver) (msg : PacketBuffer) (mtu : UInt16) : Prop :=
  if ble.isConnected then
    ble.controlHandle ≠ 0 → ble.ReachesWrite mtu → msg.bufLen.toNat ≤ packetBufSize
  else ble.initialized = true → (0 : UInt8) ∈ msg.buf.cells

theorem sendsInside_of_fits (ble : BleDriver) {msg : PacketBuffer} (mtu : UInt16)
    (hfits : msg.bufLen.toNat ≤ packetBufSize) (hended : (0 : UInt8) ∈ msg.buf.cells) :
    ble.SendsInside msg mtu := by
  unfold SendsInside
  split_ifs
  · exact fun _ _ ↦ hfits
  · exact fun _ ↦ hended

theorem cString_returns_iff {size : ℕ} (buffer : Buffer UInt8 size) :
    (∃ str, cString buffer = .ok str) ↔ (0 : UInt8) ∈ buffer.cells := by
  rw [← Uart.strlen_returns_iff]
  exact bind_returns_iff fun _ ↦ ⟨_, rfl⟩

theorem connect_returns_iff (hconn : ble.isConnected = false)
    (deviceAddr : Checked (List UInt8)) :
    (∃ result, ble.connect text deviceAddr bt = .ok result) ↔
      (ble.initialized = true → ∃ str, deviceAddr = .ok str) := by
  cases hinit : ble.initialized with
  | false => exact iff_of_true ⟨(.notInitialized, ble, []), by rw [connect, hinit]; rfl⟩ (by simp)
  | true =>
    rw [forall_prop_of_true rfl, connect, hinit, hconn]
    refine bind_returns_iff fun str ↦ ?_
    simp only
    split_ifs <;> exact ⟨_, rfl⟩

theorem sendBleMessage_returns_iff (ble : BleDriver) (hdlr : Handler) (bt : BtAnswers) :
    (∃ result, ble.sendBleMessage text hdlr bt = .ok result) ↔
      ble.SendsInside hdlr.msg bt.mtu := by
  have hmsg : hdlr.lockWork.msg = hdlr.msg := rfl
  unfold SendsInside
  cases hconn : ble.isConnected with
  | false =>
    rw [if_neg Bool.false_ne_true, ← cString_returns_iff,
      ← connect_returns_iff hconn]
    simp only [sendBleMessage, hconn, hmsg]
    exact bind_returns_iff fun _ ↦ ⟨_, rfl⟩
  | true =>
    rw [if_pos rfl]
    by_cases hhandle : ble.controlHandle = 0
    · refine iff_of_true ⟨(ble, hdlr.lockWork, []), ?_⟩ fun hne ↦ absurd hhandle hne
      simp only [sendBleMessage, hconn, hhandle]
      rfl
    · rw [forall_prop_of_true hhandle,
        ← ble.writeHandle_returns_iff ble.controlHandle hdlr.msg.buf hdlr.msg.bufLen bt]
      simp only [sendBleMessage, hconn, hmsg]
      rw [if_neg (by decide), if_pos hhandle]
      exact bind_returns_iff fun _ ↦ ⟨_, rfl⟩

/-! ## The other callbacks -/

theorem handleDiscoveryResults_returns (ble : BleDriver) (conn : ℕ) (attr : Option GattAttr)
    (fresh : ServiceUuid) :
    ∃ result, ble.handleDiscoveryResults conn attr fresh = .ok result := by
  unfold handleDiscoveryResults
  split
  · exact ⟨_, rfl⟩
  · simp only [ServiceUuid.ofUuid_eq, bind, bind_ok]
    split_ifs <;> exact ⟨_, rfl⟩
  · exact ⟨_, rfl⟩
  · simp only [discoverCharacteristic_eq, bind, bind_ok]
    exact ⟨_, rfl⟩
  · exact ⟨_, rfl⟩
  · exact ⟨_, rfl⟩

theorem packets_of_connect {deviceAddr : Checked (List UInt8)} {ret : RetCode}
    (h : ble.connect text deviceAddr bt = .ok (ret, next, calls)) :
    calls.filterMap BleCall.packet = [] := by
  obtain ⟨-, rfl⟩ | ⟨str, -, -, rfl⟩ := connect_cases h
  · rfl
  · rfl

theorem packets_of_discoverServices (ble : BleDriver) (uuid : Option ServiceUuid)
    (bt : BtAnswers) : (ble.discoverServices uuid bt).2.2.filterMap BleCall.packet = [] := by
  unfold discoverServices
  split_ifs
  · rfl
  · rfl
  · rfl
  · rfl

theorem packets_of_handleBleDeviceFound {addr : BtAddr} {type : UInt8}
    (h : ble.handleBleDeviceFound text addr type bt = .ok (next, calls)) :
    calls.filterMap BleCall.packet = [] := by
  obtain ⟨-, rfl | rfl⟩ | ⟨-, -, ret, asked, hconnect, rfl⟩ | ⟨-, -, -, rfl⟩ :=
    handleBleDeviceFound_cases h
  · rfl
  · rfl
  · have hasked := packets_of_connect hconnect
    exact hasked
  · rfl

theorem packets_of_handleConnectionResult {conn : ℕ} {connErr : UInt8} {dst : BtAddr}
    (h : ble.handleConnectionResult text conn connErr dst bt = .ok (next, calls)) :
    calls.filterMap BleCall.packet = [] := by
  unfold handleConnectionResult at h
  split_ifs at h with herr hmtu
  · obtain ⟨⟨ret, made, asked⟩, hconnect, h⟩ := bind_eq_ok.mp h
    cases h
    have hasked := packets_of_connect hconnect
    exact hasked
  · cases h
    rfl
  · cases h
    exact packets_of_discoverServices { ble with availableEvent := false } (some ble.uuidBase) bt

theorem packets_of_handleDisonnectionResult {conn : ℕ} {reason : UInt8} {dst : BtAddr}
    (h : ble.handleDisonnectionResult text conn reason dst bt = .ok (next, calls)) :
    calls.filterMap BleCall.packet = [] := by
  obtain ⟨-, -, rfl⟩ | ⟨-, -, rfl⟩ | ⟨-, ret, asked, hconnect, rfl⟩ :=
    handleDisonnectionResult_cases h
  · rfl
  · rfl
  · have hasked := packets_of_connect hconnect
    exact hasked

theorem packets_of_handleDiscoveryResults {conn : ℕ} {attr : Option GattAttr} {fresh : ServiceUuid}
    {iter : GattIter} (h : ble.handleDiscoveryResults conn attr fresh = .ok (iter, next, calls)) :
    calls.filterMap BleCall.packet = [] := by
  unfold handleDiscoveryResults at h
  split at h
  · cases h
    rfl
  · simp only [ServiceUuid.ofUuid_eq, bind, bind_ok] at h
    split_ifs at h <;>
    · cases h
      rfl
  · cases h
    rfl
  · simp only [discoverCharacteristic_eq, bind, bind_ok] at h
    cases h
    rfl
  · cases h
    rfl
  · cases h
    rfl

theorem packets_of_handleDiscoveryDone (ble : BleDriver) (err : UInt8) (bt : BtAnswers) :
    (ble.handleDiscoveryDone err bt).2.filterMap BleCall.packet = [] := by
  unfold handleDiscoveryDone
  split_ifs
  · rfl
  · obtain ⟨-, -, hread⟩ | ⟨-, -, hread⟩ := read_cases ble ble.sessionDataHandle bt
    · rw [hread]
      rfl
    · rw [hread]
      rfl

end BleDriver

end CrownstoneRouter
