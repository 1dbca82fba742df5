import CrownstoneRouter.Drivers.BleAddress
import CrownstoneRouter.PacketHandling.Dispatch

/-!
# The target of a request

A control packet for a driver without a connection names the device to connect to. Its payload is
written to the front of the message buffer of the handler, where longer messages from before show
behind it, and the driver reads that buffer as a string. `connect` looks neither at the result of
parsing this string nor, before it keeps the address, at that of starting the scan.
-/

namespace CrownstoneRouter

open CheckedMemory

variable (text : BtAddrText)

namespace BleDriver

/-- The device that a request asks for; a driver that is not initialized looks for none. -/
def requestedAddr (ble : BleDriver) (payload : List UInt8) : Option BtAddr :=
  if ble.initialized then addrOfText payload else none

/-- The request alone decides what `connect` and `sendBleMessage` do: they scan for the device that
it asks for, and return an error without a scan if there is none. An error keeps the target. -/
def DecidedByRequest (ble : BleDriver) (hdlr : Handler) (payload : List UInt8) (bt : BtAnswers) :
    Prop :=
  ∃ ret next after calls,
    ble.connect text (cString hdlr.msg.buf) bt = .ok (ret, next, calls) ∧
    ble.sendBleMessage text hdlr bt = .ok (next, after, calls) ∧
    (ret ≠ .ok → next.devAddr = ble.devAddr) ∧
    match ble.requestedAddr payload with
    | some addr => calls = [.acceptListAdd addr, .scanStart] ∧ (ret = .ok → next.devAddr = addr)
    | none => calls = [] ∧ ret ≠ .ok

/-- The payload is a well-formed address. Either a NUL follows it in the buffer and the scan can be
started, or the address is the target already and the buffer has a NUL anywhere behind it. -/
def ReadsRequest (ble : BleDriver) (older : Buffer UInt8 packetBufSize) (payload : List UInt8)
    (bt : BtAnswers) : Prop :=
  ∃ addr, addrOfText payload = some addr ∧
    ((byteAt older addrTextLen = 0 ∧ bt.scanStart = 0) ∨
      (ble.devAddr = addr ∧ 0 ∈ older.cells.drop addrTextLen))

end BleDriver

/-! ## Strings in a reused buffer -/

theorem takeWhile_eq_self_iff_notMem (bytes : List UInt8) :
    bytes.takeWhile (· ≠ 0) = bytes ↔ 0 ∉ bytes := by
  constructor
  · intro h hzero
    simpa using List.takeWhile_eq_self_iff.mp h 0 hzero
  · intro h
    simpa using Uart.takeWhile_text_append h []

/-- A string ends in front of the first NUL. -/
theorem cString_eq {size : ℕ} (buffer : Buffer UInt8 size) :
    cString buffer =
      if 0 ∈ buffer.cells then .ok (buffer.cells.takeWhile (· ≠ 0)) else .error .outOfBounds := by
  have hfront : buffer.cells.takeWhile (· ≠ 0) <+: buffer.cells := List.takeWhile_prefix _
  have hslice : buffer.slice 0 (buffer.cells.takeWhile (· ≠ 0)).length =
      buffer.cells.takeWhile (· ≠ 0) := (List.prefix_iff_eq_take.mp hfront).symm
  have hterminated : (buffer.cells.takeWhile (· ≠ 0)).length < size ↔ 0 ∈ buffer.cells := by
    constructor
    · intro hlt
      by_contra hzero
      rw [(takeWhile_eq_self_iff_notMem _).mpr hzero, buffer.length_cells] at hlt
      exact Nat.lt_irrefl _ hlt
    · intro hzero
      apply lt_of_le_of_ne (hfront.length_le.trans_eq buffer.length_cells)
      intro heq
      have hwhole := hfront.eq_of_length (heq.trans buffer.length_cells.symm)
      exact (takeWhile_eq_self_iff_notMem _).mp hwhole hzero
  simp only [cString, Uart.strlen, bind, bind_guard, hslice, hterminated]
  rfl

/-- A text without a NUL that has been written over an older message reads on behind its end. -/
theorem cString_overlay {size : ℕ} (older : Buffer UInt8 size) {str : List UInt8} (hstr : 0 ∉ str)
    (hfits : str.length ≤ size) :
    cString (older.overlay str) =
      if 0 ∈ older.cells.drop str.length then
        .ok (str ++ (older.cells.drop str.length).takeWhile (· ≠ 0))
      else .error .outOfBounds := by
  rw [cString_eq, Buffer.cells_overlay older hfits, Uart.takeWhile_text_append hstr]
  simp only [List.mem_append, hstr, false_or]

theorem drop_eq_byteAt_cons {size : ℕ} (older : Buffer UInt8 size) {position : ℕ}
    (h : position < size) :
    older.cells.drop position = byteAt older position :: older.cells.drop (position + 1) := by
  have hposition : position < older.cells.length := by rwa [older.length_cells]
  rw [List.drop_eq_getElem_cons hposition, byteAt, List.getD_eq_getElem _ _ hposition]

theorem takeWhile_drop_eq_nil_iff {size : ℕ} (older : Buffer UInt8 size) {position : ℕ}
    (h : position < size) :
    (older.cells.drop position).takeWhile (· ≠ 0) = [] ↔ byteAt older position = 0 := by
  rw [drop_eq_byteAt_cons older h, List.takeWhile_cons]
  by_cases hzero : byteAt older position = 0
  · simp [hzero]
  · simp [hzero]

/-! ## Requests -/

namespace BleDriver

variable {text} {ble : BleDriver} {hdlr : Handler} {bt : BtAnswers} {payload : List UInt8}

theorem sendBleMessage_of_connect {next : BleDriver} {ret : RetCode} {calls : List BleCall}
    (hidle : ble.isConnected = false)
    (h : ble.connect text (cString hdlr.msg.buf) bt = .ok (ret, next, calls)) :
    ∃ after, ble.sendBleMessage text hdlr bt = .ok (next, after, calls) := by
  refine ⟨hdlr.lockWork.unlockWork, ?_⟩
  rw [sendBleMessage, if_pos (by simp [hidle])]
  exact bind_eq_ok.mpr ⟨_, h, rfl⟩

theorem decidedByRequest_of_not_initialized (hidle : ble.isConnected = false)
    (hinit : ble.initialized = false) : ble.DecidedByRequest text hdlr payload bt := by
  have hconnect : ble.connect text (cString hdlr.msg.buf) bt = .ok (.notInitialized, ble, []) := by
    simp [connect, hinit, pure, Except.pure]
  obtain ⟨after, hsend⟩ := sendBleMessage_of_connect hidle hconnect
  have hnone : ble.requestedAddr payload = none := by simp [requestedAddr, hinit]
  refine ⟨_, ble, after, [], hconnect, hsend, fun _ ↦ rfl, ?_⟩
  rw [hnone]
  exact ⟨rfl, by decide⟩

/-- Once initialized, the driver connects to the string in the buffer, if there is one. -/
theorem decidedByRequest_iff_of_initialized (hidle : ble.isConnected = false)
    (hinit : ble.initialized = true) :
    ble.DecidedByRequest text hdlr payload bt ↔
      ∃ str addr, cString hdlr.msg.buf = .ok str ∧ addrOfText payload = some addr ∧
        (text.fromStr str ble.devAddr).2 = addr ∧ (bt.scanStart = 0 ∨ ble.devAddr = addr) := by
  have hrequested : ble.requestedAddr payload = addrOfText payload := by
    simp [requestedAddr, hinit]
  have hready (str : List UInt8) : ble.connect text (.ok str) bt = _ :=
    connect_of_ready hinit hidle str
  constructor
  · rintro ⟨ret, next, after, calls, hconnect, -, hkept, hdecided⟩
    cases hstr : cString hdlr.msg.buf with
    | error fault =>
      rw [hstr] at hconnect
      simp [connect, hinit, hidle, bind] at hconnect
    | ok str =>
      rw [hstr, hready] at hconnect
      cases hconnect
      rw [hrequested] at hdecided
      cases haddr : addrOfText payload with
      | none =>
        rw [haddr] at hdecided
        cases hdecided.1
      | some addr =>
        rw [haddr] at hdecided
        obtain ⟨hcalls, -⟩ := hdecided
        have hscanned : (text.fromStr str ble.devAddr).2 = addr := by simpa using hcalls
        refine ⟨str, addr, rfl, rfl, hscanned, ?_⟩
        by_cases hstart : bt.scanStart = 0
        · exact .inl hstart
        · simp only [ne_eq, hstart, not_false_eq_true, if_true] at hkept
          have hfailed : RetCode.bleScanStartFailed ≠ .ok := by decide
          exact .inr ((hkept hfailed).symm.trans hscanned)
  · rintro ⟨str, addr, hstr, haddr, hscanned, hstart⟩
    have hconnect := hready str
    rw [← hstr] at hconnect
    obtain ⟨after, hsend⟩ := sendBleMessage_of_connect hidle hconnect
    refine ⟨_, _, after, _, hconnect, hsend, fun hret ↦ ?_, ?_⟩
    · rcases hstart with hstart | hstart
      · exact absurd (if_neg (not_not.mpr hstart)) hret
      · exact hscanned.trans hstart.symm
    · rw [hrequested, haddr]
      exact ⟨by rw [hscanned], fun _ ↦ hscanned⟩

/-- The string that the driver reads denotes the address of the request. -/
theorem fromStr_eq_iff (htext : text.ReadsAddress) {older : Buffer UInt8 packetBufSize}
    {addr old : BtAddr} (haddr : addrOfText payload = some addr) :
    (text.fromStr (payload ++ (older.cells.drop addrTextLen).takeWhile (· ≠ 0)) old).2 = addr ↔
      byteAt older addrTextLen = 0 ∨ old = addr := by
  have hposition : addrTextLen < packetBufSize := by decide
  have hlength := length_of_addrOfText haddr
  by_cases hzero : byteAt older addrTextLen = 0
  · rw [(takeWhile_drop_eq_nil_iff older hposition).mpr hzero, List.append_nil,
      htext.accepts payload old addr haddr]
    simp [hzero]
  · have hlonger : (older.cells.drop addrTextLen).takeWhile (· ≠ 0) ≠ [] := fun hnil ↦
      hzero ((takeWhile_drop_eq_nil_iff older hposition).mp hnil)
    have hpositive := List.length_pos_of_ne_nil hlonger
    rw [htext.kept]
    · simp [hzero]
    · rw [List.length_append, hlength]
      omega

/-- What a request decides depends on what the buffer has held before. -/
theorem decidedByRequest_iff (htext : text.ReadsAddress) (hidle : ble.isConnected = false)
    {older : Buffer UInt8 packetBufSize} (hbuf : hdlr.msg.buf = older.overlay payload) :
    ble.DecidedByRequest text hdlr payload bt ↔
      (ble.initialized = true → ble.ReadsRequest older payload bt) := by
  have hposition : addrTextLen < packetBufSize := by decide
  cases hinit : ble.initialized with
  | false =>
    simp only [Bool.false_eq_true, false_imp_iff, iff_true]
    exact decidedByRequest_of_not_initialized hidle hinit
  | true =>
    rw [decidedByRequest_iff_of_initialized hidle hinit, hbuf]
    simp only [true_imp_iff, ReadsRequest]
    have hstring {addr : BtAddr} (haddr : addrOfText payload = some addr) :
        cString (older.overlay payload) =
          if 0 ∈ older.cells.drop addrTextLen then
            .ok (payload ++ (older.cells.drop addrTextLen).takeWhile (· ≠ 0))
          else .error .outOfBounds := by
      have hlength := length_of_addrOfText haddr
      rw [cString_overlay older (zero_notMem_of_addrOfText haddr) (hlength ▸ hposition.le), hlength]
    constructor
    · rintro ⟨str, addr, hstr, haddr, hscanned, hstart⟩
      rw [hstring haddr] at hstr
      obtain ⟨hterminated, rfl⟩ := guard_eq_ok.mp hstr
      refine ⟨addr, haddr, ?_⟩
      rcases (fromStr_eq_iff htext haddr).mp hscanned with hzero | htarget
      · exact hstart.imp (fun hscan ↦ ⟨hzero, hscan⟩) fun htarget ↦ ⟨htarget, hterminated⟩
      · exact .inr ⟨htarget, hterminated⟩
    · rintro ⟨addr, haddr, ⟨hzero, hscan⟩ | ⟨htarget, hterminated⟩⟩
      · have hterminated : 0 ∈ older.cells.drop addrTextLen := by
          rw [drop_eq_byteAt_cons older hposition, hzero]
          exact List.mem_cons_self
        exact ⟨_, addr, (hstring haddr).trans (if_pos hterminated), haddr,
          (fromStr_eq_iff htext haddr).mpr (.inl hzero), .inl hscan⟩
      · exact ⟨_, addr, (hstring haddr).trans (if_pos hterminated), haddr,
          (fromStr_eq_iff htext haddr).mpr (.inr htarget), .inr htarget⟩

end BleDriver

variable (crc16_ccitt : UInt16 → List UInt8 → UInt16)

/-- A control packet decides which device a driver without a connection looks for, whatever has been
dispatched before, exactly if the driver is not initialized, or the payload is an address that the
driver can read from the buffer and scan for. -/
theorem target_decided_iff {text : BtAddrText} (htext : text.ReadsAddress) {sys next : System}
    {data : PacketData} {slot : Slot} (hincoming : data.type = .incoming)
    (hcontrol : IsControl data)
    (hslot : sys.pkth.getHandler (incomingControl data).destId = some slot)
    (hdispatch : handlePacketData crc16_ccitt sys data = .ok next) {ble : BleDriver}
    (hidle : ble.isConnected = false) (bt : BtAnswers) :
    ble.DecidedByRequest text (next.handler slot) (controlPayload data) bt ↔
      (ble.initialized = true →
        ble.ReadsRequest (sys.handler slot).msg.buf (controlPayload data) bt) := by
  obtain ⟨-, -, hother, -⟩ | ⟨target, -, -, -, htarget, -, rfl⟩ | ⟨_, _, houtgoing, -⟩ :=
    handlePacketData_cases crc16_ccitt hdispatch
  · exact absurd hcontrol hother
  · obtain rfl : slot = target := Option.some.inj (hslot.symm.trans htarget)
    apply BleDriver.decidedByRequest_iff htext hidle
    rw [System.handler_deliver, if_pos rfl]
    rfl
  · cases hincoming.symm.trans houtgoing

def connectRequest (payload : List UInt8) : PacketData :=
  cloudControl 6 instanceIdBlePeripheral 1 payload

/-- The first request after the start. -/
theorem first_request_decided :
    ∃ next, handlePacketData zephyrCrc16Ccitt (.boot (PacketHandler.routerRegistry []))
        (connectRequest crownstoneText) = .ok next ∧
      (serviceDriver.DecidedByRequest zephyrText (next.handler 1)
          (controlPayload (connectRequest crownstoneText)) (succeeding .disconnect).answers ↔
        (serviceDriver.initialized = true →
          serviceDriver.ReadsRequest
            ((System.boot (PacketHandler.routerRegistry [])).handler 1).msg.buf
            (controlPayload (connectRequest crownstoneText)) (succeeding .disconnect).answers)) := by
  refine ⟨_, rfl, ?_⟩
  exact target_decided_iff zephyrCrc16Ccitt zephyrText_readsAddress rfl (by decide +kernel)
    (by decide +kernel) rfl rfl _

/-- An address behind which the end of a longer message is left is not found, and text that is no
address starts a scan without an error. -/
theorem request_after_longer_message_not_decided :
    ∃ between next, handlePacketData zephyrCrc16Ccitt (.boot (PacketHandler.routerRegistry []))
        (connectRequest (List.replicate 20 0x41)) = .ok between ∧
      handlePacketData zephyrCrc16Ccitt between (connectRequest crownstoneText) = .ok next ∧
      ¬ serviceDriver.DecidedByRequest zephyrText (between.handler 1)
          (controlPayload (connectRequest (List.replicate 20 0x41)))
          (succeeding .disconnect).answers ∧
      ¬ serviceDriver.DecidedByRequest zephyrText (next.handler 1)
          (controlPayload (connectRequest crownstoneText)) (succeeding .disconnect).answers := by
  refine ⟨_, _, rfl, rfl, fun hdecided ↦ ?_, fun hdecided ↦ ?_⟩
  · obtain ⟨_, addr, -, haddr, -⟩ :=
      (BleDriver.decidedByRequest_iff_of_initialized rfl rfl).mp hdecided
    have hnone : addrOfText (controlPayload (connectRequest (List.replicate 20 0x41))) = none := by
      decide +kernel
    rw [hnone] at haddr
    cases haddr
  · obtain ⟨str, addr, hstr, haddr, hscanned, -⟩ :=
      (BleDriver.decidedByRequest_iff_of_initialized rfl rfl).mp hdecided
    have hread := hstr.symm.trans
      (by decide +kernel : cString _ = .ok (crownstoneText ++ [0x41, 0x41, 0x41]))
    obtain rfl := Except.ok.inj hread
    have hrequest : addrOfText (controlPayload (connectRequest crownstoneText)) =
        some crownstoneAddr := by decide +kernel
    obtain rfl := Option.some.inj (hrequest.symm.trans haddr)
    have hkept : (zephyrText.fromStr (crownstoneText ++ [0x41, 0x41, 0x41])
        serviceDriver.devAddr).2 ≠ crownstoneAddr := by decide +kernel
    exact hkept hscanned

end CrownstoneRouter
