import CrownstoneRouter.Drivers.BleContent

/-!
# The bounds of the Bluetooth buffer

Notifications are checked against the counter of the buffer, chunks of a read against the offset of
the read, and both move the counter. The theorem at the end says along which runs of callbacks and
calls the counter and all copies stay inside the buffer: those without an empty notification and
without a chunk that does not fit behind the counter.
-/

namespace CrownstoneRouter

open CheckedMemory CheckedRun

/-- What a callback is given: the memory behind its pointer, and how many bytes of it are meant. -/
structure AttMessage where
  data : Option (List UInt8)
  length : UInt16
  covered : ∀ memory ∈ data, length.toNat ≤ memory.length

/-- A message of these bytes. -/
def AttMessage.ofBytes (bytes : List UInt8) (h : bytes.length < 2 ^ 16) : AttMessage where
  data := some bytes
  length := UInt16.ofNat bytes.length
  covered := by
    rintro memory hmemory
    obtain rfl := Option.mem_some.mp hmemory
    exact (UInt16.toNat_ofNat_of_lt' h).le

/-- No data, as at the end of a read. -/
def AttMessage.end : AttMessage where
  data := none
  length := 0
  covered := by simp

/-- The callbacks and calls that use the buffer. Results are those of one of the reads that have
been started, and writes are of messages that fit in a packet. -/
inductive BoundsAction
  | notified (conn : Option ℕ) (message : AttMessage)
  | read (handle : UInt16) (bt : BtAnswers)
  | readResult (index : ℕ) (err : UInt8) (message : AttMessage)
  | write (handle : UInt16) (data : Buffer UInt8 packetBufSize) (len : UInt16)
      (fits : len.toNat ≤ packetBufSize) (bt : BtAnswers)

/-- A driver, and the offset of every read that goes on: the bytes it has delivered so far. -/
structure BoundsRun where
  ble : BleDriver
  reads : List UInt16

namespace BoundsRun

/-- The driver while the read with this offset reports a result. -/
def reporting (run : BoundsRun) (offset : UInt16) : BleDriver :=
  { run.ble with gattReadParams := { run.ble.gattReadParams with offset := offset } }

/-- One action. The stack reports nothing for a read that does not go on. -/
def step (run : BoundsRun) : BoundsAction → Checked BoundsRun
  | .notified conn message => do
      let (_, ble, _) ← run.ble.handleNotifications conn message.data message.length
      return { run with ble := ble }
  | .read handle bt =>
      let (ret, ble, _) := run.ble.read handle bt
      .ok { ble := ble, reads := if ret = .ok then run.reads ++ [0] else run.reads }
  | .readResult index err message =>
      match run.reads[index]? with
      | none => .ok run
      | some offset => do
          let (iter, ble, _) ←
            (run.reporting offset).handleReadResult err message.data message.length
          return {
            ble := ble
            reads := match iter with
              | .stop => run.reads.eraseIdx index
              | .continue => run.reads.set index (offset + message.length) }
  | .write handle data len _ bt => do
      let (_, ble, _) ← run.ble.writeHandle handle data len bt
      return { run with ble := ble }

/-- A notification is handled without a length below zero: neither that of the content with it nor
that of its own content, which is computed if the first one fits. -/
def NoWrap (run : BoundsRun) : BoundsAction → Prop
  | .notified conn message =>
      conn.isSome = true → message.data.isSome = true →
        (0 : ℤ) ≤ run.ble.bleBufCtr.toNat + message.length.toNat - 1 ∧
          (run.ble.TakesNotification conn message.data message.length →
            (0 : ℤ) ≤ message.length.toNat - 1)
  | _ => True

/-- An action copies inside the buffers only, leaves a counter within the buffer, and computes no
length below zero. -/
def StaysInBounds (run : BoundsRun) (action : BoundsAction) : Prop :=
  run.NoWrap action ∧
    ∃ next, run.step action = .ok next ∧ next.ble.bleBufCtr.toNat ≤ packetBufSize

/-- A notification is not empty, and a chunk that fits behind the offset of its read also fits
behind the counter. -/
def KeepsBounds (run : BoundsRun) : BoundsAction → Prop
  | .notified conn message =>
      conn.isSome = true → message.data.isSome = true → 1 ≤ message.length.toNat
  | .readResult index err message =>
      ∀ offset ∈ run.reads[index]?, message.data.isSome = true →
        (run.reporting offset).TakesChunk err message.length →
        run.ble.bleBufCtr.toNat + message.length.toNat ≤ packetBufSize
  | _ => True

instance (run : BoundsRun) : DecidablePred run.KeepsBounds
  | .notified _ _ => inferInstanceAs (Decidable (_ → _ → _))
  | .readResult index _ _ => Option.decidableForallMem run.reads[index]?
  | .read _ _ | .write _ _ _ _ _ => inferInstanceAs (Decidable True)

/-! ## One action -/

variable {run : BoundsRun}

theorem staysInBounds_iff_of_step {action : BoundsAction} {next : BoundsRun}
    (hstep : run.step action = .ok next) :
    run.StaysInBounds action ↔
      run.NoWrap action ∧ next.ble.bleBufCtr.toNat ≤ packetBufSize := by
  refine and_congr_right fun _ ↦ ⟨?_, fun hnext ↦ ⟨next, hstep, hnext⟩⟩
  rintro ⟨other, hother, hcounter⟩
  rwa [← Except.ok.inj (hstep.symm.trans hother)] at hcounter

/-- A notification that is not there is ignored. -/
theorem staysInBounds_absent (hctr : run.ble.bleBufCtr.toNat ≤ packetBufSize) {conn : Option ℕ}
    {message : AttMessage} (habsent : ¬ (conn.isSome = true ∧ message.data.isSome = true)) :
    run.StaysInBounds (.notified conn message) := by
  have hignored : run.ble.handleNotifications conn message.data message.length =
      .ok (.stop, run.ble, []) := by
    cases conn with
    | none => rfl
    | some conn =>
      cases hdata : message.data with
      | none => rfl
      | some memory => exact absurd ⟨rfl, by simp [hdata]⟩ habsent
  have hstep : run.step (.notified conn message) = .ok run := by
    simp only [step, hignored, bind, bind_ok]
    rfl
  exact (staysInBounds_iff_of_step hstep).mpr
    ⟨fun hconn hdata ↦ absurd ⟨hconn, hdata⟩ habsent, hctr⟩

/-- A notification with a counter is appended or dropped. -/
theorem staysInBounds_notified (hctr : run.ble.bleBufCtr.toNat ≤ packetBufSize) (conn : ℕ)
    {message : AttMessage} (hdata : message.data.isSome = true)
    (hlength : 1 ≤ message.length.toNat) : run.StaysInBounds (.notified (some conn) message) := by
  obtain ⟨memory, hmemory⟩ := Option.isSome_iff_exists.mp hdata
  have hcovered := message.covered memory hmemory
  cases memory with
  | nil =>
    rw [List.length_nil] at hcovered
    omega
  | cons counter body =>
    have hholds := BleDriver.holds_of_counter hctr
    have hhandled := hholds.handleNotifications conn counter hlength hcovered
    have hnowrap : run.NoWrap (.notified (some conn) message) :=
      fun _ _ ↦ ⟨by omega, fun _ ↦ by omega⟩
    refine ⟨hnowrap, ?_⟩
    simp only [step, hmemory, hhandled]
    split_ifs with hfits hlast
    · exact ⟨_, rfl, Nat.zero_le _⟩
    · have hbody : (body.take (message.length.toNat - 1)).length = message.length.toNat - 1 := by
        rw [List.length_take]
        rw [List.length_cons] at hcovered
        omega
      exact ⟨_, rfl, (hholds.append (by rwa [hbody])).counter_le⟩
    · exact ⟨_, rfl, hctr⟩

/-- A notification without a counter makes one of the lengths wrap. -/
theorem not_noWrap_of_empty {conn : Option ℕ} {message : AttMessage}
    (hctr : run.ble.bleBufCtr.toNat ≤ packetBufSize) (hconn : conn.isSome = true)
    (hdata : message.data.isSome = true) (hlength : message.length.toNat = 0) :
    ¬ run.NoWrap (.notified conn message) := by
  intro hnowrap
  obtain ⟨hfirst, hsecond⟩ := hnowrap hconn hdata
  have htakes : run.ble.TakesNotification conn message.data message.length := by
    refine ⟨hconn, hdata, ?_⟩
    have hbound : run.ble.bleBufCtr.toNat ≤ 250 := hctr
    unfold sizeOfInt packetBufSize
    omega
  have hbody := hsecond htakes
  omega

theorem staysInBounds_notified_iff (hctr : run.ble.bleBufCtr.toNat ≤ packetBufSize)
    (conn : Option ℕ) (message : AttMessage) :
    run.StaysInBounds (.notified conn message) ↔ run.KeepsBounds (.notified conn message) := by
  by_cases hpresent : conn.isSome = true ∧ message.data.isSome = true
  · obtain ⟨hconn, hdata⟩ := hpresent
    obtain ⟨conn, rfl⟩ := Option.isSome_iff_exists.mp hconn
    constructor
    · intro hstays _ _
      by_contra hlength
      exact not_noWrap_of_empty hctr hconn hdata (by omega) hstays.1
    · exact fun hkeeps ↦ staysInBounds_notified hctr conn hdata (hkeeps hconn hdata)
  · exact iff_of_true (staysInBounds_absent hctr hpresent)
      fun hconn hdata ↦ absurd ⟨hconn, hdata⟩ hpresent

theorem staysInBounds_read (hctr : run.ble.bleBufCtr.toNat ≤ packetBufSize) (handle : UInt16)
    (bt : BtAnswers) : run.StaysInBounds (.read handle bt) := by
  have hread : (run.ble.read handle bt).2.1.bleBufCtr.toNat ≤ packetBufSize := by
    rcases BleDriver.read_cases run.ble handle bt with ⟨-, -, hread⟩ | ⟨-, -, hread⟩
    · rw [hread]
      exact hctr
    · rw [hread]
      exact Nat.zero_le _
  exact ⟨trivial, _, rfl, hread⟩

theorem staysInBounds_completion (hctr : run.ble.bleBufCtr.toNat ≤ packetBufSize) {index : ℕ}
    {offset : UInt16} (hoffset : run.reads[index]? = some offset) (err : UInt8)
    {message : AttMessage} (hdata : message.data = none) :
    run.StaysInBounds (.readResult index err message) := by
  have hholds : (run.reporting offset).Holds _ := BleDriver.holds_of_counter hctr
  refine ⟨trivial, ?_⟩
  simp only [step, hoffset, hdata, hholds.handleReadResult_none]
  exact ⟨_, rfl, Nat.zero_le _⟩

theorem staysInBounds_chunk_iff (hctr : run.ble.bleBufCtr.toNat ≤ packetBufSize) {index : ℕ}
    {offset : UInt16} (hoffset : run.reads[index]? = some offset) (err : UInt8)
    {message : AttMessage} {memory : List UInt8} (hmemory : message.data = some memory) :
    run.StaysInBounds (.readResult index err message) ↔
      ((run.reporting offset).TakesChunk err message.length →
        run.ble.bleBufCtr.toNat + message.length.toNat ≤ packetBufSize) := by
  have hhandled := (run.reporting offset).handleReadResult_some err
    (message.covered memory hmemory)
  by_cases htakes : (run.reporting offset).TakesChunk err message.length
  · obtain ⟨next, hstep, hcounter⟩ : ∃ next, run.step (.readResult index err message) = .ok next ∧
        next.ble.bleBufCtr = run.ble.bleBufCtr + message.length := by
      simp only [step, hoffset, hmemory, hhandled, if_pos htakes, bind, bind_ok]
      exact ⟨_, rfl, rfl⟩
    have hchunk : run.ble.bleBufCtr.toNat + message.length.toNat < 2 ^ 16 := by
      have hcontent : run.ble.bleBufCtr.toNat ≤ 250 := hctr
      have hbound : offset.toNat + message.length.toNat ≤ 250 := htakes.2
      omega
    rw [staysInBounds_iff_of_step hstep, hcounter, UInt16.toNat_add, Nat.mod_eq_of_lt hchunk]
    exact ⟨fun hstays _ ↦ hstays.2, fun hkeeps ↦ ⟨trivial, hkeeps htakes⟩⟩
  · obtain ⟨next, hstep, hcounter⟩ : ∃ next, run.step (.readResult index err message) = .ok next ∧
        next.ble.bleBufCtr = run.ble.bleBufCtr := by
      simp only [step, hoffset, hmemory, hhandled, if_neg htakes, bind, bind_ok]
      exact ⟨_, rfl, rfl⟩
    rw [staysInBounds_iff_of_step hstep, hcounter]
    exact iff_of_true ⟨trivial, hctr⟩ fun h ↦ absurd h htakes

theorem staysInBounds_readResult_iff (hctr : run.ble.bleBufCtr.toNat ≤ packetBufSize) (index : ℕ)
    (err : UInt8) (message : AttMessage) :
    run.StaysInBounds (.readResult index err message) ↔
      run.KeepsBounds (.readResult index err message) := by
  cases hoffset : run.reads[index]? with
  | none =>
    have hstep : run.step (.readResult index err message) = .ok run := by simp [step, hoffset]
    refine iff_of_true ((staysInBounds_iff_of_step hstep).mpr ⟨trivial, hctr⟩) ?_
    simp [KeepsBounds, hoffset]
  | some offset =>
    cases hdata : message.data with
    | none =>
      refine iff_of_true (staysInBounds_completion hctr hoffset err hdata) ?_
      simp [KeepsBounds, hdata]
    | some memory =>
      rw [staysInBounds_chunk_iff hctr hoffset err hdata]
      simp [KeepsBounds, hoffset, hdata]

/-- A write of a message that fits does not touch the counter. -/
theorem staysInBounds_write (hctr : run.ble.bleBufCtr.toNat ≤ packetBufSize) (handle : UInt16)
    (data : Buffer UInt8 packetBufSize) {len : UInt16} (fits : len.toNat ≤ packetBufSize)
    (bt : BtAnswers) : run.StaysInBounds (.write handle data len fits bt) := by
  obtain ⟨⟨ret, next, calls⟩, hwrite⟩ :=
    (run.ble.writeHandle_returns_iff handle data _ bt).mpr fun _ ↦ fits
  have hstep : run.step (.write handle data len fits bt) = .ok { run with ble := next } := by
    simp only [step, hwrite, bind, bind_ok]
    rfl
  have hcounter : next.bleBufCtr = run.ble.bleBufCtr := by
    rcases BleDriver.writeHandle_cases hwrite with ⟨-, -, rfl, -⟩ | ⟨-, bleBuf, -, rfl, -⟩
    · rfl
    · rfl
  exact (staysInBounds_iff_of_step hstep).mpr ⟨trivial, by rwa [hcounter]⟩

/-- An action stays in bounds exactly if it is neither an empty notification nor a chunk that fits
behind the offset of its read only. -/
theorem staysInBounds_iff (hctr : run.ble.bleBufCtr.toNat ≤ packetBufSize) (action : BoundsAction) :
    run.StaysInBounds action ↔ run.KeepsBounds action := by
  cases action with
  | notified conn message => exact staysInBounds_notified_iff hctr conn message
  | read handle bt => exact iff_of_true (staysInBounds_read hctr handle bt) trivial
  | readResult index err message => exact staysInBounds_readResult_iff hctr index err message
  | write handle data len fits bt =>
    exact iff_of_true (staysInBounds_write hctr handle data fits bt) trivial

/-- In a run from a counter within the buffer on, all actions stay in bounds exactly if none of them
is one of these. -/
theorem along_staysInBounds_iff (hctr : run.ble.bleBufCtr.toNat ≤ packetBufSize)
    (actions : List BoundsAction) :
    Along BoundsRun.step StaysInBounds run actions ↔
      Along BoundsRun.step KeepsBounds run actions := by
  have hnext {run next : BoundsRun} {action : BoundsAction} (hstays : run.StaysInBounds action)
      (hstep : run.step action = .ok next) : next.ble.bleBufCtr.toNat ≤ packetBufSize :=
    @of_returns _ _ _ (fun next : BoundsRun ↦ next.ble.bleBufCtr.toNat ≤ packetBufSize) hstays.2
      hstep
  exact along_congr (fun hcounter _ ↦ staysInBounds_iff hcounter _)
    (fun _ _ hstays hstep ↦ hnext hstays hstep) hctr along_true

end BoundsRun

open BoundsRun

/-- From a counter within the buffer on, all actions of a run stay in bounds exactly if none of its
notifications is empty and every chunk of a read fits behind the counter; such a run returns. -/
theorem buffer_in_bounds_iff {ble : BleDriver} (hctr : ble.bleBufCtr.toNat ≤ packetBufSize)
    (actions : List BoundsAction) :
    (Along BoundsRun.step StaysInBounds { ble, reads := [] } actions ↔
      Along BoundsRun.step KeepsBounds { ble, reads := [] } actions) ∧
    (Along BoundsRun.step KeepsBounds { ble, reads := [] } actions →
      ∃ last, run BoundsRun.step { ble, reads := [] } actions = .ok last ∧
        last.ble.bleBufCtr.toNat ≤ packetBufSize) := by
  refine ⟨along_staysInBounds_iff hctr actions,
    run_returns_along (fun run : BoundsRun ↦ run.ble.bleBufCtr.toNat ≤ packetBufSize) ?_ hctr⟩
  exact fun hcounter hkeeps ↦ ((staysInBounds_iff hcounter _).mpr hkeeps).2

/-- A read of two chunks, and a series of two notifications. -/
theorem buffer_in_bounds_of_session :
    ∃ last, run BoundsRun.step { ble := BufferRun.connectedDriver, reads := [] } [
      .read 14 BufferRun.succeedingAnswers,
      .readResult 0 0 (.ofBytes [1, 2] (by decide)),
      .readResult 0 0 (.ofBytes [3] (by decide)),
      .readResult 0 0 .end,
      .notified (some 1) (.ofBytes [0, 4, 5] (by decide)),
      .notified (some 1) (.ofBytes [255] (by decide))] = .ok last ∧
    last.ble.bleBufCtr.toNat ≤ packetBufSize :=
  (@buffer_in_bounds_iff BufferRun.connectedDriver (by decide) _).2 (by decide +kernel)

/-- An empty notification behind another one copies far behind the buffer. -/
theorem empty_notification_out_of_bounds :
    ¬ Along BoundsRun.step StaysInBounds { ble := BufferRun.connectedDriver, reads := [] } [
      .notified (some 1) (.ofBytes [0, 4, 5] (by decide)),
      .notified (some 1)
        { data := some [1], length := 0, covered := fun _ _ ↦ Nat.zero_le _ }] := by
  intro hstays
  have hctr : BufferRun.connectedDriver.bleBufCtr.toNat ≤ packetBufSize := by decide
  have hkeeps := (along_staysInBounds_iff hctr _).mp hstays
  exact absurd hkeeps (by decide +kernel)

end CrownstoneRouter
