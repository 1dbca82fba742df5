import CrownstoneRouter.Drivers.BleEvents
import CrownstoneRouter.Foundation.Isolation

/-!
# The users of the Bluetooth buffer

Notifications, reads and writes share the one buffer of the driver, and notifications and reads also
share its counter. The theorem at the end says when each of them is served as if it were alone: when
no action touches what another user has in the buffer.
-/

namespace CrownstoneRouter

open CheckedMemory CheckedRun BleDriver

/-! ## Actions and runs -/

/-- What happens to the buffer. The stack takes the bytes of a long write in slices. -/
inductive BufferAction
  | notified (conn : Option ℕ) (data : Option (List UInt8)) (length : UInt16)
  | read (handle : UInt16) (bt : BtAnswers)
  | readResult (err : UInt8) (data : Option (List UInt8)) (length : UInt16)
  | write (handle : UInt16) (data : List UInt8) (len : UInt16) (bt : BtAnswers)
  | takeSlice (index count : ℕ)

namespace BufferAction

def isNotification : BufferAction → Bool
  | .notified _ _ _ => true
  | _ => false

def isRead : BufferAction → Bool
  | .read _ _ | .readResult _ _ _ => true
  | _ => false

end BufferAction

/-- A write that the stack has accepted: the bytes passed to it, and those that the stack has taken
so far. -/
structure LongWrite where
  message : List UInt8
  sent : List UInt8

namespace LongWrite

def unsent (write : LongWrite) : ℕ :=
  write.message.length - write.sent.length

/-- The stack takes the next slice from the buffer that its data pointer points to. -/
def take (write : LongWrite) (bleBuf : Buffer UInt8 packetBufSize) (count : ℕ) : LongWrite :=
  { write with sent := write.sent ++ bleBuf.slice write.sent.length (min count write.unsent) }

end LongWrite

/-- A driver, what its users are about to do, and what they have done: the calls made for
notifications and for read results, and the writes. -/
structure BufferRun where
  ble : BleDriver
  inSeries : Bool
  notified : List BleCall
  reading : Bool
  readOut : List BleCall
  writes : List LongWrite

namespace BufferRun

/-- A driver before any of its users has begun. -/
def start (ble : BleDriver) : BufferRun where
  ble := ble
  inSeries := false
  notified := []
  reading := false
  readOut := []
  writes := []

/-- One action. The stack reports results of a read only while there is one, and moves the offset
behind every chunk after which it is asked to continue. -/
def step (run : BufferRun) : BufferAction → Checked BufferRun
  | .notified conn data length => do
      let (iter, ble, calls) ← run.ble.handleNotifications conn data length
      return { run with
        ble := ble
        inSeries := decide (iter = .continue)
        notified := run.notified ++ calls }
  | .read handle bt =>
      let (ret, ble, _) := run.ble.read handle bt
      .ok { run with ble := ble, reading := run.reading || decide (ret = .ok) }
  | .readResult err data length => do
      if !run.reading then return run
      else
        let (iter, ble, calls) ← run.ble.handleReadResult err data length
        return { run with
          ble := ble.advanceRead iter length
          reading := decide (iter = .continue)
          readOut := run.readOut ++ calls }
  | .write handle data len bt => do
      let (ret, ble, _) ← run.ble.writeHandle handle (.ofList data) len bt
      if ret = .ok then
        let accepted := { message := data.take len.toNat, sent := [] }
        return { run with ble := ble, writes := run.writes ++ [accepted] }
      else return { run with ble := ble }
  | .takeSlice index count =>
      .ok { run with
        writes := run.writes.modify index fun write ↦ write.take run.ble.bleBuf count }

/-! ## Footprints -/

/-- The cells of the buffer that an action stores to, and the counter that it leaves. -/
structure Footprint where
  position : ℕ
  count : ℕ
  counter : UInt16

/-- Nothing is stored to these cells. -/
def Footprint.Avoids (footprint : Footprint) (start count : ℕ) : Prop :=
  footprint.count = 0 ∨ count = 0 ∨ start + count ≤ footprint.position ∨
    footprint.position + footprint.count ≤ start

instance (footprint : Footprint) (start count : ℕ) : Decidable (footprint.Avoids start count) :=
  inferInstanceAs (Decidable (_ ∨ _ ∨ _ ∨ _))

/-- The footprint of an action without effect on the buffer. -/
def untouched (run : BufferRun) : Footprint where
  position := 0
  count := 0
  counter := run.ble.bleBufCtr

/-- The footprint of an action in the state that it is taken in. -/
def footprint (run : BufferRun) : BufferAction → Footprint
  | .notified conn data length =>
      if run.ble.TakesNotification conn data length then {
        position := run.ble.bleBufCtr.toNat
        count := sizeOfInt (length.toNat - 1)
        counter := if (data.getD []).getD 0 0 = 255 then 0 else run.ble.bleBufCtr + (length - 1) }
      else run.untouched
  | .read _ _ =>
      if run.ble.ReachesRead then { position := 0, count := 0, counter := 0 } else run.untouched
  | .readResult err data length =>
      if run.reading = false then run.untouched
      else if data = none then { position := 0, count := 0, counter := 0 }
      else if run.ble.TakesChunk err length then {
        position := run.ble.gattReadParams.offset.toNat
        count := length.toNat
        counter := run.ble.bleBufCtr + length }
      else run.untouched
  | .write _ _ len bt =>
      if run.ble.ReachesWrite bt.mtu then
        { position := 0, count := len.toNat, counter := run.ble.bleBufCtr }
      else run.untouched
  | .takeSlice _ _ => run.untouched

/-- An action leaves the counter, and the part of the buffer that it counts. -/
def KeepsContent (run : BufferRun) (action : BufferAction) : Prop :=
  (run.footprint action).counter = run.ble.bleBufCtr ∧
    (run.footprint action).Avoids 0 run.ble.bleBufCtr.toNat

/-- No action touches what another user has in the buffer: the content collected so far while a
series of notifications or a read goes on, and the bytes that the stack has yet to take. -/
structure Undisturbed (run : BufferRun) (action : BufferAction) : Prop where
  series : run.inSeries = true → action.isNotification = false → run.KeepsContent action
  reads : run.reading = true → action.isRead = false → run.KeepsContent action
  writes : ∀ write ∈ run.writes, (run.footprint action).Avoids write.sent.length write.unsent

instance (run : BufferRun) (action : BufferAction) : Decidable (run.KeepsContent action) :=
  inferInstanceAs (Decidable (_ ∧ _))

instance (run : BufferRun) (action : BufferAction) : Decidable (run.Undisturbed action) :=
  decidable_of_iff
    ((run.inSeries = true → action.isNotification = false → run.KeepsContent action) ∧
      (run.reading = true → action.isRead = false → run.KeepsContent action) ∧
      ∀ write ∈ run.writes, (run.footprint action).Avoids write.sent.length write.unsent)
    ⟨fun ⟨series, reads, writes⟩ ↦ ⟨series, reads, writes⟩,
      fun h ↦ ⟨h.series, h.reads, h.writes⟩⟩

/-! ## What an action does to the buffer -/

/-- The driver is set up and connected in the same way. -/
structure SameDriver (left right : BleDriver) : Prop where
  initialized : left.initialized = right.initialized
  conn : left.conn = right.conn
  srcId : left.srcId = right.srcId
  destId : left.destId = right.destId
  hasPktHandler : left.hasPktHandler = right.hasPktHandler

/-- An action with this footprint has been taken. -/
structure Touches (ble next : BleDriver) (footprint : Footprint) : Prop
    extends SameDriver next ble where
  counter : next.bleBufCtr = footprint.counter
  bleBuf : ∃ bytes : List UInt8, bytes.length = footprint.count ∧
    footprint.position + footprint.count ≤ packetBufSize ∧
    next.bleBuf = ble.bleBuf.patch footprint.position bytes

variable {run next : BufferRun} {action : BufferAction}

theorem SameDriver.refl (ble : BleDriver) : SameDriver ble ble :=
  ⟨rfl, rfl, rfl, rfl, rfl⟩

theorem SameDriver.trans {left middle right : BleDriver} (h : SameDriver left middle)
    (h' : SameDriver middle right) : SameDriver left right where
  initialized := h.initialized.trans h'.initialized
  conn := h.conn.trans h'.conn
  srcId := h.srcId.trans h'.srcId
  destId := h.destId.trans h'.destId
  hasPktHandler := h.hasPktHandler.trans h'.hasPktHandler

theorem stores_nothing (bleBuf : Buffer UInt8 packetBufSize) :
    ∃ bytes : List UInt8, bytes.length = 0 ∧ 0 + 0 ≤ packetBufSize ∧
      bleBuf = bleBuf.patch 0 bytes :=
  ⟨[], rfl, Nat.zero_le _, (Buffer.patch_nil bleBuf (Nat.zero_le _)).symm⟩

theorem touches_untouched (run : BufferRun) : Touches run.ble run.ble run.untouched :=
  ⟨.refl run.ble, rfl, stores_nothing run.ble.bleBuf⟩

theorem touches_reset (ble : BleDriver) (params : GattReadParams) :
    Touches ble { ble with bleBufCtr := 0, gattReadParams := params }
      { position := 0, count := 0, counter := 0 } :=
  ⟨⟨rfl, rfl, rfl, rfl, rfl⟩, rfl, stores_nothing ble.bleBuf⟩

theorem SameDriver.touches_of_memcpy {ble next : BleDriver} (h : SameDriver next ble) {size : ℕ}
    {position start count : ℕ} {source : Buffer UInt8 size}
    (hcopy : ble.bleBuf.memcpy position source start count = .ok next.bleBuf) {counter : UInt16}
    (hcounter : next.bleBufCtr = counter) :
    Touches ble next { position := position, count := count, counter := counter } := by
  obtain ⟨hfits, hlength, hbuf⟩ := Buffer.memcpy_eq_ok hcopy
  exact { h with
    counter := hcounter
    bleBuf := ⟨source.slice start count, hlength, hfits, hbuf⟩ }

theorem step_read_of_not_reaches {handle : UInt16} {bt : BtAnswers}
    (h : ¬ run.ble.ReachesRead) : run.step (.read handle bt) = .ok run := by
  have hstep : run.step (.read handle bt) = .ok { run with
      ble := (run.ble.read handle bt).2.1
      reading := run.reading || decide ((run.ble.read handle bt).1 = .ok) } := rfl
  rcases read_cases run.ble handle bt with ⟨-, hret, hread⟩ | ⟨hreaches, -⟩
  · rw [hstep, hread]
    simp [hret]
  · exact absurd hreaches h

/-- A call of `read` that does. -/
theorem step_read_of_reaches {handle : UInt16} {bt : BtAnswers} (h : run.ble.ReachesRead) :
    run.step (.read handle bt) = .ok { run with
      ble := { run.ble with bleBufCtr := 0, gattReadParams := { handle := handle, offset := 0 } }
      reading := run.reading || decide ((if bt.read ≠ 0 then RetCode.bleReadFailed else .ok) =
        .ok) } := by
  have hstep : run.step (.read handle bt) = .ok { run with
      ble := (run.ble.read handle bt).2.1
      reading := run.reading || decide ((run.ble.read handle bt).1 = .ok) } := rfl
  rcases read_cases run.ble handle bt with ⟨hnot, -⟩ | ⟨-, hret, hread⟩
  · exact absurd h hnot
  · rw [hstep, hread, hret]

/-- A result is ignored if there is no read, and else handled. -/
theorem step_readResult_cases {err : UInt8} {data : Option (List UInt8)} {length : UInt16}
    (h : run.step (.readResult err data length) = .ok next) :
    (run.reading = false ∧ next = run) ∨
    (run.reading = true ∧ ∃ iter ble calls,
      run.ble.handleReadResult err data length = .ok (iter, ble, calls) ∧
      next = { run with
        ble := ble.advanceRead iter length
        reading := decide (iter = .continue)
        readOut := run.readOut ++ calls }) := by
  cases hreading : run.reading with
  | false =>
    simp only [step, hreading] at h
    cases h
    exact .inl ⟨rfl, rfl⟩
  | true =>
    simp only [step, hreading] at h
    obtain ⟨⟨iter, ble, calls⟩, hread, hnext⟩ := bind_eq_ok.mp h
    cases hnext
    exact .inr ⟨rfl, iter, ble, calls, hread, rfl⟩

/-- A write does nothing, or copies its message, which the stack may then send. -/
theorem step_write_cases {handle len : UInt16} {data : List UInt8} {bt : BtAnswers}
    (h : run.step (.write handle data len bt) = .ok next) :
    (¬ run.ble.ReachesWrite bt.mtu ∧ next = run) ∨
    (run.ble.ReachesWrite bt.mtu ∧ ∃ bleBuf writes,
      run.ble.bleBuf.memcpy 0 (.ofList data) 0 len.toNat = .ok bleBuf ∧
      (writes = run.writes ∨
        writes = run.writes ++ [{ message := data.take len.toNat, sent := [] }]) ∧
      next = { run with
        ble := { run.ble with bleBuf := bleBuf, gattWriteParams := { handle, length := len } }
        writes := writes }) := by
  obtain ⟨⟨ret, ble, calls⟩, hwrite, hnext⟩ := bind_eq_ok.mp h
  simp only at hnext
  rcases writeHandle_cases hwrite with ⟨hnot, hret, rfl, -⟩ | ⟨hreaches, bleBuf, hcopy, rfl, -⟩
  · rw [if_neg hret] at hnext
    cases hnext
    exact .inl ⟨hnot, rfl⟩
  · split_ifs at hnext
    · cases hnext
      exact .inr ⟨hreaches, bleBuf, _, hcopy, .inr rfl, rfl⟩
    · cases hnext
      exact .inr ⟨hreaches, bleBuf, _, hcopy, .inl rfl, rfl⟩

/-- The footprint of an action is what it touches. -/
theorem touches (hstep : run.step action = .ok next) :
    Touches run.ble next.ble (run.footprint action) := by
  cases action with
  | notified conn data length =>
    obtain ⟨⟨iter, ble, calls⟩, hnotified, hnext⟩ := bind_eq_ok.mp hstep
    cases hnext
    rcases handleNotifications_cases hnotified with
      ⟨hnot, -, rfl, -⟩ | ⟨htakes, part, bleBuf, filled, rfl, hcopy, rfl, hlast⟩
    · rw [footprint, if_neg hnot]
      exact touches_untouched run
    · rw [footprint, if_pos htakes]
      rcases hlast with ⟨hcounter, -, rfl, -⟩ | ⟨hcounter, packet, -, -, rfl, -⟩
      · rw [Option.getD_some, if_neg hcounter]
        apply SameDriver.touches_of_memcpy _ hcopy rfl
        exact ⟨rfl, rfl, rfl, rfl, rfl⟩
      · rw [Option.getD_some, if_pos hcounter]
        apply SameDriver.touches_of_memcpy _ hcopy rfl
        exact ⟨rfl, rfl, rfl, rfl, rfl⟩
  | read handle bt =>
    by_cases hreaches : run.ble.ReachesRead
    · rw [step_read_of_reaches hreaches] at hstep
      cases hstep
      rw [footprint, if_pos hreaches]
      exact touches_reset run.ble { handle := handle, offset := 0 }
    · rw [step_read_of_not_reaches hreaches] at hstep
      cases hstep
      rw [footprint, if_neg hreaches]
      exact touches_untouched run
  | readResult err data length =>
    rcases step_readResult_cases hstep with
      ⟨hreading, rfl⟩ | ⟨hreading, iter, ble, calls, hread, rfl⟩
    · rw [footprint, if_pos hreading]
      exact touches_untouched next
    · rw [footprint, if_neg (by simp [hreading])]
      rcases handleReadResult_cases hread with ⟨rfl, packet, -, rfl, rfl, -⟩ |
        ⟨chunk, rfl, ⟨hnot, rfl, rfl, -⟩ | ⟨htakes, bleBuf, hcopy, rfl, rfl, -⟩⟩
      · exact touches_reset run.ble run.ble.gattReadParams
      · rw [if_neg (Option.some_ne_none chunk), if_neg hnot]
        exact touches_untouched run
      · rw [if_neg (Option.some_ne_none chunk), if_pos htakes]
        apply SameDriver.touches_of_memcpy _ hcopy rfl
        exact ⟨rfl, rfl, rfl, rfl, rfl⟩
  | write handle data len bt =>
    rcases step_write_cases hstep with ⟨hnot, rfl⟩ | ⟨hreaches, bleBuf, writes, hcopy, -, rfl⟩
    · rw [footprint, if_neg hnot]
      exact touches_untouched next
    · rw [footprint, if_pos hreaches]
      apply SameDriver.touches_of_memcpy _ hcopy rfl
      exact ⟨rfl, rfl, rfl, rfl, rfl⟩
  | takeSlice index count =>
    cases hstep
    exact touches_untouched run

/-! ## Drivers with the same content -/

/-- The drivers would make the same packet of what they have collected. -/
structure SamePacket (left right : BleDriver) : Prop extends SameDriver left right where
  counter : left.bleBufCtr = right.bleBufCtr
  content : left.bleBuf.slice 0 left.bleBufCtr.toNat = right.bleBuf.slice 0 left.bleBufCtr.toNat

/-- The drivers are at the same place of a read, and have collected what is before it. -/
structure SameReading (left right : BleDriver) : Prop extends SamePacket left right where
  offset : left.gattReadParams.offset = right.gattReadParams.offset
  counted : left.gattReadParams.offset = left.bleBufCtr

/-- What is the same after a result of a read. -/
structure ReadsOn (length : UInt16) (iter : GattIter) (left right : BleDriver) : Prop where
  driver : SameDriver left right
  busy : iter = .continue →
    SameReading (left.advanceRead .continue length) (right.advanceRead .continue length)

/-- A callback has the same answer and makes the same calls in both drivers. -/
structure SameAnswer (same : GattIter → BleDriver → BleDriver → Prop)
    (result other : GattIter × BleDriver × List BleCall) : Prop where
  iter : result.1 = other.1
  ble : same result.1 result.2.1 other.2.1
  calls : result.2.2 = other.2.2

section SamePacket

variable {left right : BleDriver}

theorem SamePacket.refl (ble : BleDriver) : SamePacket ble ble :=
  ⟨.refl ble, rfl, rfl⟩

theorem SameDriver.emptied (h : SameDriver left right) :
    SamePacket { left with bleBufCtr := 0 } { right with bleBufCtr := 0 } :=
  { h with counter := rfl, content := by simp [Buffer.slice] }

/-- An action that keeps the content keeps it the same. -/
theorem SamePacket.of_touches {next : BleDriver} {footprint : Footprint}
    (h : SamePacket left right) (htouches : Touches left next footprint)
    (hcounter : footprint.counter = left.bleBufCtr)
    (havoids : footprint.Avoids 0 left.bleBufCtr.toNat) : SamePacket next right := by
  have hnext : next.bleBufCtr = left.bleBufCtr := htouches.counter.trans hcounter
  obtain ⟨bytes, hlength, hfits, hbuf⟩ := htouches.bleBuf
  rw [← hlength] at hfits
  exact {
    htouches.toSameDriver.trans h.toSameDriver with
    counter := hnext.trans h.counter
    content := by
      rw [hnext, hbuf, Buffer.slice_patch_of_disjoint left.bleBuf hfits (by rwa [hlength])]
      exact h.content }

/-- The same bytes are copied behind the content of both. -/
theorem SamePacket.append (h : SamePacket left right) {size : ℕ} {source : Buffer UInt8 size}
    {start count : ℕ} {counter : UInt16}
    (hcounter : left.bleBufCtr.toNat + count ≤ packetBufSize →
      counter.toNat = left.bleBufCtr.toNat + count) :
    Mirrors (fun bleBuf other ↦ SamePacket { left with bleBuf := bleBuf, bleBufCtr := counter }
        { right with bleBuf := other, bleBufCtr := counter })
      (left.bleBuf.memcpy left.bleBufCtr.toNat source start count)
      (right.bleBuf.memcpy left.bleBufCtr.toNat source start count) := by
  intro bleBuf hcopy
  obtain ⟨hfits, hlength, rfl⟩ := Buffer.memcpy_eq_ok hcopy
  refine ⟨_, Buffer.memcpy_of_eq_ok hcopy right.bleBuf, ?_⟩
  have hbytes : left.bleBufCtr.toNat + (source.slice start count).length ≤ packetBufSize := by
    rwa [hlength]
  have hcount : counter.toNat = left.bleBufCtr.toNat + (source.slice start count).length := by
    rw [hlength]
    exact hcounter hfits
  exact { h with
    counter := rfl
    content := by
      rw [hcount, Buffer.slice_patch left.bleBuf hbytes, Buffer.slice_patch right.bleBuf hbytes,
        h.content] }

theorem SamePacket.bufferPacket (h : SamePacket left right) :
    left.bufferPacket = right.bufferPacket := by
  simp only [BleDriver.bufferPacket, Buffer.memcpy_eq, ← h.counter, h.content, h.srcId, h.destId]

theorem SameDriver.handOver (h : SameDriver left right) (data : PacketData) :
    left.handOver data = right.handOver data := by
  rw [BleDriver.handOver, BleDriver.handOver, h.hasPktHandler]

theorem SameDriver.disconnect (h : SameDriver left right) :
    left.disconnect = right.disconnect := by
  unfold BleDriver.disconnect BleCentral.isConnected
  rw [h.initialized, h.conn]

theorem toNat_add_notified {counter length : UInt16}
    (h : counter.toNat + sizeOfInt (length.toNat - 1) ≤ packetBufSize) :
    (counter + (length - 1)).toNat = counter.toNat + sizeOfInt (length.toNat - 1) := by
  have hlength : length.toNat < 2 ^ 16 := length.toNat_lt
  rw [UInt16.toNat_add, UInt16.toNat_sub]
  simp only [sizeOfInt, packetBufSize] at h ⊢
  simp
  omega

/-- A notification does the same to drivers with the same content. -/
theorem SamePacket.handleNotifications (h : SamePacket left right) (conn : Option ℕ)
    (data : Option (List UInt8)) (length : UInt16) :
    Mirrors (SameAnswer fun _ ↦ SamePacket) (left.handleNotifications conn data length)
      (right.handleNotifications conn data length) := by
  cases conn with
  | none => exact .ok ⟨rfl, h, rfl⟩
  | some conn =>
    cases data with
    | none => exact .ok ⟨rfl, h, rfl⟩
    | some part =>
      refine Mirrors.bind (.of_eq rfl) ?_
      rintro counter _ rfl
      refine Mirrors.ite (by rw [h.counter]) (fun _ ↦ .ok ⟨rfl, h, rfl⟩) fun _ ↦ ?_
      rw [← h.counter]
      refine Mirrors.bind (h.append toNat_add_notified) fun bleBuf other hfilled ↦ ?_
      refine Mirrors.ite Iff.rfl (fun _ ↦ ?_) fun _ ↦ .ok ⟨rfl, hfilled, rfl⟩
      refine Mirrors.bind (.of_eq hfilled.bufferPacket) ?_
      rintro packet _ rfl
      exact .ok ⟨rfl, hfilled.emptied, congrArg₂ (· ++ ·) (hfilled.handOver packet)
        (congrArg Prod.snd hfilled.disconnect)⟩

theorem toNat_add_chunk {counter length : UInt16}
    (h : counter.toNat + length.toNat ≤ packetBufSize) :
    (counter + length).toNat = counter.toNat + length.toNat := by
  rw [UInt16.toNat_add]
  exact Nat.mod_eq_of_lt (h.trans_lt (by decide))

/-- A result of a read does the same to drivers at the same place of it. -/
theorem SameReading.handleReadResult (h : SameReading left right) (err : UInt8)
    (data : Option (List UInt8)) (length : UInt16) :
    Mirrors (SameAnswer (ReadsOn length)) (left.handleReadResult err data length)
      (right.handleReadResult err data length) := by
  have hstopped : ReadsOn length .stop left right :=
    ⟨h.toSameDriver, fun hiter ↦ by cases hiter⟩
  cases data with
  | none =>
    refine Mirrors.bind (.of_eq h.bufferPacket) ?_
    rintro packet _ rfl
    exact .ok ⟨rfl, ⟨h.emptied.toSameDriver, fun hiter ↦ by cases hiter⟩, h.handOver packet⟩
  | some chunk =>
    refine Mirrors.ite Iff.rfl (fun _ ↦ .ok ⟨rfl, hstopped, rfl⟩) fun _ ↦ ?_
    refine Mirrors.ite (by rw [h.offset]) (fun _ ↦ .ok ⟨rfl, hstopped, rfl⟩) fun _ ↦ ?_
    rw [← h.offset, ← h.counter, h.counted]
    refine Mirrors.bind (h.append toNat_add_chunk) fun bleBuf other hfilled ↦ ?_
    refine .ok ⟨rfl, ⟨hfilled.toSameDriver, fun _ ↦ ?_⟩, rfl⟩
    exact { hfilled with
      offset := congrArg (· + length) h.offset
      counted := congrArg (· + length) h.counted }

end SamePacket

/-! ## Runs that are the same for one user -/

/-- The runs are the same for the user that collects notifications. -/
structure SameSeries (left right : BufferRun) : Prop where
  packet : SamePacket left.ble right.ble
  notified : left.notified = right.notified

/-- The runs are the same for the user that reads. -/
structure SameRead (left right : BufferRun) : Prop where
  driver : SameDriver left.ble right.ble
  reading : left.reading = right.reading
  readOut : left.readOut = right.readOut
  busy : left.reading = true → SameReading left.ble right.ble

variable {left right : BufferRun}

/-- Reads and writes do not make calls for notifications. -/
theorem notified_of_foreign (hforeign : action.isNotification = false)
    (hstep : run.step action = .ok next) : next.notified = run.notified := by
  cases action with
  | notified conn data length => cases hforeign
  | read handle bt =>
    cases hstep
    rfl
  | readResult err data length =>
    rcases step_readResult_cases hstep with ⟨-, rfl⟩ | ⟨-, iter, ble, calls, -, rfl⟩
    · rfl
    · rfl
  | write handle data len bt =>
    rcases step_write_cases hstep with ⟨-, rfl⟩ | ⟨-, bleBuf, writes, -, -, rfl⟩
    · rfl
    · rfl
  | takeSlice index count =>
    cases hstep
    rfl

/-- Notifications and writes leave a read alone. -/
theorem reading_of_foreign (hforeign : action.isRead = false)
    (hstep : run.step action = .ok next) :
    next.reading = run.reading ∧ next.readOut = run.readOut ∧
      next.ble.gattReadParams = run.ble.gattReadParams := by
  cases action with
  | notified conn data length =>
    obtain ⟨⟨iter, ble, calls⟩, hnotified, hnext⟩ := bind_eq_ok.mp hstep
    cases hnext
    rcases handleNotifications_cases hnotified with ⟨-, -, rfl, -⟩ |
      ⟨-, part, bleBuf, filled, -, -, rfl, ⟨-, -, rfl, -⟩ | ⟨-, packet, -, -, rfl, -⟩⟩
    · exact ⟨rfl, rfl, rfl⟩
    · exact ⟨rfl, rfl, rfl⟩
    · exact ⟨rfl, rfl, rfl⟩
  | read handle bt => cases hforeign
  | readResult err data length => cases hforeign
  | write handle data len bt =>
    rcases step_write_cases hstep with ⟨-, rfl⟩ | ⟨-, bleBuf, writes, -, -, rfl⟩
    · exact ⟨rfl, rfl, rfl⟩
    · exact ⟨rfl, rfl, rfl⟩
  | takeSlice index count =>
    cases hstep
    exact ⟨rfl, rfl, rfl⟩

theorem SameSeries.foreign (hforeign : action.isNotification = false)
    (hkeeps : left.KeepsContent action) (h : SameSeries left right)
    (hstep : left.step action = .ok next) : SameSeries next right where
  packet := h.packet.of_touches (touches hstep) hkeeps.1 hkeeps.2
  notified := (notified_of_foreign hforeign hstep).trans h.notified

/-- A notification. -/
theorem SameSeries.own (hown : action.isNotification = true) (h : SameSeries left right) :
    Mirrors SameSeries (left.step action) (right.step action) := by
  cases action with
  | notified conn data length =>
    refine Mirrors.bind (h.packet.handleNotifications conn data length) ?_
    rintro ⟨iter, ble, calls⟩ ⟨_, other, _⟩ ⟨rfl, hpacket, rfl⟩
    exact .ok ⟨hpacket, congrArg (· ++ calls) h.notified⟩
  | read handle bt => cases hown
  | readResult err data length => cases hown
  | write handle data len bt => cases hown
  | takeSlice index count => cases hown

/-- A foreign action that keeps the content, if there is a read. -/
theorem SameRead.foreign (hforeign : action.isRead = false)
    (hkeeps : left.reading = true → left.KeepsContent action) (h : SameRead left right)
    (hstep : left.step action = .ok next) : SameRead next right := by
  obtain ⟨hreading, hreadOut, hparams⟩ := reading_of_foreign hforeign hstep
  have htouches := touches hstep
  exact {
    driver := htouches.toSameDriver.trans h.driver
    reading := hreading.trans h.reading
    readOut := hreadOut.trans h.readOut
    busy := fun hbusy ↦ by
      rw [hreading] at hbusy
      obtain ⟨hcounter, havoids⟩ := hkeeps hbusy
      have hsame := h.busy hbusy
      exact {
        hsame.toSamePacket.of_touches htouches hcounter havoids with
        offset := by
          rw [hparams]
          exact hsame.offset
        counted := by
          rw [hparams, htouches.counter, hcounter]
          exact hsame.counted } }

/-- A call of `read`. -/
theorem SameRead.read (h : SameRead left right) (handle : UInt16) (bt : BtAnswers) :
    Mirrors SameRead (left.step (.read handle bt)) (right.step (.read handle bt)) := by
  have hreaches : left.ble.ReachesRead ↔ right.ble.ReachesRead := by
    unfold ReachesRead BleCentral.isConnected
    rw [h.driver.initialized, h.driver.conn]
  by_cases hleft : left.ble.ReachesRead
  · rw [step_read_of_reaches hleft, step_read_of_reaches (hreaches.mp hleft)]
    exact .ok {
      driver := { h.driver with }
      reading := by rw [h.reading]
      readOut := h.readOut
      busy := fun _ ↦ { h.driver.emptied with offset := rfl, counted := rfl } }
  · rw [step_read_of_not_reaches hleft, step_read_of_not_reaches (mt hreaches.mpr hleft)]
    exact .ok h

/-- A result of a read. -/
theorem SameRead.readResult (h : SameRead left right) (err : UInt8) (data : Option (List UInt8))
    (length : UInt16) :
    Mirrors SameRead (left.step (.readResult err data length))
      (right.step (.readResult err data length)) := by
  cases hreading : left.reading with
  | false =>
    have hreading' : right.reading = false := h.reading.symm.trans hreading
    simp only [step, hreading, hreading']
    exact .ok h
  | true =>
    have hreading' : right.reading = true := h.reading.symm.trans hreading
    simp only [step, hreading, hreading']
    refine Mirrors.bind ((h.busy hreading).handleReadResult err data length) ?_
    rintro ⟨iter, ble, calls⟩ ⟨_, other, _⟩ ⟨rfl, hble, rfl⟩
    refine .ok ?_
    cases iter with
    | stop =>
      exact ⟨hble.driver, rfl, congrArg (· ++ calls) h.readOut, fun hbusy ↦ by cases hbusy⟩
    | «continue» =>
      have hbusy := hble.busy rfl
      exact ⟨hbusy.toSameDriver, rfl, congrArg (· ++ calls) h.readOut, fun _ ↦ hbusy⟩

theorem SameRead.own (hown : action.isRead = true) (h : SameRead left right) :
    Mirrors SameRead (left.step action) (right.step action) := by
  cases action with
  | notified conn data length => cases hown
  | read handle bt => exact h.read handle bt
  | readResult err data length => exact h.readResult err data length
  | write handle data len bt => cases hown
  | takeSlice index count => cases hown

theorem SameRead.step_self (h : SameRead run run) (hundisturbed : run.Undisturbed action)
    (hstep : run.step action = .ok next) : SameRead next next := by
  cases haction : action.isRead with
  | true => exact of_returns (SameRead.own haction h next hstep) hstep
  | false =>
    have hsame := h.foreign haction (fun hbusy ↦ hundisturbed.reads hbusy haction) hstep
    exact ⟨.refl next.ble, rfl, rfl, fun hbusy ↦
      ⟨.refl next.ble, rfl, (hsame.busy hbusy).counted⟩⟩

end BufferRun

/-! ## Writes -/

namespace LongWrite

variable {write : LongWrite} {bleBuf : Buffer UInt8 packetBufSize}

/-- The bytes that the stack has yet to take are where it will take them from. -/
def Intact (write : LongWrite) (bleBuf : Buffer UInt8 packetBufSize) : Prop :=
  ∃ rest, write.message = write.sent ++ rest ∧
    bleBuf.slice write.sent.length rest.length = rest

theorem unsent_eq {rest : List UInt8} (h : write.message = write.sent ++ rest) :
    write.unsent = rest.length := by
  rw [unsent, h, List.length_append, Nat.add_sub_cancel_left]

theorem Intact.patch (h : write.Intact bleBuf) {footprint : BufferRun.Footprint}
    {bytes : List UInt8} (hlength : bytes.length = footprint.count)
    (hfits : footprint.position + footprint.count ≤ packetBufSize)
    (havoids : footprint.Avoids write.sent.length write.unsent) :
    write.Intact (bleBuf.patch footprint.position bytes) := by
  obtain ⟨rest, hmessage, hslice⟩ := h
  rw [unsent_eq hmessage] at havoids
  rw [← hlength] at hfits
  refine ⟨rest, hmessage, ?_⟩
  rw [Buffer.slice_patch_of_disjoint bleBuf hfits (by rwa [hlength]), hslice]

/-- The stack takes the next bytes of the message. -/
theorem Intact.take (h : write.Intact bleBuf) (count : ℕ) :
    (write.take bleBuf count).Intact bleBuf := by
  obtain ⟨rest, hmessage, hslice⟩ := h
  have htaken : bleBuf.slice write.sent.length (min count write.unsent) = rest.take count := by
    rw [unsent_eq hmessage, ← Buffer.take_slice bleBuf write.sent.length rest.length
      (Nat.min_le_right count rest.length), hslice, ← List.take_eq_take_min]
  refine ⟨rest.drop count, ?_, ?_⟩
  · calc
      write.message = write.sent ++ (rest.take count ++ rest.drop count) := by
        rw [List.take_append_drop, hmessage]
      _ = (write.take bleBuf count).sent ++ rest.drop count := by
        rw [← List.append_assoc, LongWrite.take, htaken]
  · calc
      bleBuf.slice (write.take bleBuf count).sent.length (rest.drop count).length
        = bleBuf.slice (write.sent.length + min count rest.length)
            (rest.length - min count rest.length) := by
          rw [LongWrite.take, htaken, List.length_append, List.length_take, List.length_drop]
          congr 1
          omega
      _ = rest.drop (min count rest.length) := by rw [← Buffer.drop_slice, hslice]
      _ = rest.drop count := List.drop_eq_drop_min.symm

/-- A message that has just been copied. -/
theorem intact_new {data : List UInt8} {len : ℕ} {bleBuf next : Buffer UInt8 packetBufSize}
    (hcopy : bleBuf.memcpy 0 (.ofList data) 0 len = .ok next) :
    Intact { message := data.take len, sent := [] } next := by
  obtain ⟨hfits, hlength, rfl⟩ := Buffer.memcpy_eq_ok hcopy
  have hslice : (Buffer.ofList data).slice 0 len = data.take len := by
    rw [Buffer.slice, List.drop_zero]
  rw [hslice] at hlength ⊢
  have hbytes : 0 + (data.take len).length ≤ packetBufSize := by rwa [hlength]
  refine ⟨data.take len, rfl, ?_⟩
  calc
    (bleBuf.patch 0 (data.take len)).slice 0 (data.take len).length
      = bleBuf.slice 0 0 ++ data.take len := by
        rw [← Buffer.slice_patch bleBuf hbytes, Nat.zero_add]
    _ = data.take len := by simp [Buffer.slice]

end LongWrite

namespace BufferRun

variable {run next : BufferRun} {action : BufferAction}

def WritesIntact (run : BufferRun) : Prop :=
  ∀ write ∈ run.writes, write.Intact run.ble.bleBuf

/-- What holds of every element, and of what an element is changed to. -/
theorem forall_mem_modify {writes : List LongWrite} {holds : LongWrite → Prop} {index : ℕ}
    {change : LongWrite → LongWrite} (h : ∀ write ∈ writes, holds write)
    (hchange : ∀ {write}, holds write → holds (change write)) :
    ∀ write ∈ writes.modify index change, holds write := by
  intro write hwrite
  obtain ⟨position, hposition⟩ := List.mem_iff_getElem?.mp hwrite
  rw [List.getElem?_modify] at hposition
  obtain ⟨before, hbefore, rfl⟩ := Option.map_eq_some_iff.mp hposition
  have hholds : holds before := h before (List.mem_of_getElem? hbefore)
  split_ifs
  · exact hchange hholds
  · exact hholds

theorem WritesIntact.step (h : run.WritesIntact) (hundisturbed : run.Undisturbed action)
    (hstep : run.step action = .ok next) : next.WritesIntact := by
  have hkept : ∀ write ∈ run.writes, write.Intact next.ble.bleBuf := by
    intro write hwrite
    obtain ⟨bytes, hlength, hfits, hbuf⟩ := (touches hstep).bleBuf
    rw [hbuf]
    exact (h write hwrite).patch hlength hfits (hundisturbed.writes write hwrite)
  cases action with
  | notified conn data length =>
    obtain ⟨result, -, hnext⟩ := bind_eq_ok.mp hstep
    cases hnext
    exact hkept
  | read handle bt =>
    cases hstep
    exact hkept
  | readResult err data length =>
    rcases step_readResult_cases hstep with ⟨-, rfl⟩ | ⟨-, iter, ble, calls, -, rfl⟩
    · exact hkept
    · exact hkept
  | write handle data len bt =>
    rcases step_write_cases hstep with ⟨-, rfl⟩ | ⟨-, bleBuf, writes, hcopy, hwrites, rfl⟩
    · exact hkept
    · rcases hwrites with rfl | rfl
      · exact hkept
      · exact List.forall_mem_append.mpr
          ⟨hkept, List.forall_mem_singleton.mpr (LongWrite.intact_new hcopy)⟩
  | takeSlice index count =>
    cases hstep
    exact forall_mem_modify h fun hwrite ↦ hwrite.take count

/-! ## Isolation -/

/-- In a stretch of a run in which all foreign actions fall within something that a user does, the
user gets the same as in the run without the foreign actions. -/
def ServedAlone (own : BufferAction → Bool) (busy : BufferRun → Bool)
    (output : BufferRun → List BleCall) (mid : BufferRun) (stretch : List BufferAction) : Prop :=
  Along step (fun run action ↦ own action = true ∨ busy run = true) mid stretch →
    Mirrors (fun last alone ↦ output last = output alone) (CheckedRun.run step mid stretch)
      (CheckedRun.run step mid (stretch.filter own))

/-- What the users of the buffer are promised in a stretch of a run. -/
structure Isolated (mid : BufferRun) (stretch : List BufferAction) : Prop where
  series : ServedAlone BufferAction.isNotification inSeries notified mid stretch
  reads : ServedAlone BufferAction.isRead reading readOut mid stretch
  writes : ∀ last, CheckedRun.run step mid stretch = .ok last →
    ∀ write ∈ last.writes, write.sent <+: write.message

/-- The buffer isolates its users in every stretch of a run: the packets made of a series of
notifications are those of the run without the reads and writes that fall between them, the packets
made of a read are those of the run without the notifications and writes that fall into it, and the
bytes that are sent for a write are those passed to it. -/
def UsersIsolated (start : BufferRun) (actions : List BufferAction) : Prop :=
  ∀ before stretch after mid, actions = before ++ stretch ++ after →
    CheckedRun.run step start before = .ok mid → Isolated mid stretch

theorem servedAlone_series {mid : BufferRun} {stretch : List BufferAction}
    (halong : Along step Undisturbed mid stretch) :
    ServedAlone BufferAction.isNotification inSeries notified mid stretch := by
  intro hbetween
  refine Mirrors.mono (unwinding SameSeries ?_ ?_ ⟨.refl mid.ble, rfl⟩ (along_and halong hbetween))
    SameSeries.notified
  · rintro left right next action hforeign ⟨hundisturbed, hbusy⟩ hsame hstep
    have hseries : left.inSeries = true := hbusy.resolve_left (by simp [hforeign])
    exact hsame.foreign hforeign (hundisturbed.series hseries hforeign) hstep
  · intro left right action hown _ hsame
    exact hsame.own hown

theorem servedAlone_reads {mid : BufferRun} {stretch : List BufferAction} (hmid : SameRead mid mid)
    (halong : Along step Undisturbed mid stretch) :
    ServedAlone BufferAction.isRead reading readOut mid stretch := by
  intro _
  refine Mirrors.mono (unwinding SameRead ?_ ?_ hmid halong) SameRead.readOut
  · intro left right next action hforeign hundisturbed hsame hstep
    exact hsame.foreign hforeign (fun hbusy ↦ hundisturbed.reads hbusy hforeign) hstep
  · intro left right action hown _ hsame
    exact hsame.own hown

theorem WritesIntact.sent {run : BufferRun} (h : run.WritesIntact) :
    ∀ write ∈ run.writes, write.sent <+: write.message := by
  intro write hwrite
  obtain ⟨rest, hmessage, -⟩ := h write hwrite
  exact ⟨rest, hmessage.symm⟩

/-- The users of the buffer are isolated in every run in which no action touches what another one
has in the buffer. -/
theorem users_isolated (ble : BleDriver) {actions : List BufferAction}
    (halong : Along step Undisturbed (.start ble) actions) : UsersIsolated (.start ble) actions := by
  rintro before stretch after mid rfl hmid
  have hprefix : Along step Undisturbed (.start ble) (before ++ stretch) := along_append_left halong
  have hbefore : Along step Undisturbed (.start ble) before := along_append_left hprefix
  have hstretch : Along step Undisturbed mid stretch := along_append_right hprefix hmid
  have hread : SameRead (.start ble) (.start ble) :=
    ⟨.refl ble, rfl, rfl, fun hbusy ↦ by cases hbusy⟩
  have hwrites : (start ble).WritesIntact := fun write hwrite ↦ by cases hwrite
  exact {
    series := servedAlone_series hstretch
    reads := servedAlone_reads
      (run_invariant_along (fun run ↦ SameRead run run) SameRead.step_self hread hbefore hmid)
      hstretch
    writes := fun last hlast ↦ WritesIntact.sent
      (run_invariant_along WritesIntact WritesIntact.step hwrites hprefix
        (run_append_eq_ok.mpr ⟨mid, hmid, hlast⟩)) }

def connectedDriver : BleDriver :=
  { serviceDriver with conn := some 1 }

def succeedingAnswers : BtAnswers :=
  (succeeding .disconnect).answers

/-- Users that take turns, apart from a write that fails for its transfer unit within a series, and
one that is sent before the first chunk of a read. -/
theorem taking_turns_isolated :
    UsersIsolated (.start connectedDriver) [
      .notified (some 1) (some [0, 1, 2]) 3,
      .write 17 [9] 1 { succeedingAnswers with mtu := 3 },
      .notified (some 1) (some [255, 3]) 2,
      .read 14 succeedingAnswers,
      .write 17 [7, 8] 2 succeedingAnswers,
      .takeSlice 0 1,
      .takeSlice 0 1,
      .readResult 0 (some [4, 5]) 2,
      .readResult 0 (some [6]) 1,
      .readResult 0 none 0] :=
  users_isolated connectedDriver (by decide +kernel)

/-- A series of two notifications, with a write between them. -/
def interruptedSeries : List BufferAction := [
  .notified (some 1) (some [0, 1, 2]) 3,
  .write 17 [9] 1 succeedingAnswers,
  .notified (some 1) (some [255, 3]) 2]

/-- The packet that is made of this series begins with the byte that has been written. -/
theorem interrupted_series_not_isolated :
    ¬ UsersIsolated (.start connectedDriver) interruptedSeries := by
  intro hisolated
  have halone := (hisolated [] interruptedSeries [] _ rfl rfl).series (by decide +kernel)
  have hmixed : (CheckedRun.run step (.start connectedDriver) interruptedSeries).map notified =
      .ok [.handlePacket {
          type := .outgoing
          destId := instanceIdCloud
          srcId := instanceIdBlePeripheral
          resultCode := 0
          msg := .ofBytes [9, 2, 3] },
        .connDisconnect (some 1) remoteUserTermConn] := by decide +kernel
  exact absurd (halone.map_eq hmixed) (by decide +kernel)

end BufferRun

end CrownstoneRouter
