import CrownstoneRouter.Drivers.BleContent

/-!
# Reads and their results

The stack reports a read in chunks, and its end without data. `handleReadResult` makes a packet of
the end of a read before it looks at the error code, and leaves the counter as it is if a chunk does
not fit. The theorem at the end says which reads are reported as they went.
-/

namespace CrownstoneRouter

open CheckedMemory

/-- `CS_RESULT_TYPE_SUCCES` -/
def resultTypeSucces : UInt8 := 0

/-- A chunk of a read; its length has 16 bits. -/
structure ReadChunk where
  bytes : List UInt8
  bounded : bytes.length < 2 ^ 16

namespace ReadChunk

def length (chunk : ReadChunk) : UInt16 :=
  UInt16.ofNat chunk.bytes.length

theorem toNat_length (chunk : ReadChunk) : chunk.length.toNat = chunk.bytes.length :=
  UInt16.toNat_ofNat_of_lt' chunk.bounded

/-- What the chunks of a read make together. -/
def joined (chunks : List ReadChunk) : List UInt8 :=
  (chunks.map bytes).flatten

end ReadChunk

open ReadChunk

namespace BleDriver

/-- All results of a read: chunks, until one of them stops it, or else its end, with an error code.
An error is reported without data. -/
def readResults (ble : BleDriver) : List ReadChunk → UInt8 → Checked (BleDriver × List BleCall)
  | [], err => do
      let (_, ble, calls) ← ble.handleReadResult err none 0
      return (ble, calls)
  | chunk :: rest, err => do
      let (iter, ble, calls) ← ble.handleReadResult 0 (some chunk.bytes) chunk.length
      match iter with
      | .stop => return (ble, calls)
      | .continue =>
          let (ble, more) ← (ble.advanceRead .continue chunk.length).readResults rest err
          return (ble, calls ++ more)

/-- A read is reported as it went: a packet with the result code of a success is handed over exactly
if there has been no error and the buffer has room for all chunks, this packet consists of the
chunks, and nothing is counted afterwards. -/
def ReadReported (started : BleDriver) (chunks : List ReadChunk) (err : UInt8) : Prop :=
  ∃ last calls, started.readResults chunks err = .ok (last, calls) ∧
    ((∃ data, .handlePacket data ∈ calls ∧ data.resultCode = resultTypeSucces) ↔
      err = 0 ∧ (joined chunks).length ≤ packetBufSize) ∧
    (∀ data, .handlePacket data ∈ calls → data.resultCode = resultTypeSucces →
      data.msg.contents = joined chunks) ∧
    last.bleBufCtr = 0

/-- The chunks of a read fit, and it ends without error for a driver with a packet handler, or with
an error for one without; or its first chunk with data does not fit. -/
def ReadFaithful (ble : BleDriver) (chunks : List ReadChunk) (err : UInt8) : Prop :=
  ((joined chunks).length ≤ packetBufSize ∧ (err = 0 ↔ ble.hasPktHandler = true)) ∨
    Assembly.FirstTooLong packetBufSize (chunks.map bytes)

instance (ble : BleDriver) (chunks : List ReadChunk) (err : UInt8) :
    Decidable (ble.ReadFaithful chunks err) :=
  inferInstanceAs (Decidable (_ ∨ _))

/-! ## Specifications -/

variable {ble started : BleDriver} {content : List UInt8} {chunks rest : List ReadChunk}

/-- The driver is at the place of a read that its counter says. -/
structure ReadsAt (ble : BleDriver) (content : List UInt8) : Prop extends ble.Holds content where
  offset : ble.gattReadParams.offset = ble.bleBufCtr

theorem readsAt_of_reaches (h : ble.ReachesRead) (handle : UInt16) (bt : BtAnswers) :
    (ble.read handle bt).2.1.ReadsAt [] ∧
      BufferRun.SameDriver (ble.read handle bt).2.1 ble := by
  rcases read_cases ble handle bt with ⟨hnot, -⟩ | ⟨-, -, hread⟩
  · exact absurd h hnot
  · rw [hread]
    exact ⟨{ Holds.nil rfl with offset := rfl }, ⟨rfl, rfl, rfl, rfl, rfl⟩⟩

theorem reachesRead_of_ok {handle : UInt16} {bt : BtAnswers} {calls : List BleCall}
    (h : ble.read handle bt = (.ok, started, calls)) : ble.ReachesRead := by
  rcases read_cases ble handle bt with ⟨-, hret, -⟩ | ⟨hreaches, -⟩
  · exact absurd (congrArg Prod.fst h) hret
  · exact hreaches

/-- A chunk that fits takes a read to its next place. -/
theorem ReadsAt.chunk (h : ble.ReadsAt content) (chunk : ReadChunk) :
    ble.handleReadResult 0 (some chunk.bytes) chunk.length =
      if content.length + chunk.bytes.length ≤ packetBufSize then
        .ok (.continue, ble.appended chunk.bytes, [])
      else .ok (.stop, ble, []) := by
  have htakes : ble.TakesChunk 0 chunk.length ↔
      content.length + chunk.bytes.length ≤ packetBufSize := by
    rw [TakesChunk, h.offset, h.counter, chunk.toNat_length, and_iff_right rfl]
  rw [ble.handleReadResult_some 0 chunk.toNat_length.le]
  refine if_congr htakes ?_ rfl
  rw [h.offset, chunk.toNat_length, List.take_length]
  rfl

theorem ReadsAt.append (h : ble.ReadsAt content) {chunk : ReadChunk}
    (hfits : content.length + chunk.bytes.length ≤ packetBufSize) :
    ((ble.appended chunk.bytes).advanceRead .continue chunk.length).ReadsAt
      (content ++ chunk.bytes) :=
  { h.toHolds.append hfits with offset := by rw [advanceRead, appended, h.offset]; rfl }

/-- What a read leaves: nothing if its chunks fit, else what has been collected in front of the
first chunk that does not. -/
def leftBy (content : List UInt8) (chunks : List ReadChunk) : List UInt8 :=
  if content.length + (joined chunks).length ≤ packetBufSize then []
  else Assembly.collected packetBufSize content (chunks.map bytes)

/-- What the results of a read do: a packet at its end, with an error as well as without one, if all
chunks fit, and nothing else. -/
theorem ReadsAt.readResults (h : ble.ReadsAt content) (chunks : List ReadChunk) (err : UInt8) :
    ∃ last, ble.readResults chunks err = .ok (last,
        if content.length + (joined chunks).length ≤ packetBufSize then
          ble.handOver (peripheralData ble.srcId ble.destId (content ++ joined chunks))
        else []) ∧
      BufferRun.SameDriver last ble ∧ last.Holds (leftBy content chunks) := by
  induction chunks generalizing ble content with
  | nil =>
    have hfits : content.length + (joined []).length ≤ packetBufSize := h.bounded
    refine ⟨ble.emptied, ?_, ⟨rfl, rfl, rfl, rfl, rfl⟩, ?_⟩
    · have hjoined : joined [] = [] := rfl
      rw [if_pos hfits, hjoined, List.append_nil]
      simp only [BleDriver.readResults, h.toHolds.handleReadResult_none, bind, bind_ok]
      rfl
    · rw [leftBy, if_pos hfits]
      exact holds_emptied ble
  | cons chunk rest ih =>
    have hjoined : joined (chunk :: rest) = chunk.bytes ++ joined rest := rfl
    by_cases hfits : content.length + chunk.bytes.length ≤ packetBufSize
    · obtain ⟨last, hlast, hsame, hleft⟩ := ih (h.append hfits)
      have htotal : (content ++ chunk.bytes).length + (joined rest).length =
          content.length + (joined (chunk :: rest)).length := by
        rw [hjoined, List.length_append, List.length_append, Nat.add_assoc]
      rw [htotal, List.append_assoc, ← hjoined] at hlast
      refine ⟨last, ?_, hsame.trans ⟨rfl, rfl, rfl, rfl, rfl⟩, ?_⟩
      · simp only [BleDriver.readResults, h.chunk, if_pos hfits, hlast, bind, bind_ok]
        rfl
      · rw [leftBy, htotal] at hleft
        rwa [leftBy, List.map_cons, Assembly.collected_cons_of_fits hfits]
    · have hlong : ¬ content.length + (joined (chunk :: rest)).length ≤ packetBufSize := by
        rw [hjoined, List.length_append]
        omega
      refine ⟨ble, ?_, .refl ble, ?_⟩
      · simp only [BleDriver.readResults, h.chunk, if_neg hfits, if_neg hlong, bind, bind_ok]
        rfl
      · rw [leftBy, if_neg hlong, List.map_cons, Assembly.collected_cons_of_not_fits hfits]
        exact h.toHolds

/-- A read leaves nothing exactly if its chunks fit, or the first one with data does not. -/
theorem leftBy_eq_nil_iff :
    leftBy [] chunks = [] ↔ (joined chunks).length ≤ packetBufSize ∨
      Assembly.FirstTooLong packetBufSize (chunks.map bytes) := by
  rw [leftBy, List.length_nil, Nat.zero_add]
  by_cases hfits : (joined chunks).length ≤ packetBufSize
  · rw [if_pos hfits]
    exact iff_of_true rfl (.inl hfits)
  · have hsome : (chunks.map bytes).flatten ≠ [] := by
      intro hnil
      rw [joined, hnil] at hfits
      exact hfits (Nat.zero_le _)
    rw [if_neg hfits, Assembly.collected_eq_nil_iff, or_iff_right hsome, or_iff_right hfits]

/-- A driver with an empty buffer reports a read as it went exactly if its chunks fit and it ends
without error, where an error does no harm without a packet handler, or if already its first chunk
with data does not fit. -/
theorem ReadsAt.readReported_iff (hstarted : started.ReadsAt [])
    (hhandler : started.hasPktHandler = ble.hasPktHandler) (chunks : List ReadChunk)
    (err : UInt8) : started.ReadReported chunks err ↔ ble.ReadFaithful chunks err := by
  obtain ⟨last, hresults, -, hlast⟩ := hstarted.readResults chunks err
  have hcounter : last.bleBufCtr = 0 ↔ leftBy [] chunks = [] := by
    rw [← List.length_eq_zero_iff, ← hlast.counter, ← UInt16.toNat_inj]
    rfl
  rw [List.length_nil, Nat.zero_add, List.nil_append] at hresults
  simp only [ReadReported, ReadFaithful, hresults, Except.ok.injEq, Prod.mk.injEq, and_assoc,
    exists_and_left, exists_eq_left', hcounter, leftBy_eq_nil_iff]
  by_cases hfits : (joined chunks).length ≤ packetBufSize
  · have hcontents : (peripheralData started.srcId started.destId (joined chunks)).msg.contents =
        joined chunks := PacketBuffer.contents_ofBytes hfits
    have hcode : (peripheralData started.srcId started.destId (joined chunks)).resultCode =
        resultTypeSucces := rfl
    have hshort : ¬ Assembly.FirstTooLong packetBufSize (chunks.map bytes) := fun hlong ↦
      absurd (Assembly.lt_length_of_firstTooLong hlong) (not_lt.mpr hfits)
    simp only [hfits, if_true, handOver, hhandler, and_true, true_and, or_iff_left hshort]
    by_cases hhandler : ble.hasPktHandler = true
    · simp [hhandler, hcontents, hcode]
    · simp [hhandler]
  · simp [hfits]

/-- A read that has been started is reported as it went exactly if its chunks fit and it ends
without error, where an error does no harm without a packet handler, or if already its first chunk
with data does not fit. -/
theorem read_reported_iff {handle : UInt16} {bt : BtAnswers} {calls : List BleCall}
    (hread : ble.read handle bt = (.ok, started, calls)) (chunks : List ReadChunk) (err : UInt8) :
    started.ReadReported chunks err ↔ ble.ReadFaithful chunks err := by
  obtain ⟨hstarted, hsame⟩ := readsAt_of_reaches (reachesRead_of_ok hread) handle bt
  simp only [hread] at hstarted hsame
  exact hstarted.readReported_iff hsame.hasPktHandler chunks err

/-- A read in two chunks. -/
theorem read_reported_in_two_chunks :
    ∃ started calls, BufferRun.connectedDriver.read 14 BufferRun.succeedingAnswers =
        (.ok, started, calls) ∧
      (started.ReadReported [⟨[1, 2], by decide⟩, ⟨[3], by decide⟩] 0 ↔
        BufferRun.connectedDriver.ReadFaithful [⟨[1, 2], by decide⟩, ⟨[3], by decide⟩] 0) :=
  ⟨_, _, rfl, @read_reported_iff BufferRun.connectedDriver _ 14 BufferRun.succeedingAnswers _ rfl
    _ 0⟩

/-- A read that fails after its first chunk is reported as a success with this chunk. -/
theorem failed_read_reported :
    ∃ started calls, BufferRun.connectedDriver.read 14 BufferRun.succeedingAnswers =
        (.ok, started, calls) ∧
      ¬ started.ReadReported [⟨[1, 2], by decide⟩] 0x0E := by
  refine ⟨_, _, rfl, fun hreported ↦ ?_⟩
  obtain ⟨hstarted, hsame⟩ := @readsAt_of_reaches BufferRun.connectedDriver ⟨rfl, rfl⟩ 14
    BufferRun.succeedingAnswers
  have hfaithful := (hstarted.readReported_iff hsame.hasPktHandler _ _).mp hreported
  exact absurd hfaithful (by decide +kernel)

end BleDriver

end CrownstoneRouter
