import CrownstoneRouter.Drivers.BleReading

/-!
# Sessions with a peripheral

After each subscription the driver reads the session data and then collects a series of
notifications, up to the one with the counter 255. The theorem at the end says in which sessions
this series alone decides which packet is made of it, whatever has been left in the buffer before.
-/

namespace CrownstoneRouter

open CheckedMemory CheckedRun ReadChunk

/-- A notification with a counter in front; its length has 16 bits. -/
structure SeriesPart where
  counter : UInt8
  body : List UInt8
  bounded : body.length + 1 < 2 ^ 16

namespace SeriesPart

def length (part : SeriesPart) : UInt16 :=
  UInt16.ofNat (part.body.length + 1)

theorem toNat_length (part : SeriesPart) : part.length.toNat = part.body.length + 1 :=
  UInt16.toNat_ofNat_of_lt' part.bounded

/-- The bytes of a series up to its end, if it has one. -/
def series : List SeriesPart → Option (List UInt8)
  | [] => none
  | part :: rest =>
      if part.counter = 255 then some part.body
      else (series rest).map fun bytes ↦ part.body ++ bytes

end SeriesPart

/-- A session: the connection, what the stack answers when the session data is read, the results of
this read, and the notifications. -/
structure BleSession where
  conn : ℕ
  bt : BtAnswers
  chunks : List ReadChunk
  err : UInt8
  parts : List SeriesPart

def BleCall.packet : BleCall → Option PacketData
  | .handlePacket data => some data
  | _ => none

namespace BleDriver

/-- The notifications of a session, until one of them ends it. -/
def notifications (ble : BleDriver) (conn : ℕ) :
    List SeriesPart → Checked (BleDriver × List BleCall)
  | [] => return (ble, [])
  | part :: rest => do
      let (iter, ble, calls) ←
        ble.handleNotifications (some conn) (some (part.counter :: part.body)) part.length
      match iter with
      | .stop => return (ble, calls)
      | .continue =>
          let (ble, more) ← ble.notifications conn rest
          return (ble, calls ++ more)

/-- A session, with the calls that are made for its notifications. There are results of the read if
the stack has accepted it. -/
def session (ble : BleDriver) (session : BleSession) : Checked (BleDriver × List BleCall) := do
  let (ble, _) := { ble with conn := some session.conn }.handleDiscoveryDone 0 session.bt
  if session.bt.read = 0 then
    let (ble, _) ← ble.readResults session.chunks session.err
    ble.notifications session.conn session.parts
  else ble.notifications session.conn session.parts

def sessionStep (ble : BleDriver) (session : BleSession) : Checked BleDriver := do
  let (ble, _) ← ble.session session
  return ble

/-- The packets that a series is meant to be handed over in. -/
def seriesPackets (ble : BleDriver) (parts : List SeriesPart) : List PacketData :=
  match SeriesPart.series parts with
  | some bytes =>
      if bytes.length ≤ packetBufSize then [peripheralData ble.srcId ble.destId bytes] else []
  | none => []

/-- The packets handed over for the notifications of a session are those of its series. -/
def SessionServed (ble : BleDriver) (session : BleSession) : Prop :=
  ∃ next calls, ble.session session = .ok (next, calls) ∧
    calls.filterMap BleCall.packet = ble.seriesPackets session.parts

/-- If a session has a complete series that fits, there is a packet handler, and the read of the
session has not been stopped for its length with data in the buffer. -/
def SessionClean (ble : BleDriver) (session : BleSession) : Prop :=
  ∀ bytes ∈ SeriesPart.series session.parts, bytes.length ≤ packetBufSize →
    ble.hasPktHandler = true ∧
      (session.bt.read = 0 → (joined session.chunks).length ≤ packetBufSize ∨
        Assembly.FirstTooLong packetBufSize (session.chunks.map ReadChunk.bytes))

instance (ble : BleDriver) (session : BleSession) : Decidable (ble.SessionClean session) :=
  inferInstanceAs (Decidable (∀ bytes ∈ SeriesPart.series session.parts, _ → _ ∧ _))

/-! ## One session -/

variable {ble : BleDriver} {content : List UInt8}

/-- What a notification of a session does. -/
theorem Holds.part (h : ble.Holds content) (conn : ℕ) (part : SeriesPart) :
    ble.handleNotifications (some conn) (some (part.counter :: part.body)) part.length =
      if content.length + part.body.length ≤ packetBufSize then
        if part.counter = 255 then
          .ok (.stop, (ble.appended part.body).emptied,
            ble.handOver (peripheralData ble.srcId ble.destId (content ++ part.body)) ++
              ble.disconnect.2)
        else .ok (.continue, ble.appended part.body, [])
      else .ok (.stop, ble, []) := by
  have hlength : part.length.toNat - 1 = part.body.length := by
    rw [part.toNat_length, Nat.add_sub_cancel]
  have hpart := h.handleNotifications conn part.counter
    (part.toNat_length ▸ Nat.le_add_left 1 part.body.length) part.toNat_length.le
  rwa [hlength, List.take_length] at hpart

theorem packets_handOver (ble : BleDriver) (data : PacketData) :
    (ble.handOver data ++ ble.disconnect.2).filterMap BleCall.packet =
      if ble.hasPktHandler then [data] else [] := by
  have hdisconnect : ble.disconnect.2.filterMap BleCall.packet = [] := by
    unfold disconnect
    split_ifs <;> rfl
  rw [List.filterMap_append, hdisconnect, List.append_nil, handOver]
  split_ifs <;> rfl

/-- The packets made of a series behind some content. -/
def packetsAfter (ble : BleDriver) (content : List UInt8) (parts : List SeriesPart) :
    List PacketData :=
  match SeriesPart.series parts with
  | some bytes =>
      if content.length + bytes.length ≤ packetBufSize ∧ ble.hasPktHandler = true then
        [peripheralData ble.srcId ble.destId (content ++ bytes)]
      else []
  | none => []

theorem packetsAfter_cons_of_more (ble : BleDriver) (content : List UInt8) {part : SeriesPart}
    (hmore : part.counter ≠ 255) (rest : List SeriesPart) :
    ble.packetsAfter content (part :: rest) = ble.packetsAfter (content ++ part.body) rest := by
  rw [packetsAfter, packetsAfter, SeriesPart.series, if_neg hmore]
  cases SeriesPart.series rest with
  | none => rfl
  | some bytes => simp [List.append_assoc, Nat.add_assoc]

/-- Behind a part without room for it no packet is made. -/
theorem packetsAfter_cons_of_not_fits (ble : BleDriver) {content : List UInt8} {part : SeriesPart}
    (hfits : ¬ content.length + part.body.length ≤ packetBufSize) (rest : List SeriesPart) :
    ble.packetsAfter content (part :: rest) = [] := by
  rw [packetsAfter, SeriesPart.series]
  by_cases hlast : part.counter = 255
  · rw [if_pos hlast]
    exact if_neg fun h ↦ hfits h.1
  · rw [if_neg hlast]
    cases SeriesPart.series rest with
    | none => rfl
    | some bytes =>
      refine if_neg fun h ↦ hfits ?_
      have htotal := h.1
      rw [List.length_append] at htotal
      omega

/-- What the notifications of a session hand over: the content from before, with the series behind
it, if there is room for both. -/
theorem Holds.notifications (h : ble.Holds content) (conn : ℕ) (parts : List SeriesPart) :
    ∃ last calls, ble.notifications conn parts = .ok (last, calls) ∧
      BufferRun.SameDriver last ble ∧
      calls.filterMap BleCall.packet = ble.packetsAfter content parts := by
  induction parts generalizing ble content with
  | nil => exact ⟨ble, [], rfl, .refl ble, rfl⟩
  | cons part rest ih =>
    by_cases hfits : content.length + part.body.length ≤ packetBufSize
    · by_cases hlast : part.counter = 255
      · have hpart := h.part conn part
        rw [if_pos hfits, if_pos hlast] at hpart
        refine ⟨(ble.appended part.body).emptied, _, ?_, ⟨rfl, rfl, rfl, rfl, rfl⟩,
          (packets_handOver ble
            (peripheralData ble.srcId ble.destId (content ++ part.body))).trans ?_⟩
        · simp only [BleDriver.notifications, hpart, bind, bind_ok]
          rfl
        · simp only [packetsAfter, SeriesPart.series, if_pos hlast, hfits, true_and]
      · obtain ⟨last, calls, hrest, hsame, hcalls⟩ := ih (h.append hfits)
        refine ⟨last, calls, ?_, hsame.trans ⟨rfl, rfl, rfl, rfl, rfl⟩, ?_⟩
        · simp only [BleDriver.notifications, h.part, if_pos hfits, if_neg hlast, hrest, bind,
            bind_ok]
          rfl
        · rw [packetsAfter_cons_of_more ble content hlast]
          exact hcalls
    · refine ⟨ble, [], ?_, .refl ble, (packetsAfter_cons_of_not_fits ble hfits rest).symm⟩
      simp only [BleDriver.notifications, h.part, if_neg hfits, bind, bind_ok]
      rfl

/-! ## Runs of sessions -/

/-- The driver is set up in the same way, whatever connection it has. -/
structure SameSetup (left right : BleDriver) : Prop where
  initialized : left.initialized = right.initialized
  srcId : left.srcId = right.srcId
  destId : left.destId = right.destId
  hasPktHandler : left.hasPktHandler = right.hasPktHandler

theorem SameSetup.of_sameDriver {next : BleDriver} {conn : Option ℕ}
    (h : BufferRun.SameDriver next { ble with conn := conn }) : SameSetup next ble :=
  ⟨h.initialized, h.srcId, h.destId, h.hasPktHandler⟩

theorem SameSetup.packetsAfter {left right : BleDriver} (h : SameSetup left right)
    (content : List UInt8) (parts : List SeriesPart) :
    left.packetsAfter content parts = right.packetsAfter content parts := by
  rw [BleDriver.packetsAfter, BleDriver.packetsAfter, h.srcId, h.destId, h.hasPktHandler]

/-- What the read of a session leaves in the buffer. -/
def leftByRead (session : BleSession) : List UInt8 :=
  if session.bt.read = 0 then leftBy [] session.chunks else []

/-- A session hands over what is left by its read, with its series behind it. -/
theorem session_spec (hinit : ble.initialized = true) (session : BleSession) :
    ∃ next calls, ble.session session = .ok (next, calls) ∧ SameSetup next ble ∧
      calls.filterMap BleCall.packet =
        ble.packetsAfter (leftByRead session) session.parts := by
  have hreaches : { ble with conn := some session.conn }.ReachesRead := ⟨hinit, rfl⟩
  obtain ⟨hstarted, hsame⟩ := readsAt_of_reaches hreaches ble.sessionDataHandle session.bt
  have hdone : { ble with conn := some session.conn }.handleDiscoveryDone 0 session.bt =
      ({ ble with conn := some session.conn }.read ble.sessionDataHandle session.bt).2 := rfl
  simp only [BleDriver.session, hdone, leftByRead]
  by_cases haccepted : session.bt.read = 0
  · obtain ⟨last, hresults, hkept, hleft⟩ := hstarted.readResults session.chunks session.err
    obtain ⟨next, calls, hnotified, hafter, hcalls⟩ :=
      hleft.notifications session.conn session.parts
    refine ⟨next, calls, ?_, .of_sameDriver (hafter.trans (hkept.trans hsame)), ?_⟩
    · simp only [if_pos haccepted, hresults, bind, bind_ok, hnotified]
    · rw [hcalls, if_pos haccepted]
      exact (SameSetup.of_sameDriver (hkept.trans hsame)).packetsAfter _ _
  · obtain ⟨next, calls, hnotified, hafter, hcalls⟩ :=
      hstarted.toHolds.notifications session.conn session.parts
    refine ⟨next, calls, ?_, .of_sameDriver (hafter.trans hsame), ?_⟩
    · simp only [if_neg haccepted, hnotified]
    · rw [hcalls, if_neg haccepted]
      exact (SameSetup.of_sameDriver hsame).packetsAfter _ _

/-- The packets made of a series behind some content are those that it is meant for, if there is a
packet handler and no content. -/
theorem packetsAfter_eq_iff (ble : BleDriver) (content : List UInt8) (parts : List SeriesPart) :
    ble.packetsAfter content parts = ble.seriesPackets parts ↔
      ∀ bytes ∈ SeriesPart.series parts, bytes.length ≤ packetBufSize →
        ble.hasPktHandler = true ∧ content = [] := by
  rw [packetsAfter, seriesPackets]
  cases SeriesPart.series parts with
  | none => simp
  | some bytes =>
    simp only [Option.mem_def, Option.some.injEq, forall_eq']
    by_cases hfits : bytes.length ≤ packetBufSize
    · rw [if_pos hfits, forall_prop_of_true hfits]
      constructor
      · intro hpackets
        split_ifs at hpackets with htaken
        refine ⟨htaken.2, ?_⟩
        -- a packet announces its bytes, so the packets are different unless the bytes are the same
        have hcontents : (PacketBuffer.ofBytes (content ++ bytes)).contents =
            (PacketBuffer.ofBytes bytes).contents :=
          congrArg (fun data : PacketData ↦ data.msg.contents) (List.head_eq_of_cons_eq hpackets)
        have htotal : (content ++ bytes).length ≤ packetBufSize := by
          rw [List.length_append]
          exact htaken.1
        rw [PacketBuffer.contents_ofBytes htotal, PacketBuffer.contents_ofBytes hfits] at hcontents
        exact List.append_left_eq_self.mp hcontents
      · rintro ⟨hhandler, rfl⟩
        exact if_pos ⟨by rwa [List.length_nil, Nat.zero_add], hhandler⟩
    · have hbehind : ¬ (content.length + bytes.length ≤ packetBufSize ∧ ble.hasPktHandler = true) :=
        fun h ↦ hfits (Nat.le_of_add_left_le h.1)
      rw [if_neg hfits, if_neg hbehind]
      exact iff_of_true rfl fun h ↦ absurd h hfits

/-- A session hands over the packets of its series exactly if it is clean. -/
theorem sessionServed_iff (hinit : ble.initialized = true) (session : BleSession) :
    ble.SessionServed session ↔ ble.SessionClean session := by
  obtain ⟨next, calls, hsession, -, hcalls⟩ := session_spec hinit session
  have hleft : leftByRead session = [] ↔ (session.bt.read = 0 →
      (joined session.chunks).length ≤ packetBufSize ∨
        Assembly.FirstTooLong packetBufSize (session.chunks.map ReadChunk.bytes)) := by
    rw [leftByRead, ← leftBy_eq_nil_iff]
    split_ifs with haccepted
    · exact ⟨fun h _ ↦ h, fun h ↦ h haccepted⟩
    · exact iff_of_true rfl fun h ↦ absurd h haccepted
  simp only [SessionServed, SessionClean, hsession, Except.ok.injEq, Prod.mk.injEq, and_assoc,
    exists_and_left, exists_eq_left', hcalls, packetsAfter_eq_iff, hleft]

/-- Whether a session is clean depends on the driver only through its packet handler. -/
theorem SameSetup.sessionClean_iff {left right : BleDriver} (h : SameSetup left right)
    (session : BleSession) : left.SessionClean session ↔ right.SessionClean session := by
  simp only [SessionClean, h.hasPktHandler]

theorem SameSetup.trans {left middle right : BleDriver} (h : SameSetup left middle)
    (h' : SameSetup middle right) : SameSetup left right :=
  ⟨h.initialized.trans h'.initialized, h.srcId.trans h'.srcId, h.destId.trans h'.destId,
    h.hasPktHandler.trans h'.hasPktHandler⟩

end BleDriver

open BleDriver

/-- In a run of sessions, whatever is in the buffer at its start, every session hands over the
packets of its own series exactly if every session is clean. -/
theorem sessions_served_iff {ble : BleDriver} (hinit : ble.initialized = true)
    (sessions : List BleSession) :
    Along sessionStep SessionServed ble sessions ↔
      ∀ session ∈ sessions, ble.SessionClean session := by
  refine @along_iff_forall _ _ _ _ _ _ ble.SessionClean (fun state ↦ SameSetup state ble) ?_ ?_
    ⟨rfl, rfl, rfl, rfl⟩
  · intro state session hsetup
    rw [sessionServed_iff (hsetup.initialized.trans hinit)]
    exact hsetup.sessionClean_iff session
  · intro state session hsetup
    obtain ⟨next, calls, hsession, hnext, -⟩ :=
      session_spec (hsetup.initialized.trans hinit) session
    refine ⟨next, ?_, hnext.trans hsetup⟩
    simp only [sessionStep, hsession, bind, bind_ok]
    rfl

/-- A session with a read of some chunks, and a series of two notifications. -/
def sessionAfter (chunks : List ReadChunk) : BleSession where
  conn := 1
  bt := BufferRun.succeedingAnswers
  chunks := chunks
  err := 0
  parts := [⟨0, [4, 5], by decide⟩, ⟨255, [6], by decide⟩]

def longChunk : ReadChunk :=
  ⟨List.replicate 200 1, List.length_replicate.trans_lt (by decide)⟩

/-- A session with a read of two bytes, and one with a read of a long chunk. -/
theorem sessions_served_after_short_reads :
    Along sessionStep SessionServed serviceDriver [sessionAfter [⟨[1, 2], by decide⟩],
        sessionAfter [longChunk]] ↔
      ∀ session ∈ [sessionAfter [⟨[1, 2], by decide⟩], sessionAfter [longChunk]],
        serviceDriver.SessionClean session :=
  sessions_served_iff rfl _

/-- The first chunk of a read that gets too long is handed over in front of the series. -/
theorem session_after_long_read_not_served :
    ¬ Along sessionStep SessionServed serviceDriver [sessionAfter [longChunk, longChunk]] := by
  intro hserved
  have hclean := (sessionServed_iff rfl _).mp hserved.1
  exact absurd hclean (by decide +kernel)

end CrownstoneRouter
