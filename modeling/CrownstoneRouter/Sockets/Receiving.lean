import CrownstoneRouter.PacketHandling.Queue

/-!
# Receiving from the websocket

The receive thread calls `websocket_recv_msg` until nothing of the message remains, each time behind
what it has received so far, and makes a packet of the message. Every error but `-EAGAIN` leaves the
loop to the same code, so that what has been received before an error becomes a packet as well.
-/

namespace CrownstoneRouter

open CheckedMemory CheckedRun

/-- `ULLONG_MAX` -/
def ullongMax : ℕ := 2 ^ 64 - 1

/-- What `websocket_recv_msg` answers: the bytes that it has stored with the number of bytes of the
message that remain, `-EAGAIN`, or another error. An error stores nothing and sets no number. -/
inductive RecvMsg
  | stored (bytes : List UInt8) (remaining : ℕ)
  | again
  | failed
  deriving DecidableEq

/-- The receive thread of a `WebSocket` whose connection has been established, with the fields of
the object that it uses and its variables, before a call of `websocket_recv_msg`. -/
structure ReceiveThread where
  srcId : InstanceId
  hasPktHandler : Bool
  wsRecvBuf : Buffer UInt8 packetBufSize
  running : Bool
  readPos : ℕ
  totalRead : ℕ
  remainingBytes : ℕ

namespace ReceiveThread

/-- The thread before its first call. -/
def started (srcId : InstanceId) (hasPktHandler : Bool) (wsRecvBuf : Buffer UInt8 packetBufSize) :
    ReceiveThread where
  srcId := srcId
  hasPktHandler := hasPktHandler
  wsRecvBuf := wsRecvBuf
  running := true
  readPos := 0
  totalRead := 0
  remainingBytes := ullongMax

/-- The body of the inner loop; the flag tells whether the loop ends. -/
def receiveChunk (ws : ReceiveThread) : RecvMsg → Checked (ReceiveThread × Bool)
  | .again => return (ws, false)
  | .failed => return (ws, true)
  | .stored bytes remaining => do
      let wsRecvBuf ← ws.wsRecvBuf.store ws.readPos bytes
      return ({ ws with
        wsRecvBuf := wsRecvBuf
        readPos := ws.readPos + bytes.length
        totalRead := ws.totalRead + bytes.length
        remainingBytes := remaining }, !decide (remaining > 0))

/-- What follows the inner loop: a packet of what has been received. The last component is the
packet handed to the packet handler. -/
def dispatch (ws : ReceiveThread) (pkth : PacketHandler) :
    Checked (ReceiveThread × PacketHandler × Option PacketData) := do
  let buf ← (Buffer.fill packetBufSize 0).memcpy 0 ws.wsRecvBuf 0 ws.totalRead
  let data : PacketData := {
    type := .incoming
    destId := 0
    srcId := ws.srcId
    resultCode := 0
    msg := { buf, bufLen := UInt16.ofNat ws.totalRead } }
  if ws.hasPktHandler then
    let (ret, pkth) ← pkth.handlePacket data
    if ret = .aborted then return ({ ws with running := false }, pkth, some data)
    else
      return ({ ws with readPos := 0, totalRead := 0, remainingBytes := ullongMax }, pkth, some data)
  else return ({ ws with running := false }, pkth, none)

/-- `handleMessageReceived` from one call of `websocket_recv_msg` to the next one. -/
def handleMessageReceived (ws : ReceiveThread) (answer : RecvMsg) (pkth : PacketHandler) :
    Checked (ReceiveThread × PacketHandler × Option PacketData) :=
  if !ws.running then return (ws, pkth, none)
  else do
    let (ws, ended) ← ws.receiveChunk answer
    if ended then ws.dispatch pkth else return (ws, pkth, none)

/-- The thread has received some bytes of a message. -/
structure Holds (ws : ReceiveThread) (message : List UInt8) : Prop where
  readPos : ws.readPos = message.length
  totalRead : ws.totalRead = message.length
  fits : message.length ≤ packetBufSize
  slice : ws.wsRecvBuf.slice 0 message.length = message

/-- The thread has received nothing of the next message. -/
structure Ready (ws : ReceiveThread) : Prop where
  running : ws.running = true
  holds : ws.Holds []
  remainingBytes : ws.remainingBytes = ullongMax

variable {ws next : ReceiveThread} {message : List UInt8}

theorem holds_started (srcId : InstanceId) (hasPktHandler : Bool)
    (wsRecvBuf : Buffer UInt8 packetBufSize) :
    (started srcId hasPktHandler wsRecvBuf).Holds [] where
  readPos := rfl
  totalRead := rfl
  fits := Nat.zero_le _
  slice := rfl

/-- A chunk for which there is room goes behind what has been received. -/
theorem Holds.stored (h : ws.Holds message) {bytes : List UInt8}
    (hfits : (message ++ bytes).length ≤ packetBufSize) (remaining : ℕ) :
    ∃ next, ws.receiveChunk (.stored bytes remaining) = .ok (next, !decide (remaining > 0)) ∧
      next.Holds (message ++ bytes) ∧ next.srcId = ws.srcId ∧
      next.hasPktHandler = ws.hasPktHandler ∧ next.running = ws.running ∧
      next.remainingBytes = remaining := by
  rw [List.length_append] at hfits
  have hroom : ws.readPos + bytes.length ≤ packetBufSize := h.readPos ▸ hfits
  have hslice := Buffer.slice_patch ws.wsRecvBuf hroom
  have hstore : ws.wsRecvBuf.store ws.readPos bytes = .ok (ws.wsRecvBuf.patch ws.readPos bytes) :=
    if_pos hroom
  refine ⟨{ ws with
    wsRecvBuf := ws.wsRecvBuf.patch ws.readPos bytes
    readPos := ws.readPos + bytes.length
    totalRead := ws.totalRead + bytes.length
    remainingBytes := remaining }, ?_, ⟨?_, ?_, ?_, ?_⟩, rfl, rfl, rfl, rfl⟩
  · rw [receiveChunk, hstore]
    rfl
  · rw [List.length_append, ← h.readPos]
  · rw [List.length_append, ← h.totalRead]
  · rwa [List.length_append]
  · rw [h.readPos, h.slice] at hslice
    rwa [List.length_append, h.readPos]

/-- What the thread makes of what it has received. -/
def packet (ws : ReceiveThread) (message : List UInt8) : PacketData where
  type := .incoming
  destId := 0
  srcId := ws.srcId
  resultCode := 0
  msg := .ofBytes message

/-- The packet that follows the inner loop. Unless the thread ends, it starts afresh. -/
theorem Holds.dispatch_eq (h : ws.Holds message) (pkth : PacketHandler) :
    ws.dispatch pkth =
      if ws.hasPktHandler then
        (pkth.handlePacket (ws.packet message)).bind fun (ret, pkth) ↦
          .ok (if ret = .aborted then { ws with running := false }
            else { ws with readPos := 0, totalRead := 0, remainingBytes := ullongMax },
            pkth, some (ws.packet message))
      else .ok ({ ws with running := false }, pkth, none) := by
  have hcopy : (Buffer.fill packetBufSize (0 : UInt8)).memcpy 0 ws.wsRecvBuf 0 ws.totalRead =
      .ok ((Buffer.fill packetBufSize 0).overlay message) := by
    rw [h.totalRead, Buffer.memcpy_zero, if_pos ⟨by simpa using h.fits, h.fits⟩, h.slice]
  rw [dispatch, hcopy, h.totalRead]
  change (if ws.hasPktHandler then (pkth.handlePacket (ws.packet message)).bind _ else _) = _
  refine if_ctx_congr Iff.rfl (fun _ ↦ ?_) (fun _ ↦ rfl)
  congr 1
  funext ⟨ret, after⟩
  by_cases hret : ret = .aborted
  · simp [hret, pure, Except.pure, packet, PacketBuffer.ofBytes]
  · simp [hret, pure, Except.pure, packet, PacketBuffer.ofBytes]

theorem Holds.contents_packet (h : ws.Holds message) :
    (ws.packet message).msg.contents = message :=
  PacketBuffer.contents_ofBytes h.fits

/-- With a packet handler the message is handed over; a thread that goes on starts afresh. -/
theorem Holds.of_dispatch (h : ws.Holds message) {pkth after : PacketHandler}
    {handed : Option PacketData} (hdispatch : ws.dispatch pkth = .ok (next, after, handed)) :
    next.hasPktHandler = ws.hasPktHandler ∧ (next.running = true → next.Ready) ∧
      handed = if ws.hasPktHandler then some (ws.packet message) else none := by
  rw [h.dispatch_eq] at hdispatch
  by_cases hpkth : ws.hasPktHandler = true
  · rw [if_pos hpkth] at hdispatch
    obtain ⟨⟨ret, other⟩, -, hresult⟩ := bind_eq_ok.mp hdispatch
    cases hresult
    rw [if_pos hpkth]
    by_cases hret : ret = .aborted
    · simp [hret]
    · simp only [hret, if_false, true_and, and_true]
      exact fun hrunning ↦ ⟨hrunning, ⟨rfl, rfl, Nat.zero_le _, rfl⟩, rfl⟩
  · rw [if_neg hpkth] at hdispatch ⊢
    cases hdispatch
    exact ⟨rfl, fun hrunning ↦ absurd hrunning Bool.false_ne_true, rfl⟩

end ReceiveThread

/-! ## Runs -/

/-- A call of `websocket_recv_msg`: its answer, and the packet handler as it is then. -/
structure ReceiveAction where
  answer : RecvMsg
  pkth : PacketHandler

/-- A receive thread, what it has received of the current message, the messages that have been
completed, and the packets handed to the packet handler. A message is completed when nothing of it
remains; an error ends a message that has not been completed. -/
structure ReceiveRun where
  ws : ReceiveThread
  message : List UInt8
  completed : List (List UInt8)
  handed : List PacketData

namespace ReceiveRun

/-- Before the first call. -/
def started (srcId : InstanceId) (hasPktHandler : Bool) (wsRecvBuf : Buffer UInt8 packetBufSize) :
    ReceiveRun where
  ws := .started srcId hasPktHandler wsRecvBuf
  message := []
  completed := []
  handed := []

/-- What has been received of the current message after an answer. -/
def messageAfter (run : ReceiveRun) : RecvMsg → List UInt8
  | .stored bytes remaining => if remaining > 0 then run.message ++ bytes else []
  | .again => run.message
  | .failed => []

/-- The message that an answer completes. -/
def completes (run : ReceiveRun) : RecvMsg → List (List UInt8)
  | .stored bytes remaining => if remaining > 0 then [] else [run.message ++ bytes]
  | .again => []
  | .failed => []

/-- One call; a thread that has ended makes none. -/
def step (run : ReceiveRun) (action : ReceiveAction) : Checked ReceiveRun :=
  if !run.ws.running then return run
  else do
    let (ws, _, handed) ← run.ws.handleMessageReceived action.answer action.pkth
    return {
      ws
      message := run.messageAfter action.answer
      completed := run.completed ++ run.completes action.answer
      handed := run.handed ++ handed.toList }

/-- The message fits the receive buffer, with what is still to come. -/
def Fits (run : ReceiveRun) (action : ReceiveAction) : Prop :=
  match action.answer with
  | .stored bytes remaining =>
      run.ws.running = true → (run.message ++ bytes).length + remaining ≤ packetBufSize
  | .again | .failed => True

def payloads (run : ReceiveRun) : List (List UInt8) :=
  run.handed.map fun data ↦ data.msg.contents

/-- The packets handed over are the messages completed. -/
def PacketsWhole (run : ReceiveRun) : Prop :=
  run.payloads = run.completed

/-- With a packet handler there is no other error than `-EAGAIN`; without one no message is
completed. -/
def Unbroken (run : ReceiveRun) (action : ReceiveAction) : Prop :=
  run.ws.running = true →
    if run.ws.hasPktHandler then action.answer ≠ .failed else run.completes action.answer = []

instance (run : ReceiveRun) (action : ReceiveAction) : Decidable (run.Unbroken action) :=
  inferInstanceAs (Decidable (_ → _))

instance (run : ReceiveRun) : ∀ action, Decidable (run.Fits action)
  | ⟨.stored _ _, _⟩ => inferInstanceAs (Decidable (_ = true → _ ≤ _))
  | ⟨.again, _⟩ => inferInstanceAs (Decidable True)
  | ⟨.failed, _⟩ => inferInstanceAs (Decidable True)

/-- What becomes packets after an answer, if there is a packet handler. -/
def dispatches (run : ReceiveRun) : RecvMsg → List (List UInt8)
  | .stored bytes remaining => run.completes (.stored bytes remaining)
  | .again => []
  | .failed => [run.message]

/-- A thread that is running holds what has been received of the message. -/
def Tracks (run : ReceiveRun) : Prop :=
  run.ws.running = true → run.ws.Holds run.message

variable {run next : ReceiveRun} {action : ReceiveAction}

theorem step_of_ended (hended : ¬ run.ws.running = true) (hstep : run.step action = .ok next) :
    next = run := by
  rw [step, if_pos (by simpa using hended)] at hstep
  exact (Except.ok.inj hstep).symm

/-- What one call hands over and completes. -/
theorem Tracks.step (h : run.Tracks) (hfits : run.Fits action)
    (hrunning : run.ws.running = true) (hstep : run.step action = .ok next) :
    next.Tracks ∧ next.ws.hasPktHandler = run.ws.hasPktHandler ∧
      next.completed = run.completed ++ run.completes action.answer ∧
      next.payloads = run.payloads ++
        if run.ws.hasPktHandler then run.dispatches action.answer else [] := by
  have hholds := h hrunning
  rw [ReceiveRun.step, if_neg (by simp [hrunning])] at hstep
  obtain ⟨⟨ws, after, handed⟩, hround, hnext⟩ := bind_eq_ok.mp hstep
  cases hnext
  rw [ReceiveThread.handleMessageReceived, if_neg (by simp [hrunning])] at hround
  obtain ⟨⟨chunk, ended⟩, hchunk, hround⟩ := bind_eq_ok.mp hround
  obtain ⟨answer, pkth⟩ := action
  cases answer with
  | again =>
    cases hchunk
    cases hround
    simp [Tracks, messageAfter, completes, dispatches, payloads, hholds]
  | failed =>
    cases hchunk
    obtain ⟨hpkth, hready, rfl⟩ := hholds.of_dispatch hround
    refine ⟨fun hgoes ↦ (hready hgoes).holds, hpkth, rfl, ?_⟩
    by_cases hhandler : run.ws.hasPktHandler = true
    · simp [payloads, dispatches, hhandler, hholds.contents_packet]
    · simp [payloads, hhandler]
  | stored bytes remaining =>
    have hsize := hfits hrunning
    obtain ⟨stored, hstored, hmessage, -, hpkth, -, -⟩ :=
      hholds.stored (Nat.le_trans (Nat.le_add_right _ remaining) hsize) remaining
    rw [hstored] at hchunk
    cases hchunk
    by_cases hremaining : remaining > 0
    · simp only [hremaining, decide_true, Bool.not_true, Bool.false_eq_true, if_false] at hround
      cases hround
      simp [Tracks, messageAfter, completes, dispatches, payloads, hremaining, hmessage, hpkth]
    · simp only [hremaining, decide_false, Bool.not_false, if_true] at hround
      obtain ⟨hkept, hready, rfl⟩ := hmessage.of_dispatch hround
      refine ⟨fun hgoes ↦ ?_, hkept.trans hpkth, by simp [completes, hremaining], ?_⟩
      · simpa [messageAfter, hremaining] using (hready hgoes).holds
      · by_cases hhandler : run.ws.hasPktHandler = true
        · simp [payloads, dispatches, completes, hremaining, hpkth, hhandler,
            hmessage.contents_packet]
        · simp [payloads, hpkth, hhandler]

/-- How many packets too many there are, or too few if there is no packet handler. -/
def excess (run : ReceiveRun) : ℤ :=
  if run.ws.hasPktHandler then run.payloads.length - run.completed.length
  else run.completed.length - run.payloads.length

theorem Tracks.step_any (h : run.Tracks) (hfits : run.Fits action)
    (hstep : run.step action = .ok next) : next.Tracks := by
  by_cases hrunning : run.ws.running = true
  · exact (h.step hfits hrunning hstep).1
  · rwa [step_of_ended hrunning hstep]

/-- An answer is dispatched as often as it completes a message exactly if it is unbroken. -/
theorem Tracks.excess_step (h : run.Tracks) (hfits : run.Fits action)
    (hstep : run.step action = .ok next) :
    run.excess ≤ next.excess ∧ (¬ run.Unbroken action → run.excess < next.excess) := by
  by_cases hrunning : run.ws.running = true
  · obtain ⟨-, hkept, hcompleted, hpayloads⟩ := h.step hfits hrunning hstep
    by_cases hhandler : run.ws.hasPktHandler = true
    · rw [if_pos hhandler] at hpayloads
      simp only [excess, hkept, hhandler, hcompleted, hpayloads, if_true, List.length_append,
        Unbroken, hrunning]
      cases action.answer with
      | stored bytes remaining => simp [dispatches]
      | again => simp [dispatches, completes]
      | failed => simp [dispatches, completes]
    · rw [if_neg hhandler, List.append_nil] at hpayloads
      simp only [excess, hkept, hhandler, hcompleted, hpayloads, List.length_append, Unbroken,
        hrunning]
      cases hcompletes : run.completes action.answer with
      | nil => simp
      | cons message rest => simp; omega
  · rw [step_of_ended hrunning hstep]
    exact ⟨le_rfl, fun hbroken ↦ absurd (fun hruns ↦ absurd hruns hrunning) hbroken⟩

/-- Unbroken answers keep the packets whole. -/
theorem Tracks.packetsWhole_step (h : run.Tracks) (hwhole : run.PacketsWhole)
    (hfits : run.Fits action) (hunbroken : run.Unbroken action)
    (hstep : run.step action = .ok next) : next.PacketsWhole := by
  by_cases hrunning : run.ws.running = true
  · obtain ⟨-, -, hcompleted, hpayloads⟩ := h.step hfits hrunning hstep
    rw [PacketsWhole, hcompleted, hpayloads, hwhole]
    have hanswer := hunbroken hrunning
    by_cases hhandler : run.ws.hasPktHandler = true
    · rw [if_pos hhandler] at hanswer ⊢
      cases hcase : action.answer with
      | stored bytes remaining => rfl
      | again => rfl
      | failed => exact absurd hcase hanswer
    · rw [if_neg hhandler] at hanswer ⊢
      rw [hanswer]
  · rwa [step_of_ended hrunning hstep]

section Whole

variable {srcId : InstanceId} {hasPktHandler : Bool} {wsRecvBuf : Buffer UInt8 packetBufSize}
  {actions : List ReceiveAction} {last : ReceiveRun}

theorem tracks_started : (started srcId hasPktHandler wsRecvBuf).Tracks :=
  fun _ ↦ ReceiveThread.holds_started srcId hasPktHandler wsRecvBuf

theorem excess_started : (started srcId hasPktHandler wsRecvBuf).excess = 0 := by
  simp [excess, payloads, started]

/-- As long as the messages fit the buffer, the packets handed over are the messages completed, one
each and in order, exactly if the connection does not break. -/
theorem websocket_packets_whole_iff
    (hfits : Along step Fits (started srcId hasPktHandler wsRecvBuf) actions)
    (hrun : CheckedRun.run step (started srcId hasPktHandler wsRecvBuf) actions = .ok last) :
    last.PacketsWhole ↔ Along step Unbroken (started srcId hasPktHandler wsRecvBuf) actions := by
  constructor
  · intro hwhole
    have hend : last.excess = 0 := by
      rw [excess, hwhole]
      simp
    exact along_of_potential excess (fun h hgiven hstep ↦ h.step_any hgiven hstep)
      (fun h hgiven hstep ↦ (h.excess_step hgiven hstep).1)
      (fun h hgiven hstep hbroken ↦ (h.excess_step hgiven hstep).2 hbroken)
      tracks_started hfits hrun (hend.trans excess_started.symm).le
  · intro hunbroken
    have hlast := run_invariant_along (fun run ↦ run.Tracks ∧ run.PacketsWhole)
      (fun ⟨htracks, hwhole⟩ hgiven hstep ↦ ⟨htracks.step_any hgiven.1 hstep,
        htracks.packetsWhole_step hwhole hgiven.1 hgiven.2 hstep⟩)
      ⟨tracks_started, rfl⟩ (along_and hfits hunbroken) hrun
    exact hlast.2

end Whole

/-- The websocket as `main` would set it up. -/
def cloudReceiver : ReceiveRun :=
  started instanceIdCloud true (Buffer.fill packetBufSize 0)

def answers (msgs : List RecvMsg) : List ReceiveAction :=
  msgs.map fun answer ↦ { answer, pkth := PacketHandler.routerRegistry [] }

/-- A message in two chunks with a retry between them, and a message in one chunk. -/
theorem websocket_packets_whole_of_chunks :
    ∃ last, CheckedRun.run step cloudReceiver
        (answers [.stored [0x61, 0x62] 1, .again, .stored [0x63] 0, .stored [0x64] 0]) = .ok last ∧
      last.completed = [[0x61, 0x62, 0x63], [0x64]] ∧ last.PacketsWhole := by
  have hend : (CheckedRun.run step cloudReceiver
      (answers [.stored [0x61, 0x62] 1, .again, .stored [0x63] 0, .stored [0x64] 0])).map
        completed = .ok [[0x61, 0x62, 0x63], [0x64]] := by decide +kernel
  obtain ⟨last, hrun, hcompleted⟩ := map_eq_ok.mp hend
  exact ⟨last, hrun, hcompleted,
    (websocket_packets_whole_iff (by decide +kernel) hrun).mpr (by decide +kernel)⟩

/-- A connection that is closed in the middle of a message: what has been received of the message
becomes a packet, and then the next error an empty one. -/
theorem broken_message_dispatched :
    Along step Fits cloudReceiver (answers [.stored [0x61, 0x62] 3, .failed, .failed]) ∧
      ∃ last, CheckedRun.run step cloudReceiver
          (answers [.stored [0x61, 0x62] 3, .failed, .failed]) = .ok last ∧
        last.payloads = [[0x61, 0x62], []] ∧ last.completed = [] ∧ ¬ last.PacketsWhole := by
  have hend : (CheckedRun.run step cloudReceiver
      (answers [.stored [0x61, 0x62] 3, .failed, .failed])).map
        (fun last ↦ (last.payloads, last.completed)) = .ok ([[0x61, 0x62], []], []) := by
    decide +kernel
  obtain ⟨last, hrun, hlast⟩ := map_eq_ok.mp hend
  obtain ⟨hpayloads, hcompleted⟩ := Prod.mk.inj hlast
  refine ⟨by decide +kernel, last, hrun, hpayloads, hcompleted, fun hwhole ↦ ?_⟩
  rw [PacketsWhole, hpayloads, hcompleted] at hwhole
  cases hwhole

end ReceiveRun

end CrownstoneRouter
