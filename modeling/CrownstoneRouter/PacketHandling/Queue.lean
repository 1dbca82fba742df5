import CrownstoneRouter.Foundation.Transition
import CrownstoneRouter.PacketHandling.Registry

/-!
# The packet queue

`handlePacket` appends a packet to the message queue of the packet handler, from which the packet
thread takes the oldest one. The queue is a ring that is told to have `CS_PACKET_BUF_SIZE` slots,
over a buffer in which `CS_PACKET_QUEUE_SIZE` messages fit. A run is therefore a first-in first-out
queue inside its own buffer exactly as long as `handlePacket` is called no more often than there is
room for messages, however many of them have been taken in the meantime.
-/

namespace CrownstoneRouter

open CheckedMemory CheckedRun

namespace PacketHandler

/-- `PacketHandler::handlePacket` -/
def handlePacket (pkth : PacketHandler) (data : PacketData) : Checked (RetCode × PacketHandler) :=
  if !pkth.initialized then .ok (.notInitialized, pkth)
  else if !pkth.threadRunning then .ok (.aborted, pkth)
  else do
    let (taken, pkthMsgq) ← pkth.pkthMsgq.put data
    return (if taken then .ok else .handlerNotReady, { pkth with pkthMsgq })

/-- The `k_msgq_get` of the packet thread; on an empty queue the thread keeps waiting. -/
def getPacket (pkth : PacketHandler) : Checked (Option PacketData × PacketHandler) := do
  let (data, pkthMsgq) ← pkth.pkthMsgq.get
  return (data, { pkth with pkthMsgq })

theorem handlePacket_of_running {pkth : PacketHandler} (hinit : pkth.initialized = true)
    (hrunning : pkth.threadRunning = true) (data : PacketData) :
    pkth.handlePacket data = (pkth.pkthMsgq.put data).bind fun (taken, pkthMsgq) ↦
      .ok (if taken then .ok else .handlerNotReady, { pkth with pkthMsgq }) := by
  rw [handlePacket, if_neg (by simp [hinit]), if_neg (by simp [hrunning])]
  rfl

/-- A packet is either accepted into the queue, or the packet handler stays as it is. -/
theorem handlePacket_cases {pkth after : PacketHandler} {data : PacketData} {ret : RetCode}
    (h : pkth.handlePacket data = .ok (ret, after)) :
    (ret ≠ .ok ∧ after = pkth) ∨
      ret = .ok ∧ ∃ pkthMsgq, pkth.pkthMsgq.put data = .ok (true, pkthMsgq) ∧
        after = { pkth with pkthMsgq } := by
  by_cases hinit : pkth.initialized = true
  · by_cases hrunning : pkth.threadRunning = true
    · rw [handlePacket_of_running hinit hrunning] at h
      obtain ⟨⟨taken, pkthMsgq⟩, hput, hresult⟩ := bind_eq_ok.mp h
      obtain ⟨rfl, rfl⟩ := Prod.mk.inj (Except.ok.inj hresult)
      cases taken with
      | true => exact .inr ⟨rfl, pkthMsgq, hput, rfl⟩
      | false =>
        unfold RingQueue.put at hput
        split_ifs at hput <;> cases hput
        exact .inl ⟨by decide, rfl⟩
    · simp only [handlePacket, hinit, hrunning, Bool.not_true, Bool.not_false, Bool.false_eq_true,
        if_false, if_true, Except.ok.injEq, Prod.mk.injEq] at h
      exact .inl ⟨h.1 ▸ by decide, h.2.symm⟩
  · simp only [handlePacket, hinit, Bool.not_false, if_true, Except.ok.injEq, Prod.mk.injEq] at h
    exact .inl ⟨h.1 ▸ by decide, h.2.symm⟩

theorem handlePacket_notReady {pkth after : PacketHandler} {data : PacketData}
    (h : pkth.handlePacket data = .ok (.handlerNotReady, after)) : after = pkth := by
  obtain ⟨-, hafter⟩ | ⟨hret, -⟩ := handlePacket_cases h
  · exact hafter
  · cases hret

/-! ## Slots -/

/-- The queue holds these packets, and every packet that has been put to it has had a slot of its
own. -/
structure OwnSlots (pkth : PacketHandler) (queued : List PacketData) : Prop where
  maxMsgs : pkth.pkthMsgq.maxMsgs = packetBufSize
  represents : pkth.pkthMsgq.Represents queued
  length_le : queued.length ≤ pkth.pkthMsgq.writeIndex
  bounded : pkth.pkthMsgq.writeIndex ≤ packetQueueSize

/-- A slot is left for the next packet, if a packet handler that runs puts it anywhere. -/
def HasSlot (pkth : PacketHandler) : Prop :=
  pkth.initialized = true → pkth.threadRunning = true →
    pkth.pkthMsgq.writeIndex < packetQueueSize

instance (pkth : PacketHandler) : Decidable pkth.HasSlot :=
  inferInstanceAs (Decidable (_ → _ → _))

section OwnSlots

variable {pkth : PacketHandler} {queued : List PacketData}

theorem OwnSlots.put (h : pkth.OwnSlots queued)
    (hroom : pkth.pkthMsgq.writeIndex < packetQueueSize) (data : PacketData) :
    ∃ pkthMsgq, pkth.pkthMsgq.put data = .ok (true, pkthMsgq) ∧
      OwnSlots { pkth with pkthMsgq } (queued ++ [data]) ∧
      pkthMsgq.writeIndex = pkth.pkthMsgq.writeIndex + 1 := by
  have hsizes : packetQueueSize < packetBufSize := by decide
  have hfree : queued.length < pkth.pkthMsgq.maxMsgs := by
    rw [h.maxMsgs]
    exact (h.length_le.trans_lt hroom).trans hsizes
  obtain ⟨pkthMsgq, hput, hrepresents, hmax, hindex⟩ := h.represents.put hfree hroom data
  have hnext : pkth.pkthMsgq.writeIndex + 1 ≠ pkth.pkthMsgq.maxMsgs := by
    rw [h.maxMsgs]
    exact ((Nat.succ_le_of_lt hroom).trans_lt hsizes).ne
  rw [RingQueue.advance, if_neg hnext] at hindex
  refine ⟨pkthMsgq, hput, ⟨hmax.trans h.maxMsgs, hrepresents, ?_, ?_⟩, hindex⟩
  · simpa [hindex] using h.length_le
  · rw [hindex]
    exact hroom

/-- Without a slot left, the next packet is written behind the buffer. -/
theorem OwnSlots.put_overrun (h : pkth.OwnSlots queued)
    (hfull : ¬ pkth.pkthMsgq.writeIndex < packetQueueSize) (data : PacketData) :
    pkth.pkthMsgq.put data = .error .outOfBounds := by
  have hsizes : packetQueueSize < packetBufSize := by decide
  have hused : pkth.pkthMsgq.usedMsgs < pkth.pkthMsgq.maxMsgs := by
    rw [h.maxMsgs, h.represents.used]
    exact (h.length_le.trans h.bounded).trans_lt hsizes
  exact RingQueue.put_of_overrun hused hfull data

theorem OwnSlots.get (h : pkth.OwnSlots queued) :
    ∃ pkthMsgq, pkth.pkthMsgq.get = .ok (queued.head?, pkthMsgq) ∧
      OwnSlots { pkth with pkthMsgq } queued.tail ∧
      pkthMsgq.writeIndex = pkth.pkthMsgq.writeIndex := by
  obtain ⟨pkthMsgq, hget, hrepresents, hmax, hindex⟩ := h.represents.get
  have hlength : queued.tail.length ≤ pkth.pkthMsgq.writeIndex := by
    rw [List.length_tail]
    exact (Nat.sub_le _ _).trans h.length_le
  exact ⟨pkthMsgq, hget, ⟨hmax.trans h.maxMsgs, hrepresents, hindex ▸ hlength,
    hindex ▸ h.bounded⟩, hindex⟩

theorem OwnSlots.of_queue (h : pkth.OwnSlots queued) {next : PacketHandler}
    (hqueue : next.pkthMsgq = pkth.pkthMsgq) : next.OwnSlots queued := by
  obtain ⟨hmax, hrepresents, hlength, hbounded⟩ := h
  rw [← hqueue] at hmax hrepresents hlength hbounded
  exact ⟨hmax, hrepresents, hlength, hbounded⟩

/-- A packet is handed over inside the buffer exactly if there is a slot for it. -/
theorem OwnSlots.handlePacket_returns_iff (h : pkth.OwnSlots queued) (data : PacketData) :
    (∃ result, pkth.handlePacket data = .ok result) ↔ pkth.HasSlot := by
  unfold HasSlot
  cases hinit : pkth.initialized with
  | false => exact iff_of_true ⟨_, by rw [handlePacket, hinit]; rfl⟩ (by simp)
  | true =>
    cases hrunning : pkth.threadRunning with
    | false => exact iff_of_true ⟨_, by rw [handlePacket, hinit, hrunning]; rfl⟩ (by simp)
    | true =>
      rw [handlePacket_of_running hinit hrunning, forall_prop_of_true rfl, forall_prop_of_true rfl]
      refine (bind_returns_iff fun _ ↦ ⟨_, rfl⟩).trans ?_
      by_cases hroom : pkth.pkthMsgq.writeIndex < packetQueueSize
      · obtain ⟨pkthMsgq, hput, -⟩ := h.put hroom data
        exact iff_of_true ⟨_, hput⟩ hroom
      · rw [h.put_overrun hroom data]
        exact iff_of_false (by simp) hroom

theorem OwnSlots.of_handlePacket (h : pkth.OwnSlots queued) {data : PacketData} {ret : RetCode}
    {after : PacketHandler} (hhandle : pkth.handlePacket data = .ok (ret, after)) :
    after = pkth ∨ ∃ pkthMsgq, after = { pkth with pkthMsgq } ∧ after.OwnSlots (queued ++ [data]) := by
  obtain ⟨-, rfl⟩ | ⟨-, pkthMsgq, hput, rfl⟩ := handlePacket_cases hhandle
  · exact .inl rfl
  · by_cases hroom : pkth.pkthMsgq.writeIndex < packetQueueSize
    · obtain ⟨other, hother, hnext, -⟩ := h.put hroom data
      cases hput.symm.trans hother
      exact .inr ⟨_, rfl, hnext⟩
    · cases hput.symm.trans (h.put_overrun hroom data)

end OwnSlots

end PacketHandler

/-- What the senders and the packet thread do with the queue. -/
inductive QueueAction
  | handlePacket (data : PacketData)
  | getPacket
  deriving DecidableEq

/-- The packet handler with the packets for which `handlePacket` has returned `CS_OK`, and those
that the packet thread has obtained. -/
structure QueueRun where
  pkth : PacketHandler
  accepted : List PacketData
  obtained : List PacketData

/-- One action. -/
def queueStep (run : QueueRun) : QueueAction → Checked QueueRun
  | .handlePacket data => do
      let (ret, pkth) ← run.pkth.handlePacket data
      return { run with
        pkth := pkth
        accepted := if ret = .ok then run.accepted ++ [data] else run.accepted }
  | .getPacket => do
      let (data, pkth) ← run.pkth.getPacket
      return { run with pkth := pkth, obtained := run.obtained ++ data.toList }

/-- The packet handler right after `init`. -/
def queueStart (handlers : Slot → Handler)
    (cells : Fin (msgqBufSize / sizeofPacketData) → Option PacketData) : QueueRun where
  pkth := PacketHandler.booted handlers cells
  accepted := []
  obtained := []

/-- The number of calls of `handlePacket`. -/
def handlePacketCount (actions : List QueueAction) : ℕ :=
  actions.countP fun
    | .handlePacket _ => true
    | .getPacket => false

/-- The run stays inside the buffer, and the accepted packets are those obtained followed by those
that as many further gets obtain. -/
def IsFifo (start : QueueRun) (actions : List QueueAction) : Prop :=
  ∃ last queued drained, run queueStep start actions = .ok last ∧
    last.pkth.pkthMsgq.Represents queued ∧ last.accepted = last.obtained ++ queued ∧
    run queueStep last (List.replicate queued.length .getPacket) = .ok drained ∧
    drained.obtained = last.accepted

/-- The invariant of a run: every message ever accepted has had a slot of its own. -/
structure QueueInvariant (run : QueueRun) (queued : List PacketData) : Prop where
  initialized : run.pkth.initialized = true
  running : run.pkth.threadRunning = true
  maxMsgs : run.pkth.pkthMsgq.maxMsgs = packetBufSize
  represents : run.pkth.pkthMsgq.Represents queued
  accepted_eq : run.accepted = run.obtained ++ queued
  writeIndex : run.pkth.pkthMsgq.writeIndex = run.accepted.length
  bounded : run.accepted.length ≤ packetQueueSize

section Step

variable {run : QueueRun} {queued : List PacketData}

theorem QueueInvariant.length_queued_le (h : QueueInvariant run queued) :
    queued.length ≤ run.accepted.length := by
  rw [h.accepted_eq, List.length_append]
  omega

theorem QueueInvariant.ownSlots (h : QueueInvariant run queued) : run.pkth.OwnSlots queued where
  maxMsgs := h.maxMsgs
  represents := h.represents
  length_le := h.writeIndex ▸ h.length_queued_le
  bounded := h.writeIndex ▸ h.bounded

/-- As long as slots are left, a packet is accepted into the next one. -/
theorem QueueInvariant.handlePacket (h : QueueInvariant run queued) (data : PacketData)
    (hroom : run.accepted.length < packetQueueSize) :
    ∃ next, queueStep run (.handlePacket data) = .ok next ∧
      QueueInvariant next (queued ++ [data]) ∧
      next.accepted.length = run.accepted.length + 1 := by
  obtain ⟨pkthMsgq, hput, hslots, hindex⟩ := h.ownSlots.put (h.writeIndex ▸ hroom) data
  refine ⟨{ run with pkth := { run.pkth with pkthMsgq }, accepted := run.accepted ++ [data] },
    ?_, ⟨h.initialized, h.running, hslots.maxMsgs, hslots.represents, ?_, ?_, ?_⟩, by simp⟩
  · simp [queueStep, PacketHandler.handlePacket_of_running h.initialized h.running, hput, bind, pure,
      Except.pure]
  · simp [h.accepted_eq]
  · simp [hindex, h.writeIndex]
  · rw [List.length_append]
    exact hroom

theorem QueueInvariant.handlePacket_overrun (h : QueueInvariant run queued) (data : PacketData)
    (hfull : ¬ run.accepted.length < packetQueueSize) :
    queueStep run (.handlePacket data) = .error .outOfBounds := by
  simp [queueStep, PacketHandler.handlePacket_of_running h.initialized h.running,
    h.ownSlots.put_overrun (h.writeIndex ▸ hfull) data, bind]

/-- The packet thread obtains the oldest packet, if there is one. -/
theorem QueueInvariant.getPacket (h : QueueInvariant run queued) :
    ∃ next, queueStep run .getPacket = .ok next ∧ QueueInvariant next queued.tail ∧
      next.obtained = run.obtained ++ queued.take 1 ∧ next.accepted = run.accepted := by
  obtain ⟨pkthMsgq, hget, hslots, hindex⟩ := h.ownSlots.get
  refine ⟨{ run with
      pkth := { run.pkth with pkthMsgq }
      obtained := run.obtained ++ queued.head?.toList },
    ?_, ⟨h.initialized, h.running, hslots.maxMsgs, hslots.represents, ?_, ?_, h.bounded⟩, ?_, rfl⟩
  · simp [queueStep, PacketHandler.getPacket, hget, bind, pure, Except.pure]
  · cases queued with
    | nil => simpa using h.accepted_eq
    | cons data rest => simpa using h.accepted_eq
  · rw [hindex, h.writeIndex]
  · cases queued with
    | nil => simp
    | cons data rest => simp

end Step

/-! ## Runs -/

section Runs

variable {start : QueueRun} {queued : List PacketData}

/-- A run returns exactly if there are slots for all its packets. -/
theorem QueueInvariant.run_returns_iff (h : QueueInvariant start queued)
    (actions : List QueueAction) :
    (∃ last, run queueStep start actions = .ok last) ↔
      start.accepted.length + handlePacketCount actions ≤ packetQueueSize := by
  induction actions generalizing start queued with
  | nil => simpa [handlePacketCount] using h.bounded
  | cons action rest ih =>
    cases action with
    | handlePacket data =>
      by_cases hroom : start.accepted.length < packetQueueSize
      · obtain ⟨next, hstep, hnext, hlength⟩ := h.handlePacket data hroom
        simp only [run_cons_eq_ok, hstep, Except.ok.injEq, exists_eq_left', ih hnext, hlength]
        simp [handlePacketCount]
        omega
      · have hfault := h.handlePacket_overrun data hroom
        have hcount : handlePacketCount (.handlePacket data :: rest) =
            handlePacketCount rest + 1 := by simp [handlePacketCount]
        simp only [run_cons_eq_ok, hfault, reduceCtorEq, false_and, exists_false, false_iff, hcount]
        omega
    | getPacket =>
      obtain ⟨next, hstep, hnext, -, haccepted⟩ := h.getPacket
      simp only [run_cons_eq_ok, hstep, Except.ok.injEq, exists_eq_left', ih hnext, haccepted]
      simp [handlePacketCount]

/-- A run that returns keeps the invariant. -/
theorem QueueInvariant.run {last : QueueRun} {actions : List QueueAction}
    (h : QueueInvariant start queued) (hrun : run queueStep start actions = .ok last) :
    ∃ left, QueueInvariant last left := by
  refine run_invariant (fun state ↦ ∃ left, QueueInvariant state left)
    (fun {state action next} hstate hstep ↦ ?_) ⟨queued, h⟩ hrun
  obtain ⟨left, hleft⟩ := hstate
  cases action with
  | handlePacket data =>
    by_cases hroom : state.accepted.length < packetQueueSize
    · obtain ⟨_, hnext, hinvariant, -⟩ := hleft.handlePacket data hroom
      rw [hstep] at hnext
      cases hnext
      exact ⟨_, hinvariant⟩
    · rw [hleft.handlePacket_overrun data hroom] at hstep
      cases hstep
  | getPacket =>
    obtain ⟨_, hnext, hinvariant, -⟩ := hleft.getPacket
    rw [hstep] at hnext
    cases hnext
    exact ⟨_, hinvariant⟩

/-- As many gets as there are queued packets obtain all of them in order. -/
theorem QueueInvariant.drain (h : QueueInvariant start queued) :
    ∃ drained, CheckedRun.run queueStep start (List.replicate queued.length .getPacket) =
      .ok drained ∧ drained.obtained = start.accepted := by
  induction queued generalizing start with
  | nil => exact ⟨start, rfl, by simpa using h.accepted_eq.symm⟩
  | cons data rest ih =>
    obtain ⟨next, hstep, hnext, -, haccepted⟩ := h.getPacket
    obtain ⟨drained, hrun, hobtained⟩ := ih hnext
    exact ⟨drained, run_cons_eq_ok.mpr ⟨next, hstep, hrun⟩, hobtained.trans haccepted⟩

end Runs

theorem queueInvariant_start (handlers : Slot → Handler)
    (cells : Fin (msgqBufSize / sizeofPacketData) → Option PacketData) :
    QueueInvariant (queueStart handlers cells) [] where
  initialized := rfl
  running := rfl
  maxMsgs := rfl
  represents := RingQueue.represents_init cells (by decide)
  accepted_eq := rfl
  writeIndex := rfl
  bounded := by simp [queueStart]

/-- The packet queue is a first-in first-out queue inside its own buffer exactly as long as no more
than `CS_PACKET_QUEUE_SIZE` packets have been handed to it since `init`; a packet that is refused
for want of space always leaves the queue as it is. -/
theorem queue_is_fifo_iff (handlers : Slot → Handler)
    (cells : Fin (msgqBufSize / sizeofPacketData) → Option PacketData)
    (actions : List QueueAction) :
    (IsFifo (queueStart handlers cells) actions ↔
      handlePacketCount actions ≤ packetQueueSize) ∧
    ∀ pkth after : PacketHandler, ∀ data : PacketData,
      pkth.handlePacket data = .ok (.handlerNotReady, after) → after = pkth := by
  have hstart := queueInvariant_start handlers cells
  have hreturns := hstart.run_returns_iff actions
  rw [show (queueStart handlers cells).accepted.length = 0 from rfl, Nat.zero_add] at hreturns
  refine ⟨⟨fun ⟨last, _, _, hrun, _⟩ ↦ hreturns.mp ⟨last, hrun⟩, fun hcount ↦ ?_⟩,
    fun _ _ _ hrefused ↦ PacketHandler.handlePacket_notReady hrefused⟩
  obtain ⟨last, hrun⟩ := hreturns.mpr hcount
  obtain ⟨queued, hlast⟩ := hstart.run hrun
  obtain ⟨drained, hdrain, hobtained⟩ := hlast.drain
  exact ⟨last, queued, drained, hrun, hlast.represents, hlast.accepted_eq, hdrain, hobtained⟩

/-- Even if every packet that is put to the ring has left it before the next one, the fifteenth is
written behind the message buffer. -/
theorem not_isFifo_of_fifteen_packets :
    ¬ IsFifo (queueStart PacketHandler.zeroedHandlers PacketHandler.zeroedCells)
      ((List.replicate 14 [.handlePacket PacketData.zero, .getPacket]).flatten ++
        [.handlePacket PacketData.zero]) := by
  rintro ⟨last, _, _, hrun, _⟩
  have hstart := queueInvariant_start PacketHandler.zeroedHandlers PacketHandler.zeroedCells
  have hcount := (hstart.run_returns_iff _).mp ⟨last, hrun⟩
  exact absurd hcount (by decide)

end CrownstoneRouter
