import CrownstoneRouter.Router.Provenance

/-!
# Handing packets over

What the actors of a router do with its packet queue and its work queue: a packet is handed over,
which takes a slot that has not been used, the oldest packet is taken, and a work item runs.
-/

namespace CrownstoneRouter

open CheckedMemory CheckedRun

/-! ## Packets -/

section Packets

variable {pkth : PacketHandler} {accepted handled queued : List PacketData} {data : PacketData}

theorem QueueInvariant.accepts (h : QueueInvariant ⟨pkth, accepted, handled⟩ queued)
    (hroom : accepted.length < packetQueueSize) (data : PacketData) :
    ∃ pkthMsgq, pkth.handlePacket data = .ok (.ok, { pkth with pkthMsgq }) ∧
      QueueInvariant ⟨{ pkth with pkthMsgq }, accepted ++ [data], handled⟩ (queued ++ [data]) := by
  obtain ⟨next, hstep, hnext, hlength⟩ := h.handlePacket data hroom
  obtain ⟨⟨ret, after⟩, hhandle, hresult⟩ := bind_eq_ok.mp hstep
  cases hresult
  obtain ⟨hret, -⟩ | ⟨rfl, pkthMsgq, -, rfl⟩ := PacketHandler.handlePacket_cases hhandle
  · simp [hret] at hlength
  · exact ⟨pkthMsgq, hhandle, by simpa using hnext⟩

theorem QueueInvariant.overruns (h : QueueInvariant ⟨pkth, accepted, handled⟩ queued)
    (hfull : ¬ accepted.length < packetQueueSize) (data : PacketData) :
    pkth.handlePacket data = .error .outOfBounds := by
  have hfault := h.handlePacket_overrun data hfull
  cases hhandle : pkth.handlePacket data with
  | error fault =>
    rw [queueStep, hhandle] at hfault
    cases hfault
    rfl
  | ok result => simp [queueStep, hhandle, bind, pure, Except.pure] at hfault

theorem QueueInvariant.takes (h : QueueInvariant ⟨pkth, accepted, handled⟩ (data :: queued)) :
    ∃ pkthMsgq, pkth.pkthMsgq.get = .ok (some data, pkthMsgq) ∧
      QueueInvariant ⟨{ pkth with pkthMsgq }, accepted, handled ++ [data]⟩ queued := by
  obtain ⟨pkthMsgq, hget, -⟩ := h.represents.get_cons
  obtain ⟨next, hstep, hnext, -⟩ := h.getPacket
  simp only [queueStep, PacketHandler.getPacket, hget, bind, bind_ok, pure, Except.pure] at hstep
  cases hstep
  exact ⟨pkthMsgq, hget, hnext⟩

theorem QueueInvariant.of_registry {next : PacketHandler}
    (h : QueueInvariant ⟨pkth, accepted, handled⟩ queued)
    (hinit : next.initialized = pkth.initialized) (hrunning : next.threadRunning = pkth.threadRunning)
    (hqueue : next.pkthMsgq = pkth.pkthMsgq) :
    QueueInvariant ⟨next, accepted, handled⟩ queued := by
  obtain ⟨hinitialized, hruns, hmax, hrepresents, haccepted, hwrite, hbounded⟩ := h
  rw [← hinit] at hinitialized
  rw [← hrunning] at hruns
  rw [← hqueue] at hmax hrepresents hwrite
  exact ⟨hinitialized, hruns, hmax, hrepresents, haccepted, hwrite, hbounded⟩

theorem QueueInvariant.of_dispatched {sys next : System} {slot : Slot} {packet : List UInt8}
    {pending : Slot → PacketResult} (h : QueueInvariant ⟨sys.pkth, accepted, handled⟩ queued)
    (hdispatched : Dispatched sys next slot packet pending) :
    QueueInvariant ⟨next.pkth, accepted, handled⟩ queued := by
  rw [hdispatched.registry]
  exact h.of_registry rfl rfl rfl

theorem RouterRun.handedOver_of_accepted {run : RouterRun} {data : PacketData}
    {after : PacketHandler} (h : run.sys.pkth.handlePacket data = .ok (.ok, after)) :
    run.handedOver after [data] =
      { run with
        sys := { run.sys with pkth := after }
        accepted := run.accepted ++ [data] } := by
  have haccepts : run.sys.pkth.accepts data = true := by
    rw [PacketHandler.accepts, h]
    rfl
  simp [handedOver, haccepts]

theorem RouterRun.handedOver_nil (run : RouterRun) : run.handedOver run.sys.pkth [] = run := by
  simp [handedOver]

end Packets

/-- The calls of a callback hand their packets over, as long as there are slots for all of them. -/
theorem QueueInvariant.follow {run : RouterRun} {calls : List BleCall}
    (h : QueueInvariant ⟨run.sys.pkth, run.accepted, run.handled⟩ queued)
    (hroom : run.accepted.length + (calls.filterMap BleCall.packet).length ≤ packetQueueSize) :
    ∃ pkthMsgq asked, run.follow calls = .ok { run with
        sys := { run.sys with pkth := { run.sys.pkth with pkthMsgq } }
        accepted := run.accepted ++ calls.filterMap BleCall.packet
        asked } ∧
      QueueInvariant ⟨{ run.sys.pkth with pkthMsgq },
        run.accepted ++ calls.filterMap BleCall.packet, run.handled⟩
        (queued ++ calls.filterMap BleCall.packet) := by
  induction calls generalizing run queued with
  | nil =>
    simp only [List.filterMap_nil, List.append_nil]
    exact ⟨run.sys.pkth.pkthMsgq, run.asked, rfl, h⟩
  | cons call rest ih =>
    unfold RouterRun.follow
    cases hpacket : call.packet with
    | none =>
      simp only [List.filterMap_cons, hpacket] at hroom ⊢
      exact @ih _ { run with asked := run.asked ++ [call] } h hroom
    | some data =>
      simp only [List.filterMap_cons, hpacket, List.length_cons] at hroom ⊢
      obtain ⟨pkthMsgq, hhandle, hqueue⟩ := h.accepts (by omega) data
      simp only [hhandle, bind, bind_ok, RouterRun.handedOver_of_accepted hhandle]
      have hrest : (run.accepted ++ [data]).length + (rest.filterMap BleCall.packet).length ≤
          packetQueueSize := by
        rw [List.length_append, List.length_singleton]
        omega
      obtain ⟨pkthMsgq, asked, hfollow, hlast⟩ := @ih _ { run with
        sys := { run.sys with pkth := { run.sys.pkth with pkthMsgq } }
        accepted := run.accepted ++ [data] } hqueue hrest
      rw [List.append_assoc, List.singleton_append] at hfollow hlast
      rw [List.append_assoc] at hlast
      exact ⟨pkthMsgq, asked, hfollow, hlast⟩

/-- Without slots for all of them, one is written behind the buffer. -/
theorem QueueInvariant.follow_overruns {run : RouterRun} {calls : List BleCall}
    (h : QueueInvariant ⟨run.sys.pkth, run.accepted, run.handled⟩ queued)
    (hfull : packetQueueSize < run.accepted.length + (calls.filterMap BleCall.packet).length) :
    run.follow calls = .error .outOfBounds := by
  induction calls generalizing run queued with
  | nil => exact absurd hfull (not_lt.mpr h.bounded)
  | cons call rest ih =>
    unfold RouterRun.follow
    cases hpacket : call.packet with
    | none =>
      simp only [List.filterMap_cons, hpacket] at hfull ⊢
      exact @ih _ { run with asked := run.asked ++ [call] } h hfull
    | some data =>
      simp only [List.filterMap_cons, hpacket, List.length_cons] at hfull ⊢
      by_cases hroom : run.accepted.length < packetQueueSize
      · obtain ⟨pkthMsgq, hhandle, hqueue⟩ := h.accepts hroom data
        simp only [hhandle, bind, bind_ok, RouterRun.handedOver_of_accepted hhandle]
        refine @ih _ { run with
          sys := { run.sys with pkth := { run.sys.pkth with pkthMsgq } }
          accepted := run.accepted ++ [data] } hqueue ?_
        rw [List.length_append, List.length_singleton]
        omega
      · rw [h.overruns hroom data]
        rfl

/-! ## Transports -/

section Transports

variable {sys : System} {slot : Slot} {rest : List Slot} (lock : ℕ)

/-- The system behind a transport, which changes nothing in its handler but the lock. -/
def System.behindWork (sys : System) (slot : Slot) (lock : ℕ) : System :=
  sys.runWork.modify slot fun handler ↦ { handler with workLock := lock }

theorem System.result_behindWork (sys : System) (slot : Slot) (lock : ℕ) (other : Slot) :
    ((sys.behindWork slot lock).handler other).result = (sys.handler other).result := by
  obtain ⟨queued, hrun⟩ := sys.handler_runWork other
  rw [behindWork, System.handler_modify]
  split_ifs with hother
  · rw [← hother, hrun]
  · rw [hrun]

theorem System.msg_behindWork (sys : System) (slot : Slot) (lock : ℕ) (other : Slot) :
    ((sys.behindWork slot lock).handler other).msg = (sys.handler other).msg := by
  obtain ⟨queued, hrun⟩ := sys.handler_runWork other
  rw [behindWork, System.handler_modify]
  split_ifs with hother
  · rw [← hother, hrun]
  · rw [hrun]

theorem System.workq_behindWork (hworkq : sys.workq = slot :: rest) :
    (sys.behindWork slot lock).workq = rest := by
  rw [behindWork, workq_modify, runWork, hworkq]
  rfl

theorem QueueInvariant.behindWork {accepted handled queued : List PacketData}
    (h : QueueInvariant ⟨sys.pkth, accepted, handled⟩ queued) (slot : Slot) :
    QueueInvariant ⟨(sys.behindWork slot lock).pkth, accepted, handled⟩ queued := by
  unfold System.behindWork System.runWork
  split
  · exact h.of_registry rfl rfl rfl
  · exact h.of_registry rfl rfl rfl

end Transports

end CrownstoneRouter
