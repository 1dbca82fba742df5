import CrownstoneRouter.Foundation.Transition
import CrownstoneRouter.PacketHandling.Dispatch

/-!
# From dispatch to transport

The packet thread dispatches packets into the mailboxes of handlers, and the system work queue runs
the work items of handlers, whose callbacks read the mailboxes. Any interleaving of the two is a run
of single-slot mailboxes behind a work queue, so that a packet is lost exactly when a packet is
dispatched to a handler whose work item is still queued.
-/

namespace CrownstoneRouter

open CheckedMemory CheckedRun

variable (crc16_ccitt : UInt16 → List UInt8 → UInt16)

namespace System

/-- The mailboxes that the handlers implement. -/
def mailbox (sys : System) : Mailbox.State Slot (List UInt8) where
  content slot := (sys.handler slot).msg.contents
  queue := sys.workq
  history := sys.trace

/-- The work queue holds work items of registered handlers, and their flags agree with it. -/
structure Consistent (sys : System) : Prop where
  used : ∀ slot ∈ sys.workq, slot.val < sys.pkth.handlerCtr
  nodup : sys.workq.Nodup
  queued_iff : ∀ slot : Slot, slot.val < sys.pkth.handlerCtr →
    ((sys.handler slot).workItem.queued = true ↔ slot ∈ sys.workq)

section

variable {sys : System} {slot : Slot} (change : Handler → Handler)

@[simp]
theorem handlerCtr_modify : (sys.modify slot change).pkth.handlerCtr = sys.pkth.handlerCtr := rfl

@[simp]
theorem handlerCtr_kWorkSubmit : (sys.kWorkSubmit slot).pkth.handlerCtr = sys.pkth.handlerCtr := by
  unfold kWorkSubmit
  split_ifs <;> rfl

@[simp]
theorem pkthMsgq_runWork : sys.runWork.pkth.pkthMsgq = sys.pkth.pkthMsgq := by
  unfold runWork
  split <;> rfl

@[simp]
theorem handlerCtr_runWork : sys.runWork.pkth.handlerCtr = sys.pkth.handlerCtr := by
  unfold runWork
  split <;> rfl

theorem workq_kWorkSubmit : (sys.kWorkSubmit slot).workq =
    if (sys.handler slot).workItem.queued then sys.workq else sys.workq ++ [slot] := by
  unfold kWorkSubmit
  split_ifs <;> rfl

variable (slot) in
theorem Consistent.modify (h : sys.Consistent)
    (hwork : ∀ handler, (change handler).workItem = handler.workItem) :
    (sys.modify slot change).Consistent where
  used := h.used
  nodup := h.nodup
  queued_iff other hother := by
    rw [handler_modify, workq_modify, ← h.queued_iff other hother]
    split_ifs with heq
    · rw [hwork, heq]
    · rfl

variable (sys slot) in
theorem mailbox_modify (hmsg : ∀ handler, (change handler).msg = handler.msg) :
    (sys.modify slot change).mailbox = sys.mailbox := by
  have hcontent (other : Slot) : ((sys.modify slot change).handler other).msg =
      (sys.handler other).msg := by
    rw [handler_modify]
    split_ifs with heq
    · rw [hmsg, heq]
    · rfl
  simp [mailbox, hcontent]

/-- A dispatch to a registered handler is a dispatch to its mailbox. -/
theorem mailbox_deliver (h : sys.Consistent) (hused : slot.val < sys.pkth.handlerCtr)
    (hwork : ∀ handler, (change handler).workItem = handler.workItem) :
    (sys.deliver slot change).mailbox =
      Mailbox.dispatch sys.mailbox slot (change (sys.handler slot)).msg.contents := by
  have hqueued := h.queued_iff slot hused
  have hcontent : (fun other ↦ ((sys.deliver slot change).handler other).msg.contents) =
      Function.update (fun other ↦ (sys.handler other).msg.contents) slot
        (change (sys.handler slot)).msg.contents := by
    funext other
    rw [handler_deliver, Function.update_apply]
    split_ifs <;> rfl
  have hworkq : (sys.deliver slot change).workq =
      if slot ∈ sys.workq then sys.workq else sys.workq ++ [slot] := by
    simp only [deliver, workq_kWorkSubmit, handler_modify_self, hwork, hqueued, workq_modify]
  simp only [mailbox, Mailbox.dispatch, hcontent, hworkq, trace_deliver]
  congr

theorem Consistent.deliver (h : sys.Consistent) (hused : slot.val < sys.pkth.handlerCtr)
    (hwork : ∀ handler, (change handler).workItem = handler.workItem) :
    (sys.deliver slot change).Consistent := by
  have hqueue : (sys.deliver slot change).workq =
      if slot ∈ sys.workq then sys.workq else sys.workq ++ [slot] :=
    congrArg Mailbox.State.queue (mailbox_deliver change h hused hwork)
  have hctr : (sys.deliver slot change).pkth.handlerCtr = sys.pkth.handlerCtr := by
    simp [System.deliver]
  refine ⟨fun other hother ↦ ?_, ?_, fun other hother ↦ ?_⟩
  · rw [hctr]
    rw [hqueue] at hother
    split_ifs at hother with hmem
    · exact h.used other hother
    · rcases List.mem_append.mp hother with hother | hother
      · exact h.used other hother
      · rwa [List.mem_singleton.mp hother]
  · have hnodup := Mailbox.nodup_dispatch (show sys.mailbox.queue.Nodup from h.nodup) slot
      (change (sys.handler slot)).msg.contents
    rwa [← mailbox_deliver change h hused hwork] at hnodup
  · rw [hctr] at hother
    rw [handler_deliver, hqueue]
    by_cases heq : other = slot
    · subst heq
      simp only [if_true, true_iff]
      split_ifs with hmem
      · exact hmem
      · simp
    · rw [if_neg heq, h.queued_iff other hother]
      split_ifs <;> simp [heq]

variable (sys) in
/-- A run of a work item changes nothing in a handler but the flag of the item. -/
theorem handler_runWork (other : Slot) :
    ∃ queued, sys.runWork.handler other =
      { sys.handler other with workItem := { (sys.handler other).workItem with queued } } := by
  unfold runWork
  cases sys.workq with
  | nil => exact ⟨(sys.handler other).workItem.queued, rfl⟩
  | cons slot rest =>
    by_cases heq : other = slot
    · subst heq
      exact ⟨false, handler_modify_self _ _ _⟩
    · refine ⟨(sys.handler other).workItem.queued, ?_⟩
      rw [handler_modify, if_neg heq]
      rfl

theorem getHandler_runWork (instId : InstanceId) :
    sys.runWork.pkth.getHandler instId = sys.pkth.getHandler instId := by
  unfold runWork
  cases sys.workq with
  | nil => rfl
  | cons slot rest =>
    rw [getHandler_modify]
    exact fun _ ↦ rfl

/-- A run of a work item is a reading of its mailbox. -/
theorem mailbox_runWork : sys.runWork.mailbox = Mailbox.work sys.mailbox := by
  unfold runWork Mailbox.work
  cases hworkq : sys.workq with
  | nil => simp [mailbox, hworkq]
  | cons slot rest =>
    simp only [mailbox, hworkq]
    congr 1
    funext other
    rw [handler_modify]
    split_ifs with heq
    · rw [heq]
      rfl
    · rfl

theorem Consistent.runWork (h : sys.Consistent) : sys.runWork.Consistent := by
  unfold System.runWork
  cases hworkq : sys.workq with
  | nil => exact h
  | cons slot rest =>
    have hnodup := h.nodup
    rw [hworkq] at hnodup
    have hslot : slot ∉ rest := (List.nodup_cons.mp hnodup).1
    refine ⟨fun other hother ↦ ?_, hnodup.of_cons, fun other hother ↦ ?_⟩
    · exact h.used other (by simp [hworkq, show other ∈ rest from hother])
    · rw [handler_modify, workq_modify]
      by_cases heq : other = slot
      · subst heq
        simpa using hslot
      · rw [if_neg heq]
        have hqueued := h.queued_iff other hother
        rw [hworkq, List.mem_cons, or_iff_right heq] at hqueued
        exact hqueued

end

end System

/-! ## Runs of the packet thread and the work queue -/

/-- What the two actors do. -/
inductive Activity
  | packet (data : PacketData)
  | work
  deriving DecidableEq

/-- One step of the packet thread or of the work queue. -/
def deliveryStep (sys : System) : Activity → Checked System
  | .packet data => handlePacketData crc16_ccitt sys data
  | .work => .ok sys.runWork

/-- The packet that is dispatched for a message. -/
def dispatchedPacket (sys : System) (data : PacketData) : List UInt8 :=
  match data.type with
  | .incoming => controlPayload data
  | .outgoing =>
      match sys.pkth.getHandler data.srcId with
      | none => []
      | some source => outgoingPacket crc16_ccitt (sys.handler source).result data

/-- What a step is on the mailboxes. -/
def mailboxStep (sys : System) : Activity → Mailbox.State Slot (List UInt8)
  | .packet data =>
      match dispatchTarget sys data with
      | none => sys.mailbox
      | some slot => Mailbox.dispatch sys.mailbox slot (dispatchedPacket crc16_ccitt sys data)
  | .work => Mailbox.work sys.mailbox

/-- Every step is a step of the mailboxes and keeps the flags consistent. -/
theorem deliveryStep_refines {sys next : System} {activity : Activity} (h : sys.Consistent)
    (hstep : deliveryStep crc16_ccitt sys activity = .ok next) :
    next.Consistent ∧ next.pkth.handlerCtr = sys.pkth.handlerCtr ∧
      next.mailbox = mailboxStep crc16_ccitt sys activity := by
  cases activity with
  | work =>
    cases hstep
    exact ⟨h.runWork, System.handlerCtr_runWork, System.mailbox_runWork⟩
  | packet data =>
    obtain ⟨htype, -, hcontrol, rfl⟩ | ⟨slot, htype, -, hcontrol, hslot, hend, rfl⟩ |
      ⟨source, slot, htype, hsource, hslot, hfits, rfl⟩ := handlePacketData_cases crc16_ccitt hstep
    · refine ⟨h, rfl, ?_⟩
      simp [mailboxStep, dispatchTarget, htype, hcontrol]
    · have hused := (PacketHandler.getHandler_spec hslot).1
      have hmailbox := System.mailbox_deliver (acceptCommand data) h hused fun _ ↦ rfl
      refine ⟨h.deliver (acceptCommand data) hused fun _ ↦ rfl, by simp [System.deliver], ?_⟩
      rw [hmailbox, contents_acceptCommand hend]
      simp [mailboxStep, dispatchTarget, dispatchedPacket, htype, hcontrol, hslot]
    · have hused := (PacketHandler.getHandler_spec hslot).1
      have hanswered := sys.mailbox_modify source Handler.answered fun _ ↦ rfl
      have hsys := h.modify source Handler.answered fun _ ↦ rfl
      have hmailbox := System.mailbox_deliver
        (acceptPacket (outgoingPacket crc16_ccitt (sys.handler source).result data)) hsys hused
        fun _ ↦ rfl
      refine ⟨hsys.deliver _ hused fun _ ↦ rfl, by simp [System.deliver], ?_⟩
      rw [hmailbox, contents_acceptPacket hfits.2, hanswered]
      simp [mailboxStep, dispatchTarget, dispatchedPacket, htype, hsource, hslot]

/-- Nothing has been dispatched yet, and no work item is queued. -/
structure Started (sys : System) : Prop where
  workq : sys.workq = []
  trace : sys.trace = []
  idle : ∀ slot : Slot, slot.val < sys.pkth.handlerCtr →
    (sys.handler slot).workItem.queued = false

/-- For every registered handler the packets dispatched to it are, in order, those that its
transport callback has read, followed by the one in its mailbox if its work item is still queued. -/
def AllDelivered (sys : System) : Prop :=
  ∀ slot : Slot, slot.val < sys.pkth.handlerCtr →
    Mailbox.dispatched sys.trace slot = Mailbox.delivered sys.trace slot ++
      if slot ∈ sys.workq then [(sys.handler slot).msg.contents] else []

/-- If the packet is dispatched to a given handler, then the work item of that handler is not
queued. -/
def IdleTarget (slot : Slot) (sys : System) : Activity → Prop
  | .packet data => dispatchTarget sys data = some slot → slot ∉ sys.workq
  | .work => True

/-- The handler that a packet is dispatched to is not queued. -/
def Idle (sys : System) (activity : Activity) : Prop :=
  ∀ slot, IdleTarget slot sys activity

instance (slot : Slot) (sys : System) : DecidablePred (IdleTarget slot sys)
  | .packet _ => inferInstanceAs (Decidable (_ → _))
  | .work => isTrue trivial

instance (sys : System) (activity : Activity) : Decidable (Idle sys activity) :=
  inferInstanceAs (Decidable (∀ _ : Slot, _))

section Runs

variable {crc16_ccitt} {sys next last : System} {activity : Activity} {activities : List Activity}

theorem started_boot {pkth : PacketHandler} (h : pkth.Fresh) : Started (.boot pkth) where
  workq := rfl
  trace := rfl
  idle slot hused := by
    obtain ⟨instId, inst, cb, hnew⟩ := h.used slot hused
    simp [System.handler, System.boot, hnew, PacketHandler.newHandler]

theorem Started.consistent (h : Started sys) : sys.Consistent where
  used := by simp [h.workq]
  nodup := by simp [h.workq]
  queued_iff slot hused := by simp [h.workq, h.idle slot hused]

/-- A step that finds its target idle loses nothing. -/
theorem lossless_step (h : sys.Consistent) (hlossless : Mailbox.Lossless sys.mailbox)
    (hidle : Idle sys activity) (hstep : deliveryStep crc16_ccitt sys activity = .ok next) :
    Mailbox.Lossless next.mailbox := by
  obtain ⟨-, -, hnext⟩ := deliveryStep_refines crc16_ccitt h hstep
  rw [hnext]
  cases activity with
  | work => exact hlossless.work
  | packet data =>
    cases htarget : dispatchTarget sys data with
    | none => simpa only [mailboxStep, htarget] using hlossless
    | some slot =>
      simp only [mailboxStep, htarget]
      exact hlossless.dispatch (hidle slot htarget) _

/-- The deficit of a handler never decreases, and it increases with every packet that finds its work
item queued. -/
theorem deficit_step (slot : Slot) (h : sys.Consistent)
    (hstep : deliveryStep crc16_ccitt sys activity = .ok next) :
    Mailbox.deficit sys.mailbox slot ≤ Mailbox.deficit next.mailbox slot ∧
      (¬ IdleTarget slot sys activity →
        Mailbox.deficit sys.mailbox slot < Mailbox.deficit next.mailbox slot) := by
  obtain ⟨-, -, hnext⟩ := deliveryStep_refines crc16_ccitt h hstep
  rw [hnext]
  cases activity with
  | work =>
    rw [mailboxStep, Mailbox.deficit_work h.nodup]
    exact ⟨le_rfl, fun hbusy ↦ absurd trivial hbusy⟩
  | packet data =>
    cases htarget : dispatchTarget sys data with
    | none => simp [mailboxStep, IdleTarget, htarget]
    | some target =>
      simp only [mailboxStep, htarget, Mailbox.deficit_dispatch, IdleTarget, Option.some.injEq]
      split_ifs with hbusy
      · omega
      · refine ⟨by omega, fun hqueued ↦ absurd ?_ hbusy⟩
        obtain ⟨rfl, hmem⟩ := Classical.not_imp.mp hqueued
        exact ⟨rfl, not_not.mp hmem⟩

/-- A registered handler lacks no packet if nothing was lost for it. -/
theorem deficit_of_allDelivered (h : AllDelivered sys) {slot : Slot}
    (hused : slot.val < sys.pkth.handlerCtr) : Mailbox.deficit sys.mailbox slot = 0 := by
  have hlength := congrArg List.length (h slot hused)
  by_cases hmem : slot ∈ sys.workq <;> simp [Mailbox.deficit, System.mailbox, hmem, hlength]

/-- A handler in an unused slot gets no packets. -/
theorem idleTarget_of_unused {slot : Slot} (hunused : ¬ slot.val < sys.pkth.handlerCtr) :
    IdleTarget slot sys activity := by
  cases activity with
  | work => trivial
  | packet data =>
    intro htarget
    refine absurd ?_ hunused
    unfold dispatchTarget at htarget
    split at htarget
    · split_ifs at htarget
      exact (PacketHandler.getHandler_spec htarget).1
    · exact (PacketHandler.getHandler_spec htarget).1

theorem consistent_step {handlerCtr : ℕ}
    (h : sys.Consistent ∧ sys.pkth.handlerCtr = handlerCtr)
    (hstep : deliveryStep crc16_ccitt sys activity = .ok next) :
    next.Consistent ∧ next.pkth.handlerCtr = handlerCtr := by
  obtain ⟨hnext, hctr, -⟩ := deliveryStep_refines crc16_ccitt h.1 hstep
  exact ⟨hnext, hctr.trans h.2⟩

/-- If nothing was lost, no packet was dispatched to a handler whose work item was queued. -/
theorem along_idle_of_allDelivered (hstart : Started sys)
    (hrun : run (deliveryStep crc16_ccitt) sys activities = .ok last)
    (hall : AllDelivered last) : Along (deliveryStep crc16_ccitt) Idle sys activities := by
  have hconsistent := hstart.consistent
  obtain ⟨-, hctr⟩ := run_invariant
    (fun state ↦ state.Consistent ∧ state.pkth.handlerCtr = sys.pkth.handlerCtr) consistent_step
    ⟨hconsistent, rfl⟩ hrun
  apply along_forall
  intro slot
  by_cases hused : slot.val < sys.pkth.handlerCtr
  · have hend : Mailbox.deficit last.mailbox slot = 0 :=
      deficit_of_allDelivered hall (hctr ▸ hused)
    have hzero : Mailbox.deficit sys.mailbox slot = 0 := by
      simp [Mailbox.deficit, System.mailbox, hstart.workq, hstart.trace, Mailbox.dispatched,
        Mailbox.delivered]
    exact along_of_potential (fun state ↦ Mailbox.deficit state.mailbox slot)
      (fun h _ hstep ↦ (deliveryStep_refines crc16_ccitt h hstep).1)
      (fun h _ hstep ↦ (deficit_step slot h hstep).1)
      (fun h _ hstep hbusy ↦ (deficit_step slot h hstep).2 hbusy)
      hconsistent along_true hrun (hend.trans hzero.symm).le
  · refine along_of_invariant (fun hstate ↦ ?_) consistent_step ⟨hconsistent, rfl⟩
    exact idleTarget_of_unused (hstate.2 ▸ hused)

/-- If no packet was dispatched to a handler whose work item was queued, nothing was lost. -/
theorem allDelivered_of_along_idle (hstart : Started sys)
    (hrun : run (deliveryStep crc16_ccitt) sys activities = .ok last)
    (hidle : Along (deliveryStep crc16_ccitt) Idle sys activities) : AllDelivered last := by
  have hlossless : Mailbox.Lossless sys.mailbox :=
    Mailbox.lossless_of_idle hstart.workq hstart.trace
  have hlast := run_invariant_along
    (fun state ↦ state.Consistent ∧ Mailbox.Lossless state.mailbox)
    (fun h hidle hstep ↦ ⟨(deliveryStep_refines crc16_ccitt h.1 hstep).1,
      lossless_step h.1 h.2 hidle hstep⟩) ⟨hstart.consistent, hlossless⟩ hidle hrun
  intro slot _
  have hdispatched := hlast.2.dispatched_eq slot
  rwa [hlast.2.waiting_eq] at hdispatched

end Runs

/-- After any interleaving of the packet thread and the work queue, every registered handler has
been given exactly the packets dispatched to it, in order and up to the one in the mailbox of a
queued work item, if and only if no packet was dispatched to a handler whose work item was
queued. -/
theorem allDelivered_iff {sys last : System} (hstart : Started sys) (activities : List Activity)
    (hrun : run (deliveryStep crc16_ccitt) sys activities = .ok last) :
    AllDelivered last ↔ Along (deliveryStep crc16_ccitt) Idle sys activities :=
  ⟨along_idle_of_allDelivered hstart hrun, allDelivered_of_along_idle hstart hrun⟩

/-- Two packets with a run of the work item between them are both delivered. -/
theorem allDelivered_of_alternating :
    ∃ last, run (deliveryStep zephyrCrc16Ccitt) (.boot (PacketHandler.routerRegistry []))
      [.packet (cloudControl 6 instanceIdUartRs485 0 [1]), .work,
        .packet (cloudControl 6 instanceIdUartRs485 0 [2])] = .ok last ∧ AllDelivered last := by
  have hstart := started_boot (PacketHandler.fresh_routerRegistry [])
  have hreturns : ∃ last, run (deliveryStep zephyrCrc16Ccitt)
      (.boot (PacketHandler.routerRegistry []))
      [.packet (cloudControl 6 instanceIdUartRs485 0 [1]), .work,
        .packet (cloudControl 6 instanceIdUartRs485 0 [2])] = .ok last := ⟨_, rfl⟩
  obtain ⟨last, hrun⟩ := hreturns
  exact ⟨last, hrun, (allDelivered_iff zephyrCrc16Ccitt hstart _ hrun).mpr (by decide +kernel)⟩

/-- Of two packets without a run of the work item between them only the second is delivered. -/
theorem second_dispatch_overwrites :
    ∃ last, run (deliveryStep zephyrCrc16Ccitt) (.boot (PacketHandler.routerRegistry []))
      [.packet (cloudControl 6 instanceIdUartRs485 0 [1]),
        .packet (cloudControl 6 instanceIdUartRs485 0 [2]), .work] = .ok last ∧
      Mailbox.dispatched last.trace 2 = [[1], [2]] ∧ Mailbox.delivered last.trace 2 = [[2]] ∧
      ¬ AllDelivered last :=
  ⟨_, rfl, by decide +kernel, by decide +kernel,
    fun hall ↦ absurd (hall 2 (by decide)) (by decide +kernel)⟩

end CrownstoneRouter
