import CrownstoneRouter.PacketHandling.Encoding

/-!
# Work that is pending while handlers are unregistered

The work queue refers to handlers by their slots, and unregistering moves handlers between slots and
leaves the queue alone. A work item runs with the target, the callback and the message that its
packet was dispatched to as long as no handler is removed, or overwritten by a removal, whose work
item is queued, and as long as no packet is dispatched to what a removal has left behind.
-/

namespace CrownstoneRouter

open CheckedMemory CheckedRun

variable (crc16_ccitt : UInt16 → List UInt8 → UInt16)

/-! ## Runs with removals -/

/-- What a packet has been dispatched to. -/
structure DispatchedTo where
  destId : InstanceId
  targetInst : Address
  cb : Address
  message : List UInt8
  deriving DecidableEq

/-- The destination id that a packet names. -/
def destinationId (data : PacketData) : InstanceId :=
  match data.type with
  | .incoming => (incomingControl data).destId
  | .outgoing => data.destId

/-- What the packet thread and the work queue do, and removals by any thread. -/
inductive RegistryActivity
  | packet (data : PacketData)
  | work
  | unregister (instId : InstanceId)
  deriving DecidableEq

/-- A system, the last packet that has been dispatched through every slot, and the ids that have been
unregistered. -/
structure RemovalRun where
  sys : System
  pending : Slot → Option DispatchedTo
  unregistered : List InstanceId

namespace RemovalRun

/-- A system in which nothing has been dispatched. -/
def start (pkth : PacketHandler) : RemovalRun where
  sys := .boot pkth
  pending _ := none
  unregistered := []

/-- What a packet is dispatched to when the handler in a slot takes it. -/
def dispatchedTo (sys : System) (data : PacketData) (slot : Slot) : DispatchedTo where
  destId := destinationId data
  targetInst := (sys.handler slot).targetInst
  cb := (sys.handler slot).workItem.handler
  message := dispatchedPacket crc16_ccitt sys data

/-- The last packets dispatched through every slot after another packet. -/
def pendingAfter (run : RemovalRun) (data : PacketData) : Slot → Option DispatchedTo :=
  match dispatchTarget run.sys data with
  | none => run.pending
  | some slot =>
      Function.update run.pending slot (some (dispatchedTo crc16_ccitt run.sys data slot))

/-- One step. -/
def step (run : RemovalRun) : RegistryActivity → Checked RemovalRun
  | .packet data => do
      let sys ← handlePacketData crc16_ccitt run.sys data
      return { run with sys := sys, pending := run.pendingAfter crc16_ccitt data }
  | .work => .ok { run with sys := run.sys.runWork }
  | .unregister instId => do
      let (ret, pkth) ← run.sys.pkth.unregisterHandler instId
      return { run with
        sys := { run.sys with pkth := pkth }
        unregistered := if ret = .ok then instId :: run.unregistered else run.unregistered }

/-- A handler is what a packet has been dispatched to, and it has not been unregistered. -/
structure Serves (handler : Handler) (unregistered : List InstanceId)
    (packet : DispatchedTo) : Prop where
  id : handler.id = packet.destId
  targetInst : handler.targetInst = packet.targetInst
  cb : handler.workItem.handler = packet.cb
  message : handler.msg.contents = packet.message
  registered : packet.destId ∉ unregistered

instance (handler : Handler) (unregistered : List InstanceId) (packet : DispatchedTo) :
    Decidable (Serves handler unregistered packet) :=
  decidable_of_iff (handler.id = packet.destId ∧ handler.targetInst = packet.targetInst ∧
      handler.workItem.handler = packet.cb ∧ handler.msg.contents = packet.message ∧
      packet.destId ∉ unregistered)
    ⟨fun ⟨hid, htarget, hcb, hmessage, hregistered⟩ ↦ ⟨hid, htarget, hcb, hmessage, hregistered⟩,
      fun h ↦ ⟨h.id, h.targetInst, h.cb, h.message, h.registered⟩⟩

/-- A packet has been dispatched through a slot, and the handler there serves it. -/
def ServesPending (run : RemovalRun) (slot : Slot) : Prop :=
  (run.pending slot).any fun packet ↦ Serves (run.sys.handler slot) run.unregistered packet

instance (run : RemovalRun) (slot : Slot) : Decidable (run.ServesPending slot) :=
  inferInstanceAs (Decidable (_ = _))

/-- A work item that runs serves the packet that has been dispatched through its slot. -/
def Lawful (run : RemovalRun) : RegistryActivity → Prop
  | .work => ∀ slot, run.sys.workq.head? = some slot → run.ServesPending slot
  | .packet _ | .unregister _ => True

instance (run : RemovalRun) : ∀ activity, Decidable (run.Lawful activity)
  | .work => inferInstanceAs (Decidable (∀ _ : Slot, _ → _))
  | .packet _ | .unregister _ => inferInstanceAs (Decidable True)

/-- No work item is queued of a handler that a removal removes or overwrites, and no packet is
dispatched to an id that has been unregistered. -/
def Settled (run : RemovalRun) : RegistryActivity → Prop
  | .packet data => ∀ slot, dispatchTarget run.sys data = some slot →
      destinationId data ∉ run.unregistered
  | .work => True
  | .unregister instId => ∀ slot, run.sys.pkth.findSlot instId = some slot →
      slot ∉ run.sys.workq ∧ ∀ before : Slot, slot.val = before.val + 1 →
        slot.val + 1 < run.sys.pkth.handlerCtr → before ∉ run.sys.workq

instance (run : RemovalRun) : ∀ activity, Decidable (run.Settled activity)
  | .packet _ => inferInstanceAs (Decidable (∀ _ : Slot, _ → _))
  | .work => inferInstanceAs (Decidable True)
  | .unregister _ => inferInstanceAs (Decidable (∀ _ : Slot, _ → _ ∧ ∀ _ : Slot, _ → _ → _))

variable {crc16_ccitt} {run next : RemovalRun} {registered : ℕ}

/-- The invariant of a run in which `registered` slots have been in use at the beginning: every
queued work item serves its packet, and two slots carry one id only if it has been unregistered. -/
structure Intact (registered : ℕ) (run : RemovalRun) : Prop where
  ctr_le : run.sys.pkth.handlerCtr ≤ registered
  distinct : ∀ {left right : Slot}, left.val < registered → right.val < registered →
    (run.sys.handler left).id = (run.sys.handler right).id →
    left = right ∨ (run.sys.handler left).id ∈ run.unregistered
  used : ∀ slot ∈ run.sys.workq, slot.val < registered
  serves : ∀ slot ∈ run.sys.workq, ∃ packet, run.pending slot = some packet ∧
    Serves (run.sys.handler slot) run.unregistered packet

theorem Intact.servesPending (h : Intact registered run) {slot : Slot}
    (hslot : slot ∈ run.sys.workq) : run.ServesPending slot := by
  obtain ⟨packet, hpacket, hserves⟩ := h.serves slot hslot
  simp [ServesPending, hpacket, hserves]

theorem intact_start {pkth : PacketHandler} (hdistinct : pkth.IdsDistinct) :
    Intact pkth.handlerCtr (start pkth) where
  ctr_le := le_rfl
  distinct hleft hright hid := .inl (hdistinct hleft hright hid)
  used slot hslot := by cases hslot
  serves slot hslot := by cases hslot

/-- The target of a packet carries the id that the packet names. -/
theorem id_of_dispatchTarget {sys : System} {data : PacketData} {slot : Slot}
    (h : dispatchTarget sys data = some slot) :
    slot.val < sys.pkth.handlerCtr ∧ (sys.handler slot).id = destinationId data := by
  unfold dispatchTarget at h
  unfold destinationId
  cases htype : data.type with
  | incoming =>
    simp only [htype] at h
    split_ifs at h
    exact PacketHandler.getHandler_spec h
  | outgoing =>
    simp only [htype] at h
    exact PacketHandler.getHandler_spec h

theorem Serves.congr {handler other : Handler} {unregistered : List InstanceId}
    {packet : DispatchedTo} (h : Serves handler unregistered packet) (hid : other.id = handler.id)
    (htarget : other.targetInst = handler.targetInst)
    (hcb : other.workItem.handler = handler.workItem.handler)
    (hmsg : other.msg = handler.msg) : Serves other unregistered packet where
  id := hid.trans h.id
  targetInst := htarget.trans h.targetInst
  cb := hcb.trans h.cb
  message := by rw [hmsg, h.message]
  registered := h.registered

/-- A dispatch leaves the target serving the new packet, and every other handler its own. -/
theorem Intact.packet (h : Intact registered run) {data : PacketData}
    (hsettled : run.Settled (.packet data)) (hstep : run.step crc16_ccitt (.packet data) = .ok next) :
    Intact registered next := by
  obtain ⟨sys, hhandle, hnext⟩ := bind_eq_ok.mp hstep
  cases hnext
  rcases handlePacketData_dispatched crc16_ccitt hhandle with
    ⟨htarget, rfl⟩ | ⟨slot, requests, htarget, hdispatched⟩
  · have hpending : run.pendingAfter crc16_ccitt data = run.pending := by
      simp only [pendingAfter, htarget]
    rw [hpending]
    exact h
  · obtain ⟨hslot, hid⟩ := id_of_dispatchTarget htarget
    have hpending : run.pendingAfter crc16_ccitt data =
        Function.update run.pending slot (some (dispatchedTo crc16_ccitt run.sys data slot)) := by
      simp only [pendingAfter, htarget]
    have hctr : sys.pkth.handlerCtr = run.sys.pkth.handlerCtr := by rw [hdispatched.registry]
    refine ⟨hctr.trans_le h.ctr_le, ?_, fun other hother ↦ ?_, fun other hother ↦ ?_⟩
    · intro left right hleft hright heq
      have hdistinct := h.distinct hleft hright
      rw [← (hdispatched.keeps left).1, ← (hdispatched.keeps right).1] at hdistinct
      exact hdistinct heq
    · rcases hdispatched.mem_workq hother with hqueued | rfl
      · exact h.used other hqueued
      · exact hslot.trans_le h.ctr_le
    · obtain ⟨hkeepsId, hkeepsTarget, hkeepsCb⟩ := hdispatched.keeps other
      simp only [hpending]
      by_cases heq : other = slot
      · subst heq
        refine ⟨dispatchedTo crc16_ccitt run.sys data other, Function.update_self _ _ _, ?_⟩
        exact ⟨hkeepsId.trans hid, hkeepsTarget, hkeepsCb, hdispatched.contents,
          hsettled other htarget⟩
      · have hqueued : other ∈ run.sys.workq :=
          (hdispatched.mem_workq hother).resolve_right heq
        obtain ⟨packet, hpacket, hserves⟩ := h.serves other hqueued
        refine ⟨packet, by rwa [Function.update_of_ne heq], ?_⟩
        exact hserves.congr hkeepsId hkeepsTarget hkeepsCb (by rw [hdispatched.others other heq])

/-- A work item that runs leaves every handler as it was, but for the flag of the item. -/
theorem Intact.work (h : Intact registered run) :
    Intact registered { run with sys := run.sys.runWork } := by
  have hqueued {slot : Slot} (hslot : slot ∈ run.sys.runWork.workq) : slot ∈ run.sys.workq := by
    unfold System.runWork at hslot
    cases hworkq : run.sys.workq with
    | nil => simp [hworkq] at hslot
    | cons first rest =>
      simp only [hworkq, System.workq_modify] at hslot
      exact List.mem_cons_of_mem first hslot
  refine ⟨?_, ?_, fun slot hslot ↦ h.used slot (hqueued hslot), fun slot hslot ↦ ?_⟩
  · rw [System.handlerCtr_runWork]
    exact h.ctr_le
  · intro left right hleft hright heq
    obtain ⟨flag, hleftSame⟩ := run.sys.handler_runWork left
    obtain ⟨other, hrightSame⟩ := run.sys.handler_runWork right
    simp only [hleftSame, hrightSame] at heq ⊢
    exact h.distinct hleft hright heq
  · obtain ⟨packet, hpacket, hserves⟩ := h.serves slot (hqueued hslot)
    obtain ⟨flag, hsame⟩ := run.sys.handler_runWork slot
    refine ⟨packet, hpacket, ?_⟩
    rw [hsame]
    exact hserves.congr rfl rfl rfl rfl

/-- An id whose work item is not queued may be unregistered: no queued item serves a packet for
it. -/
theorem Intact.serves_of_unregistered (h : Intact registered run) {instId : InstanceId}
    {slot other : Slot} (hfound : run.sys.pkth.findSlot instId = some slot)
    (hslot : slot ∉ run.sys.workq) (hother : other ∈ run.sys.workq) :
    ∃ packet, run.pending other = some packet ∧
      Serves (run.sys.handler other) (instId :: run.unregistered) packet := by
  obtain ⟨packet, hpacket, hserves⟩ := h.serves other hother
  obtain ⟨hused, hid⟩ := PacketHandler.findSlot_spec hfound
  refine ⟨packet, hpacket, hserves.id, hserves.targetInst, hserves.cb, hserves.message, ?_⟩
  rw [List.mem_cons, not_or]
  refine ⟨fun heq ↦ ?_, hserves.registered⟩
  have hsame : (run.sys.handler other).id = (run.sys.handler slot).id :=
    hserves.id.trans (heq.trans hid.symm)
  rcases h.distinct (h.used other hother) (hused.trans_le h.ctr_le) hsame with rfl | hgone
  · exact hslot hother
  · exact hserves.registered (hserves.id ▸ hgone)

/-- After the handler of an unregistered id has been copied to the slot before it, two slots carry
one id only if it has been unregistered. -/
theorem Intact.distinct_of_copy (h : Intact registered run) {instId : InstanceId}
    {slot before left right : Slot} (hfound : run.sys.pkth.findSlot instId = some slot)
    (hleft : left.val < registered) (hright : right.val < registered)
    (heq : (run.sys.handler (if left = before then slot else left)).id =
      (run.sys.handler (if right = before then slot else right)).id) :
    left = right ∨
      (run.sys.handler (if left = before then slot else left)).id ∈ instId :: run.unregistered := by
  obtain ⟨hused, hid⟩ := PacketHandler.findSlot_spec hfound
  have hbound {other : Slot} (hother : other.val < registered) :
      (if other = before then slot else other).val < registered := by
    split_ifs
    · exact hused.trans_le h.ctr_le
    · exact hother
  rcases h.distinct (hbound hleft) (hbound hright) heq with hsame | hgone
  · by_cases hmoved : left = before ∨ right = before
    · have hsource : (if left = before then slot else left) = slot := by
        rcases hmoved with hleftMoved | hrightMoved
        · exact if_pos hleftMoved
        · exact hsame.trans (if_pos hrightMoved)
      rw [hsource]
      exact .inr (List.mem_cons.mpr (.inl hid))
    · rw [not_or] at hmoved
      rw [if_neg hmoved.1, if_neg hmoved.2] at hsame
      exact .inl hsame
  · exact .inr (List.mem_cons_of_mem instId hgone)

theorem Intact.unregister (h : Intact registered run) {instId : InstanceId}
    (hsettled : run.Settled (.unregister instId))
    (hstep : run.step crc16_ccitt (.unregister instId) = .ok next) : Intact registered next := by
  obtain ⟨⟨ret, pkth⟩, hremove, hnext⟩ := bind_eq_ok.mp hstep
  cases hnext
  rcases PacketHandler.unregisterHandler_cases hremove with
    ⟨hret, rfl⟩ | ⟨slot, rfl, hfound, ⟨hlast, rfl⟩ | ⟨before, hbefore, hmore, rfl⟩⟩
  · rw [if_neg hret]
    exact h
  · rw [if_pos rfl]
    obtain ⟨hslot, -⟩ := hsettled slot hfound
    refine ⟨(Nat.sub_le _ _).trans h.ctr_le, ?_, h.used, ?_⟩
    · intro left right hleft hright heq
      exact (h.distinct hleft hright heq).imp_right (List.mem_cons_of_mem instId)
    · exact fun other hother ↦ h.serves_of_unregistered hfound hslot hother
  · rw [if_pos rfl]
    obtain ⟨hslot, hover⟩ := hsettled slot hfound
    -- The handler in a slot after the removal is one from before, from the next slot in one case.
    have hhandler (other : Slot) : Function.update run.sys.pkth.handlers before
        (run.sys.pkth.handlers slot) other =
          run.sys.handler (if other = before then slot else other) := by
      rw [Function.update_apply]
      split_ifs <;> rfl
    refine ⟨(Nat.sub_le _ _).trans h.ctr_le, fun {left right} hleft hright heq ↦ ?_, h.used,
      fun other hother ↦ ?_⟩
    · simp only [System.handler, PacketHandler.shrink, hhandler] at heq ⊢
      exact h.distinct_of_copy hfound hleft hright heq
    · obtain ⟨packet, hpacket, hserves⟩ := h.serves_of_unregistered hfound hslot hother
      have hne : other ≠ before := fun heq ↦ hover before hbefore hmore (heq ▸ hother)
      refine ⟨packet, hpacket, ?_⟩
      simp only [System.handler, PacketHandler.shrink, hhandler, if_neg hne]
      exact hserves

theorem Intact.step {activity : RegistryActivity} (h : Intact registered run)
    (hsettled : run.Settled activity) (hstep : run.step crc16_ccitt activity = .ok next) :
    Intact registered next := by
  cases activity with
  | packet data => exact h.packet hsettled hstep
  | work =>
    cases hstep
    exact h.work
  | unregister instId => exact h.unregister hsettled hstep

theorem Intact.lawful (h : Intact registered run) (activity : RegistryActivity) :
    run.Lawful activity := by
  cases activity with
  | packet data => trivial
  | work => exact fun slot hslot ↦ h.servesPending (List.mem_of_mem_head? hslot)
  | unregister instId => trivial

end RemovalRun

end CrownstoneRouter
