import Mathlib.Data.List.Induction
import Mathlib.Data.List.Perm.Subperm
import CrownstoneRouter.Foundation.Transition
import CrownstoneRouter.PacketHandling.Registry

/-!
# The registry as a finite map

A run of registry calls is read in two ways. The history of calls and return codes says which
registration of an id is in force: the last successful call for the id, if that is a registration.
The registry says what a lookup finds. The two readings agree, and every call behaves as a map
operation, exactly along the runs whose removals take the handler in the last used slot.
-/

namespace CrownstoneRouter

open CheckedMemory CheckedRun

/-- A call of the registry interface. -/
inductive RegistryCall
  | register (instId : InstanceId) (inst cb : Address)
  | unregister (instId : InstanceId)
  deriving DecidableEq

def RegistryCall.instId : RegistryCall → InstanceId
  | .register instId _ _ => instId
  | .unregister instId => instId

def RegistryCall.apply (pkth : PacketHandler) : RegistryCall → Checked (RetCode × PacketHandler)
  | .register instId inst cb => pkth.registerHandler instId inst cb
  | .unregister instId => pkth.unregisterHandler instId

/-- A registry together with the calls made so far and what they returned. -/
structure RegistryRun where
  pkth : PacketHandler
  history : List (RegistryCall × RetCode)

def registryStep (run : RegistryRun) (call : RegistryCall) : Checked RegistryRun := do
  let (ret, pkth) ← call.apply run.pkth
  return { pkth, history := run.history ++ [(call, ret)] }

/-- The registration of an id that is in force: that of its last successful call. -/
def registrations (history : List (RegistryCall × RetCode)) (instId : InstanceId) :
    Option (Address × Address) :=
  history.foldl (fun known entry ↦
    match entry with
    | (.register id inst cb, ret) => if id = instId ∧ ret = .ok then some (inst, cb) else known
    | (.unregister id, ret) => if id = instId ∧ ret = .ok then none else known) none

section Registrations

variable (history : List (RegistryCall × RetCode)) (instId other : InstanceId) (inst cb : Address)
  (ret : RetCode)

@[simp]
theorem registrations_register :
    registrations (history ++ [(.register other inst cb, ret)]) instId =
      if other = instId ∧ ret = .ok then some (inst, cb) else registrations history instId := by
  simp [registrations]

@[simp]
theorem registrations_unregister :
    registrations (history ++ [(.unregister other, ret)]) instId =
      if other = instId ∧ ret = .ok then none else registrations history instId := by
  simp [registrations]

/-- An id with a registration in force has been the subject of a call. -/
theorem mem_history_of_registrations (h : registrations history instId ≠ none) :
    instId ∈ history.map fun entry ↦ entry.1.instId := by
  induction history using List.reverseRecOn with
  | nil => simp [registrations] at h
  | append_singleton history last ih =>
    obtain ⟨call, ret⟩ := last
    rw [List.map_append, List.mem_append]
    cases call with
    | register other inst cb =>
      by_cases hother : other = instId
      · exact .inr (by simp [RegistryCall.instId, hother])
      · exact .inl (ih (by simpa [hother] using h))
    | unregister other =>
      by_cases hother : other = instId
      · exact .inr (by simp [RegistryCall.instId, hother])
      · exact .inl (ih (by simpa [hother] using h))

end Registrations

/-- What a lookup of an id finds: the id, target and callback of the handler. -/
def PacketHandler.entry (pkth : PacketHandler) (instId : InstanceId) :
    Option (InstanceId × Address × Address) :=
  (pkth.getHandler instId).map fun slot ↦
    ((pkth.handlers slot).id, (pkth.handlers slot).targetInst,
      (pkth.handlers slot).workItem.handler)

/-- Every lookup finds exactly the registration in force. -/
def Mirrors (run : RegistryRun) : Prop :=
  ∀ instId, run.pkth.entry instId =
    (registrations run.history instId).map fun known ↦ (instId, known)

/-- The array of handlers and the counter are as before. -/
def Unchanged (before after : PacketHandler) : Prop :=
  after.handlers = before.handlers ∧ after.handlerCtr = before.handlerCtr

/-- What one call of a finite map does: calls on a present or an absent id that make no sense fail
and change nothing, and a removal leaves every other id alone. -/
def CallLaw (run : RegistryRun) (ret : RetCode) (after : PacketHandler) : RegistryCall → Prop
  | .register instId _ _ =>
      if registrations run.history instId = none then ret = .ok
      else ret = .handlerAlreadyRegistered ∧ Unchanged run.pkth after
  | .unregister instId =>
      if registrations run.history instId = none then
        ret = .handlerNotFound ∧ Unchanged run.pkth after
      else ret = .ok ∧ ∀ other ≠ instId, after.entry other = run.pkth.entry other

/-- The call returns, behaves as a map operation and leaves the two readings in agreement. -/
def BehavesAsMap (run : RegistryRun) (call : RegistryCall) : Prop :=
  ∃ ret pkth, call.apply run.pkth = .ok (ret, pkth) ∧ CallLaw run ret pkth call ∧
    Mirrors { pkth, history := run.history ++ [(call, ret)] }

/-- A new id is registered only while fewer than `CS_PACKET_HANDLERS` ids are. -/
def Room (run : RegistryRun) : RegistryCall → Prop
  | .register instId _ _ =>
      registrations run.history instId = none →
        ∀ ids : List InstanceId, ids.Nodup → (∀ id ∈ ids, registrations run.history id ≠ none) →
          ids.length < packetHandlers
  | .unregister _ => True

/-- A registered id is removed only from the last used slot. -/
def RemovesLast (run : RegistryRun) : RegistryCall → Prop
  | .register _ _ _ => True
  | .unregister instId =>
      ∀ slot, run.pkth.getHandler instId = some slot → slot.val + 1 = run.pkth.handlerCtr

instance (run : RegistryRun) : DecidablePred (RemovesLast run)
  | .register _ _ _ => isTrue trivial
  | .unregister _ => inferInstanceAs (Decidable (∀ _ : Slot, _ → _))

/-- The invariant of a run. -/
structure RegistryInvariant (run : RegistryRun) : Prop where
  initialized : run.pkth.initialized = true
  distinct : run.pkth.IdsDistinct
  mirrors : Mirrors run

section Entry

variable {pkth : PacketHandler} {instId : InstanceId} {slot : Slot}

theorem entry_of_findSlot (hinit : pkth.initialized = true)
    (hfound : pkth.findSlot instId = some slot) :
    pkth.entry instId = some (instId, (pkth.handlers slot).targetInst,
      (pkth.handlers slot).workItem.handler) := by
  have hid := (PacketHandler.findSlot_spec hfound).2
  simp [PacketHandler.entry, PacketHandler.getHandler_of_initialized hinit, hfound, hid]

@[simp]
theorem entry_lock (pkth : PacketHandler) (instId : InstanceId) :
    pkth.lock.entry instId = pkth.entry instId := rfl

theorem entry_eq_none (hinit : pkth.initialized = true) :
    pkth.entry instId = none ↔ pkth.findSlot instId = none := by
  simp [PacketHandler.entry, PacketHandler.getHandler_of_initialized hinit]

section Append

variable (hinit : pkth.initialized = true) (hdistinct : pkth.IdsDistinct)
  (hfree : pkth.handlerCtr < packetHandlers) (habsent : pkth.findSlot instId = none)
  (inst cb : Address)
include hinit hdistinct habsent

theorem entry_append_self :
    (pkth.append hfree (PacketHandler.newHandler instId inst cb)).entry instId =
      some (instId, inst, cb) := by
  have hself := PacketHandler.findSlot_append_self hdistinct hfree
    (show pkth.findSlot (PacketHandler.newHandler instId inst cb).id = none from habsent)
  have hentry := entry_of_findSlot
    (show (pkth.append hfree (PacketHandler.newHandler instId inst cb)).initialized = true
      from hinit) hself
  rwa [PacketHandler.handlers_append_self] at hentry

/-- A new registration leaves what is found for every other id. -/
theorem entry_append_of_ne {other : InstanceId} (hother : other ≠ instId) :
    (pkth.append hfree (PacketHandler.newHandler instId inst cb)).entry other =
      pkth.entry other := by
  have hkeep := PacketHandler.findSlot_append_of_ne hdistinct hfree
    (show pkth.findSlot (PacketHandler.newHandler instId inst cb).id = none from habsent) hother
  have hafter : (pkth.append hfree (PacketHandler.newHandler instId inst cb)).initialized = true :=
    hinit
  cases hslot : pkth.findSlot other with
  | none => rw [(entry_eq_none hafter).mpr (hkeep.trans hslot), (entry_eq_none hinit).mpr hslot]
  | some slot =>
    rw [entry_of_findSlot hafter (hkeep.trans hslot), entry_of_findSlot hinit hslot,
      PacketHandler.handlers_append_of_used hfree _ (PacketHandler.findSlot_spec hslot).1]

end Append

theorem entry_shrink_of_ne (hinit : pkth.initialized = true) (hdistinct : pkth.IdsDistinct)
    (hfound : pkth.findSlot instId = some slot) (hlast : slot.val + 1 = pkth.handlerCtr)
    {other : InstanceId} (hother : other ≠ instId) :
    (pkth.lock.shrink pkth.handlers).entry other = pkth.entry other := by
  have hafter : (pkth.lock.shrink pkth.handlers).initialized = true := hinit
  have hkeep := (PacketHandler.findSlot_shrink hdistinct hfound hlast other).trans (if_neg hother)
  simp only [PacketHandler.entry, PacketHandler.getHandler_of_initialized hafter,
    PacketHandler.getHandler_of_initialized hinit, hkeep]
  rfl

end Entry

theorem RegistryInvariant.registrations_eq_none {run : RegistryRun} (h : RegistryInvariant run)
    {instId : InstanceId} :
    registrations run.history instId = none ↔ run.pkth.findSlot instId = none := by
  rw [← entry_eq_none h.initialized, h.mirrors, Option.map_eq_none_iff]

def PacketHandler.usedIds (pkth : PacketHandler) : List InstanceId :=
  List.ofFn fun index : Fin pkth.handlerCtr ↦
    (pkth.handlers (index.castLE pkth.handlerCtr_le)).id

/-- Where there is room for another id there is a free slot. -/
theorem RegistryInvariant.lt_of_room {run : RegistryRun} (h : RegistryInvariant run)
    {instId : InstanceId} {inst cb : Address} (hroom : Room run (.register instId inst cb))
    (habsent : run.pkth.findSlot instId = none) : run.pkth.handlerCtr < packetHandlers := by
  have hnodup : run.pkth.usedIds.Nodup := by
    refine List.nodup_ofFn.mpr fun left right hid ↦ ?_
    have heq := h.distinct (by simp) (by simp) hid
    exact Fin.castLE_injective _ heq
  have hknown : ∀ id ∈ run.pkth.usedIds, registrations run.history id ≠ none := by
    intro id hmem
    obtain ⟨index, rfl⟩ := (List.mem_ofFn' _ _).mp hmem
    rw [Ne, h.registrations_eq_none, PacketHandler.findSlot_eq_none]
    intro hnone
    exact hnone _ (by simp) rfl
  simpa [PacketHandler.usedIds] using
    hroom (h.registrations_eq_none.mpr habsent) run.pkth.usedIds hnodup hknown

/-! ## One call -/

section Step

variable {run : RegistryRun} {instId : InstanceId} {inst cb : Address}

/-- A registration with room behaves as a map operation. -/
theorem register_behavesAsMap (h : RegistryInvariant run)
    (hroom : Room run (.register instId inst cb)) :
    ∃ ret pkth, RegistryCall.apply run.pkth (.register instId inst cb) = .ok (ret, pkth) ∧
      CallLaw run ret pkth (.register instId inst cb) ∧
      RegistryInvariant { pkth, history := run.history ++ [(.register instId inst cb, ret)] } := by
  cases hfound : run.pkth.findSlot instId with
  | some slot =>
    have hpresent : registrations run.history instId ≠ none := by
      rw [Ne, h.registrations_eq_none, hfound]
      simp
    refine ⟨_, _, PacketHandler.registerHandler_of_present h.initialized hfound, ?_, ?_⟩
    · simp only [CallLaw, if_neg hpresent]
      exact ⟨trivial, rfl, rfl⟩
    · refine ⟨h.initialized, h.distinct, fun other ↦ ?_⟩
      simpa [RetCode.handlerAlreadyRegistered, RetCode.ok] using h.mirrors other
  | none =>
    have habsent := h.registrations_eq_none.mpr hfound
    have hfree := h.lt_of_room hroom hfound
    have hnew : run.pkth.findSlot (PacketHandler.newHandler instId inst cb).id = none := hfound
    refine ⟨_, _, PacketHandler.registerHandler_of_absent h.initialized hfound hfree, ?_, ?_⟩
    · simp only [CallLaw, if_pos habsent]
    · refine ⟨h.initialized, h.distinct.append hfree hnew, fun other ↦ ?_⟩
      by_cases hother : other = instId
      · subst hother
        rw [entry_append_self h.initialized h.distinct hfree hfound]
        simp
      · rw [entry_append_of_ne h.initialized h.distinct hfree hfound inst cb hother]
        simpa [Ne.symm hother] using h.mirrors other

/-- A removal of an absent id or from the last used slot behaves as a map operation. -/
theorem unregister_behavesAsMap (h : RegistryInvariant run)
    (hlast : RemovesLast run (.unregister instId)) :
    ∃ ret pkth, RegistryCall.apply run.pkth (.unregister instId) = .ok (ret, pkth) ∧
      CallLaw run ret pkth (.unregister instId) ∧
      RegistryInvariant { pkth, history := run.history ++ [(.unregister instId, ret)] } := by
  cases hfound : run.pkth.findSlot instId with
  | none =>
    have habsent := h.registrations_eq_none.mpr hfound
    refine ⟨_, _, PacketHandler.unregisterHandler_of_absent h.initialized hfound, ?_, ?_⟩
    · simp only [CallLaw, if_pos habsent]
      exact ⟨trivial, rfl, rfl⟩
    · refine ⟨h.initialized, h.distinct, fun other ↦ ?_⟩
      simpa [RetCode.handlerNotFound, RetCode.ok] using h.mirrors other
  | some slot =>
    have hpresent : registrations run.history instId ≠ none := by
      rw [Ne, h.registrations_eq_none, hfound]
      simp
    have hslot := hlast slot (by rw [PacketHandler.getHandler_of_initialized h.initialized, hfound])
    have hinit : (run.pkth.lock.shrink run.pkth.handlers).initialized = true := h.initialized
    have hentry (other : InstanceId) (hother : other ≠ instId) :=
      entry_shrink_of_ne h.initialized h.distinct hfound hslot hother
    refine ⟨_, _, PacketHandler.unregisterHandler_of_last h.initialized hfound hslot, ?_, ?_⟩
    · simp only [CallLaw, if_neg hpresent]
      exact ⟨trivial, hentry⟩
    · refine ⟨hinit, h.distinct.shrink, fun other ↦ ?_⟩
      by_cases hother : other = instId
      · subst hother
        have hgone := PacketHandler.findSlot_shrink h.distinct hfound hslot other
        rw [(entry_eq_none hinit).mpr (hgone.trans (if_pos rfl))]
        simp
      · rw [hentry other hother, h.mirrors other]
        simp [Ne.symm hother]

/-- A removal from any other slot does not: it writes in front of the array, or leaves the removed
handler in the slot before its own. -/
theorem not_behavesAsMap_of_not_last (h : RegistryInvariant run) {slot : Slot}
    (hfound : run.pkth.findSlot instId = some slot)
    (hslot : slot.val + 1 ≠ run.pkth.handlerCtr) : ¬ BehavesAsMap run (.unregister instId) := by
  obtain ⟨hused, hid⟩ := PacketHandler.findSlot_spec hfound
  have hmore : slot.val + 1 < run.pkth.handlerCtr := by omega
  rintro ⟨ret, pkth, happly, hlaw, hmirrors⟩
  have hpresent : registrations run.history instId ≠ none := by
    rw [Ne, h.registrations_eq_none, hfound]
    simp
  simp only [CallLaw, if_neg hpresent] at hlaw
  obtain ⟨rfl, -⟩ := hlaw
  have hgone : pkth.entry instId = none := by simpa using hmirrors instId
  simp only [RegistryCall.apply] at happly
  by_cases hfirst : slot.val = 0
  · rw [PacketHandler.unregisterHandler_of_first h.initialized hfound hfirst hmore] at happly
    cases happly
  · let before : Slot := ⟨slot.val - 1, by omega⟩
    have hbefore : slot.val = before.val + 1 := by
      simp only [before]
      omega
    rw [PacketHandler.unregisterHandler_of_middle h.initialized hfound hbefore hmore] at happly
    obtain rfl : run.pkth.lock.shrink (Function.update run.pkth.handlers before
        (run.pkth.handlers slot)) = pkth := by
      simpa using happly
    rw [entry_eq_none (show (run.pkth.lock.shrink _).initialized = true from h.initialized),
      PacketHandler.findSlot_eq_none] at hgone
    have hbeforeUsed : before.val < run.pkth.handlerCtr - 1 := by omega
    exact hgone before hbeforeUsed (by simp [PacketHandler.shrink, hid])

/-- With room, a call behaves as a map operation exactly if it removes from the last used slot. -/
theorem behavesAsMap_iff (h : RegistryInvariant run) {call : RegistryCall} (hroom : Room run call) :
    BehavesAsMap run call ↔ RemovesLast run call := by
  cases call with
  | register instId inst cb =>
    obtain ⟨ret, pkth, happly, hlaw, hnext⟩ := register_behavesAsMap h hroom
    exact iff_of_true ⟨ret, pkth, happly, hlaw, hnext.mirrors⟩ trivial
  | unregister instId =>
    refine ⟨fun hmap slot hslot ↦ ?_, fun hlast ↦ ?_⟩
    · rw [PacketHandler.getHandler_of_initialized h.initialized] at hslot
      by_contra hne
      exact not_behavesAsMap_of_not_last h hslot hne hmap
    · obtain ⟨ret, pkth, happly, hlaw, hnext⟩ := unregister_behavesAsMap h hlast
      exact ⟨ret, pkth, happly, hlaw, hnext.mirrors⟩

/-- With room, a call that removes at most from the last used slot returns and keeps the
invariant. -/
theorem registryStep_returns (h : RegistryInvariant run) {call : RegistryCall}
    (hroom : Room run call) (hlast : RemovesLast run call) :
    ∃ next, registryStep run call = .ok next ∧ RegistryInvariant next := by
  have hstep : ∃ ret pkth, call.apply run.pkth = .ok (ret, pkth) ∧
      RegistryInvariant { pkth, history := run.history ++ [(call, ret)] } := by
    cases call with
    | register instId inst cb =>
      obtain ⟨ret, pkth, happly, -, hnext⟩ := register_behavesAsMap h hroom
      exact ⟨ret, pkth, happly, hnext⟩
    | unregister instId =>
      obtain ⟨ret, pkth, happly, -, hnext⟩ := unregister_behavesAsMap h hlast
      exact ⟨ret, pkth, happly, hnext⟩
  obtain ⟨ret, pkth, happly, hnext⟩ := hstep
  exact ⟨_, by simp only [registryStep, happly, bind, bind_ok]; rfl, hnext⟩

end Step

/-! ## Runs -/

/-- The registry right after `init`, with no call made yet. -/
def registryStart (handlers : Slot → Handler)
    (cells : Fin (msgqBufSize / sizeofPacketData) → Option PacketData) : RegistryRun where
  pkth := PacketHandler.booted handlers cells
  history := []

theorem registryInvariant_start (handlers : Slot → Handler)
    (cells : Fin (msgqBufSize / sizeofPacketData) → Option PacketData) :
    RegistryInvariant (registryStart handlers cells) := by
  have hinit : (registryStart handlers cells).pkth.initialized = true := rfl
  have hempty : (registryStart handlers cells).pkth.handlerCtr = 0 := rfl
  refine ⟨hinit, fun left right hleft ↦ ?_, fun instId ↦ ?_⟩
  · rw [hempty] at hleft
    omega
  · rw [(entry_eq_none hinit).mpr]
    · rfl
    · rw [PacketHandler.findSlot_eq_none, hempty]
      omega

/-- A run of no more calls than there are slots never registers too many ids. -/
theorem along_room {run : RegistryRun} {calls : List RegistryCall}
    (h : run.history.length + calls.length ≤ packetHandlers) :
    Along registryStep Room run calls := by
  induction calls generalizing run with
  | nil => exact along_nil
  | cons call rest ih =>
    rw [List.length_cons] at h
    refine ⟨?_, fun next hnext ↦ ih ?_⟩
    · cases call with
      | register instId inst cb =>
        intro _ ids hnodup hknown
        have hsubset : ids ⊆ run.history.map fun entry ↦ entry.1.instId :=
          fun id hid ↦ mem_history_of_registrations run.history id (hknown id hid)
        have hlength := (hnodup.subperm hsubset).length_le
        rw [List.length_map] at hlength
        omega
      | unregister instId => trivial
    · obtain ⟨result, -, hresult⟩ := bind_eq_ok.mp hnext
      cases hresult
      simp
      omega

theorem mirrors_of_along {start last : RegistryRun} {calls : List RegistryCall}
    (hstart : Mirrors start) (hmap : Along registryStep BehavesAsMap start calls)
    (hrun : run registryStep start calls = .ok last) : Mirrors last := by
  refine run_invariant_along Mirrors (fun _ hmap hstep ↦ ?_) hstart hmap hrun
  obtain ⟨ret, pkth, happly, -, hmirrors⟩ := hmap
  rw [registryStep, happly] at hstep
  cases hstep
  exact hmirrors

/-- Along a run that never holds more than `CS_PACKET_HANDLERS` ids, every call behaves as a map
operation exactly if every removal takes the handler in the last used slot; such a run returns, and
at its end every lookup finds the registration in force. -/
theorem registry_is_map_iff (handlers : Slot → Handler)
    (cells : Fin (msgqBufSize / sizeofPacketData) → Option PacketData) (calls : List RegistryCall)
    (hroom : Along registryStep Room (registryStart handlers cells) calls) :
    (Along registryStep BehavesAsMap (registryStart handlers cells) calls ↔
      Along registryStep RemovesLast (registryStart handlers cells) calls) ∧
    (Along registryStep RemovesLast (registryStart handlers cells) calls →
      ∃ last, run registryStep (registryStart handlers cells) calls = .ok last ∧ Mirrors last) := by
  have hstart := registryInvariant_start handlers cells
  constructor
  · refine along_congr (fun h hgiven ↦ behavesAsMap_iff h hgiven) (fun h hgiven hmap hnext ↦ ?_)
      hstart hroom
    exact of_returns (registryStep_returns h hgiven ((behavesAsMap_iff h hgiven).mp hmap)) hnext
  · intro hlast
    obtain ⟨last, hrun, hinvariant⟩ := run_returns_along RegistryInvariant
      (fun h ⟨hgiven, hcondition⟩ ↦ registryStep_returns h hgiven hcondition) hstart
      (along_and hroom hlast)
    exact ⟨last, hrun, hinvariant.mirrors⟩

/-- Three handlers are registered and the last one is removed before a fourth one is. -/
theorem registry_is_map_of_stack :
    ∃ last, run registryStep (registryStart PacketHandler.zeroedHandlers PacketHandler.zeroedCells)
      [.register instanceIdCloud 1 1, .register instanceIdUartRs485 2 2,
        .unregister instanceIdUartRs485, .register instanceIdBlePeripheral 3 3] = .ok last ∧
      Mirrors last :=
  (registry_is_map_iff PacketHandler.zeroedHandlers PacketHandler.zeroedCells _
    (along_room (by decide))).2 (by decide)

/-- Removing the second of three handlers loses the first and the last one, and leaves the removed
one where it can be found. -/
theorem unregister_loses_neighbours :
    Along registryStep Room (registryStart PacketHandler.zeroedHandlers PacketHandler.zeroedCells)
      [.register instanceIdCloud 1 1, .register instanceIdBlePeripheral 2 2,
        .register instanceIdUartRs485 3 3, .unregister instanceIdBlePeripheral] ∧
    ¬ Along registryStep BehavesAsMap
      (registryStart PacketHandler.zeroedHandlers PacketHandler.zeroedCells)
      [.register instanceIdCloud 1 1, .register instanceIdBlePeripheral 2 2,
        .register instanceIdUartRs485 3 3, .unregister instanceIdBlePeripheral] := by
  refine ⟨along_room (by decide), fun hmap ↦ ?_⟩
  have hreturns : ∃ last, run registryStep
      (registryStart PacketHandler.zeroedHandlers PacketHandler.zeroedCells)
      [.register instanceIdCloud 1 1, .register instanceIdBlePeripheral 2 2,
        .register instanceIdUartRs485 3 3, .unregister instanceIdBlePeripheral] = .ok last ∧
      last.pkth.entry instanceIdBlePeripheral = some (instanceIdBlePeripheral, 2, 2) ∧
      registrations last.history instanceIdBlePeripheral = none :=
    ⟨_, rfl, by decide, by decide⟩
  obtain ⟨last, hrun, hfound, hremoved⟩ := hreturns
  have hmirrors := mirrors_of_along
    (registryInvariant_start PacketHandler.zeroedHandlers PacketHandler.zeroedCells).mirrors hmap hrun
  have hlookup := hmirrors instanceIdBlePeripheral
  rw [hfound, hremoved] at hlookup
  cases hlookup

end CrownstoneRouter
