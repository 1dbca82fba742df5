import CrownstoneRouter.PacketHandling.RegistryMap

/-!
# The bounds of the registry

A registration writes to the slot behind the used ones, and a removal copies between used slots. The
theorem at the end says along which runs of calls all of this stays inside the array of handlers and
leaves distinct ids in the used slots: those that register no new id into a full array and remove
only the handler in the last used slot.
-/

namespace CrownstoneRouter

open CheckedMemory CheckedRun

def RegistryCall.isRegistration : RegistryCall → Bool
  | .register _ _ _ => true
  | .unregister _ => false

/-- A call stays inside the array of handlers, keeps the counter in range and the ids of the used
slots distinct, and fails without any change if it is a registration that finds no free slot. -/
def StaysInRange (run : RegistryRun) (call : RegistryCall) : Prop :=
  ∃ ret pkth, call.apply run.pkth = .ok (ret, pkth) ∧
    pkth.handlerCtr ≤ packetHandlers ∧ pkth.IdsDistinct ∧
    (call.isRegistration = true → run.pkth.handlerCtr = packetHandlers →
      ret ≠ .ok ∧ Unchanged run.pkth pkth)

/-- A new id is registered only while there is a free slot, and a handler is removed only from the
last used one. -/
def KeepsRange (run : RegistryRun) : RegistryCall → Prop
  | .register instId _ _ =>
      run.pkth.initialized = true → run.pkth.findSlot instId = none →
        run.pkth.handlerCtr < packetHandlers
  | .unregister instId => RemovesLast run (.unregister instId)

instance (run : RegistryRun) : DecidablePred (KeepsRange run)
  | .register _ _ _ => inferInstanceAs (Decidable (_ → _ → _))
  | .unregister instId => inferInstanceAs (Decidable (RemovesLast run (.unregister instId)))

section Step

variable {run : RegistryRun} {instId : InstanceId}

/-- What a registration does to the range. -/
theorem register_staysInRange_iff (hdistinct : run.pkth.IdsDistinct) (inst cb : Address) :
    StaysInRange run (.register instId inst cb) ↔ KeepsRange run (.register instId inst cb) := by
  cases hinit : run.pkth.initialized with
  | false =>
    have happly : RegistryCall.apply run.pkth (.register instId inst cb) =
        .ok (.notInitialized, run.pkth) := by
      simp [RegistryCall.apply, PacketHandler.registerHandler, hinit]
    refine iff_of_true ⟨_, _, happly, run.pkth.handlerCtr_le, hdistinct, fun _ _ ↦ ?_⟩ ?_
    · exact ⟨by decide, rfl, rfl⟩
    · simp [KeepsRange, hinit]
  | true =>
    cases hfound : run.pkth.findSlot instId with
    | some slot =>
      have happly : RegistryCall.apply run.pkth (.register instId inst cb) =
          .ok (.handlerAlreadyRegistered, run.pkth.lock) :=
        PacketHandler.registerHandler_of_present hinit hfound
      refine iff_of_true ⟨_, _, happly, run.pkth.handlerCtr_le, hdistinct, fun _ _ ↦ ?_⟩ ?_
      · exact ⟨by decide, rfl, rfl⟩
      · simp [KeepsRange, hfound]
    | none =>
      by_cases hroom : run.pkth.handlerCtr < packetHandlers
      · have happly : RegistryCall.apply run.pkth (.register instId inst cb) =
            .ok (.ok, run.pkth.append hroom (PacketHandler.newHandler instId inst cb)) :=
          PacketHandler.registerHandler_of_absent hinit hfound hroom
        refine iff_of_true ⟨_, _, happly, PacketHandler.handlerCtr_le _,
          hdistinct.append hroom hfound, fun _ hfull ↦ ?_⟩ fun _ _ ↦ hroom
        exact absurd hfull hroom.ne
      · have happly : RegistryCall.apply run.pkth (.register instId inst cb) =
            .error .outOfBounds :=
          PacketHandler.registerHandler_of_full hinit hfound hroom
        refine iff_of_false ?_ fun hkeeps ↦ hroom (hkeeps hinit hfound)
        rintro ⟨ret, pkth, hreturns, -⟩
        rw [happly] at hreturns
        cases hreturns

/-- After a handler with others on both sides has been removed, two used slots carry its id. -/
theorem not_idsDistinct_of_middle {pkth : PacketHandler} {slot before : Slot}
    (hbefore : slot.val = before.val + 1) (hmore : slot.val + 1 < pkth.handlerCtr) :
    ¬ (pkth.lock.shrink
      (Function.update pkth.handlers before (pkth.handlers slot))).IdsDistinct := by
  intro hdistinct
  have hne : slot ≠ before := by
    rintro rfl
    omega
  have hslotUsed : slot.val < pkth.handlerCtr - 1 := by omega
  have hbeforeUsed : before.val < pkth.handlerCtr - 1 := by omega
  refine hne (hdistinct hslotUsed hbeforeUsed ?_)
  simp [PacketHandler.shrink, Function.update_of_ne hne]

/-- What a removal does to the range. -/
theorem unregister_staysInRange_iff (hdistinct : run.pkth.IdsDistinct) :
    StaysInRange run (.unregister instId) ↔ KeepsRange run (.unregister instId) := by
  cases hinit : run.pkth.initialized with
  | false =>
    have happly : RegistryCall.apply run.pkth (.unregister instId) =
        .ok (.notInitialized, run.pkth) := by
      simp [RegistryCall.apply, PacketHandler.unregisterHandler, hinit]
    refine iff_of_true
      ⟨_, _, happly, run.pkth.handlerCtr_le, hdistinct, fun hregister ↦ by cases hregister⟩ ?_
    simp [KeepsRange, RemovesLast, PacketHandler.getHandler, hinit]
  | true =>
    have hlookup := PacketHandler.getHandler_of_initialized hinit instId
    cases hfound : run.pkth.findSlot instId with
    | none =>
      have happly : RegistryCall.apply run.pkth (.unregister instId) =
          .ok (.handlerNotFound, run.pkth) :=
        PacketHandler.unregisterHandler_of_absent hinit hfound
      refine iff_of_true
        ⟨_, _, happly, run.pkth.handlerCtr_le, hdistinct, fun hregister ↦ by cases hregister⟩ ?_
      simp [KeepsRange, RemovesLast, hlookup, hfound]
    | some slot =>
      have hkeeps : KeepsRange run (.unregister instId) ↔ slot.val + 1 = run.pkth.handlerCtr := by
        simp [KeepsRange, RemovesLast, hlookup, hfound]
      have hused := (PacketHandler.findSlot_spec hfound).1
      rw [hkeeps]
      by_cases hlast : slot.val + 1 = run.pkth.handlerCtr
      · have happly : RegistryCall.apply run.pkth (.unregister instId) =
            .ok (.ok, run.pkth.lock.shrink run.pkth.handlers) :=
          PacketHandler.unregisterHandler_of_last hinit hfound hlast
        exact iff_of_true ⟨_, _, happly, PacketHandler.handlerCtr_le _, hdistinct.shrink,
          fun hregister ↦ by cases hregister⟩ hlast
      · have hmore : slot.val + 1 < run.pkth.handlerCtr := by omega
        refine iff_of_false ?_ hlast
        rintro ⟨ret, pkth, hreturns, -, hkept, -⟩
        simp only [RegistryCall.apply] at hreturns
        by_cases hfirst : slot.val = 0
        · rw [PacketHandler.unregisterHandler_of_first hinit hfound hfirst hmore] at hreturns
          cases hreturns
        · obtain ⟨before, hbefore⟩ : ∃ before : Slot, slot.val = before.val + 1 :=
            ⟨⟨slot.val - 1, by omega⟩, by simp only; omega⟩
          rw [PacketHandler.unregisterHandler_of_middle hinit hfound hbefore hmore] at hreturns
          cases hreturns
          exact not_idsDistinct_of_middle hbefore hmore hkept

/-- A call stays in range exactly if it registers no new id into a full array and removes only from
the last used slot. -/
theorem staysInRange_iff (hdistinct : run.pkth.IdsDistinct) (call : RegistryCall) :
    StaysInRange run call ↔ KeepsRange run call := by
  cases call with
  | register instId inst cb => exact register_staysInRange_iff hdistinct inst cb
  | unregister instId => exact unregister_staysInRange_iff hdistinct

theorem StaysInRange.distinct {call : RegistryCall} {next : RegistryRun}
    (h : StaysInRange run call) (hstep : registryStep run call = .ok next) :
    next.pkth.IdsDistinct := by
  obtain ⟨ret, pkth, happly, -, hdistinct, -⟩ := h
  rw [registryStep, happly] at hstep
  cases hstep
  exact hdistinct

end Step

theorem along_staysInRange_iff {run : RegistryRun} (hdistinct : run.pkth.IdsDistinct)
    (calls : List RegistryCall) :
    Along registryStep StaysInRange run calls ↔ Along registryStep KeepsRange run calls := by
  have hiff {run : RegistryRun} {call : RegistryCall} (hdistinct : run.pkth.IdsDistinct)
      (_ : True) : StaysInRange run call ↔ KeepsRange run call :=
    staysInRange_iff hdistinct call
  exact along_congr hiff (fun _ _ hstays hstep ↦ hstays.distinct hstep) hdistinct along_true

theorem idsDistinct_of_empty {pkth : PacketHandler} (hempty : pkth.handlerCtr = 0) :
    pkth.IdsDistinct := by
  intro left right hleft
  omega

/-- From an empty registry on, every call of a run stays in range exactly if no new id is registered
into a full array and every removal takes the handler in the last used slot; such a run returns. -/
theorem registry_in_range_iff {pkth : PacketHandler} (hempty : pkth.handlerCtr = 0)
    (calls : List RegistryCall) :
    (Along registryStep StaysInRange { pkth, history := [] } calls ↔
      Along registryStep KeepsRange { pkth, history := [] } calls) ∧
    (Along registryStep KeepsRange { pkth, history := [] } calls →
      ∃ last, run registryStep { pkth, history := [] } calls = .ok last ∧
        last.pkth.IdsDistinct) := by
  have hstart := idsDistinct_of_empty hempty
  have hreturns {run : RegistryRun} {call : RegistryCall} (hdistinct : run.pkth.IdsDistinct)
      (hkeeps : KeepsRange run call) :
      ∃ next, registryStep run call = .ok next ∧ next.pkth.IdsDistinct := by
    have hstays := (staysInRange_iff hdistinct call).mpr hkeeps
    obtain ⟨ret, after, happly, -⟩ := id hstays
    have hstep : registryStep run call =
        .ok { pkth := after, history := run.history ++ [(call, ret)] } := by
      rw [registryStep, happly]
      rfl
    exact ⟨_, hstep, hstays.distinct hstep⟩
  constructor
  · exact along_staysInRange_iff hstart calls
  · exact run_returns_along (fun run : RegistryRun ↦ run.pkth.IdsDistinct) hreturns hstart

/-- Seven ids are registered, an eighth one only after the last of them has been removed. -/
theorem registry_in_range_of_stack :
    ∃ last, run registryStep (registryStart PacketHandler.zeroedHandlers PacketHandler.zeroedCells)
      [.register 1 0 0, .register 2 0 0, .register 3 0 0, .register 4 0 0, .register 5 0 0,
        .register 6 0 0, .register 7 0 0, .unregister 7, .register 0 0 0] = .ok last ∧
      last.pkth.IdsDistinct :=
  (@registry_in_range_iff (PacketHandler.booted PacketHandler.zeroedHandlers
    PacketHandler.zeroedCells) rfl _).2 (by decide)

/-- An eighth id is written behind the array. -/
theorem eighth_registration_out_of_range :
    ¬ Along registryStep StaysInRange
      (registryStart PacketHandler.zeroedHandlers PacketHandler.zeroedCells)
      [.register 1 0 0, .register 2 0 0, .register 3 0 0, .register 4 0 0, .register 5 0 0,
        .register 6 0 0, .register 7 0 0, .register 0 0 0] := by
  intro hrange
  have hkeeps := (along_staysInRange_iff (idsDistinct_of_empty rfl) _).mp hrange
  exact absurd hkeeps (by decide)

end CrownstoneRouter
