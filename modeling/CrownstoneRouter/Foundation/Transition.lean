import Mathlib.Data.Int.Order.Basic
import Mathlib.Tactic.ByContra
import CrownstoneRouter.Foundation.Memory

/-!
# Runs of a checked step function

A program that reacts to actions is a step function into `Checked`, and a run folds it over a list
of actions. The rules below lift one step to a whole run: invariants, invariants under a condition
on every step taken, the absence of faults, the exchange of one stepwise condition for another, and
a counting rule that recovers the condition on the steps from a potential at the two ends.
-/

universe u v

namespace CheckedRun

open CheckedMemory

variable {State : Type u} {Action : Type v} (step : State → Action → Checked State)

/-- Take the actions in order, as long as no step faults. -/
def run : State → List Action → Checked State
  | state, [] => .ok state
  | state, action :: rest => (step state action).bind fun next ↦ run next rest

/-- Every step of a run meets a condition on the action and the state it is taken in. -/
def Along (condition : State → Action → Prop) : State → List Action → Prop
  | _, [] => True
  | state, action :: rest =>
      condition state action ∧ ∀ next, step state action = .ok next → Along condition next rest

variable {step} {condition invariant : State → Action → Prop}
  {state last : State} {action : Action} {actions rest : List Action}

@[simp]
theorem run_nil : run step state [] = .ok state := rfl

theorem run_cons_eq_ok :
    run step state (action :: rest) = .ok last ↔
      ∃ next, step state action = .ok next ∧ run step next rest = .ok last := by
  simp only [run, bind_eq_ok]

theorem run_append_eq_ok :
    run step state (actions ++ rest) = .ok last ↔
      ∃ middle, run step state actions = .ok middle ∧ run step middle rest = .ok last := by
  induction actions generalizing state with
  | nil => simp
  | cons action actions ih =>
    simp only [List.cons_append, run_cons_eq_ok, ih]
    constructor
    · rintro ⟨next, hnext, middle, hmiddle, hlast⟩
      exact ⟨middle, ⟨next, hnext, hmiddle⟩, hlast⟩
    · rintro ⟨middle, ⟨next, hnext, hmiddle⟩, hlast⟩
      exact ⟨next, hnext, middle, hmiddle, hlast⟩

@[simp]
theorem along_nil : Along step condition state [] := trivial

theorem along_cons :
    Along step condition state (action :: rest) ↔
      condition state action ∧
        ∀ next, step state action = .ok next → Along step condition next rest := Iff.rfl

theorem along_append_left (h : Along step condition state (actions ++ rest)) :
    Along step condition state actions := by
  induction actions generalizing state with
  | nil => exact along_nil
  | cons action actions ih => exact ⟨h.1, fun next hnext ↦ ih (h.2 next hnext)⟩

/-- A condition that is met along a run is met along the part after any state of it. -/
theorem along_append_right (h : Along step condition state (actions ++ rest))
    (hrun : run step state actions = .ok last) : Along step condition last rest := by
  induction actions generalizing state with
  | nil =>
    cases hrun
    exact h
  | cons action actions ih =>
    obtain ⟨next, hnext, hrest⟩ := run_cons_eq_ok.mp hrun
    exact ih (h.2 next hnext) hrest

theorem along_append (h : Along step condition state actions)
    (hrest : ∀ middle, run step state actions = .ok middle → Along step condition middle rest) :
    Along step condition state (actions ++ rest) := by
  induction actions generalizing state with
  | nil => exact hrest state rfl
  | cons action actions ih =>
    refine ⟨h.1, fun next hnext ↦ ih (h.2 next hnext) fun middle hmiddle ↦ ?_⟩
    exact hrest middle (run_cons_eq_ok.mpr ⟨next, hnext, hmiddle⟩)

/-- Along a given run a decidable condition is decided by taking the run. -/
instance decidableAlong [hcondition : ∀ state action, Decidable (condition state action)] :
    ∀ state actions, Decidable (Along step condition state actions)
  | _, [] => isTrue trivial
  | state, action :: rest =>
      match hstep : step state action with
      | .ok next =>
          have := decidableAlong next rest
          decidable_of_iff (condition state action ∧ Along step condition next rest)
            (by simp [along_cons, hstep])
      | .error _ => decidable_of_iff (condition state action) (by simp [along_cons, hstep])

/-- A condition that an invariant implies is met along every run. -/
theorem along_of_invariant {holds : State → Prop}
    (hcondition : ∀ {state action}, holds state → condition state action)
    (hstep : ∀ {state action next}, holds state → step state action = .ok next → holds next)
    (hstart : holds state) : Along step condition state actions := by
  induction actions generalizing state with
  | nil => exact along_nil
  | cons action rest ih =>
    exact ⟨hcondition hstart, fun next hnext ↦ ih (hstep hstart hnext)⟩

/-- A condition that an invariant implies, where steps that meet another one preserve it. -/
theorem along_of_invariant_along {given : State → Action → Prop} {holds : State → Prop}
    (hcondition : ∀ {state action}, holds state → given state action → condition state action)
    (hstep : ∀ {state action next}, holds state → given state action →
      step state action = .ok next → holds next)
    (hstart : holds state) (hgiven : Along step given state actions) :
    Along step condition state actions := by
  induction actions generalizing state with
  | nil => exact along_nil
  | cons action rest ih =>
    exact ⟨hcondition hstart hgiven.1,
      fun next hnext ↦ ih (hstep hstart hgiven.1 hnext) (hgiven.2 next hnext)⟩

theorem along_true : Along step (fun _ _ ↦ True) state actions := by
  induction actions generalizing state with
  | nil => exact along_nil
  | cons action rest ih => exact ⟨trivial, fun next _ ↦ ih⟩

theorem along_of_forall {given : Action → Prop} (h : ∀ action ∈ actions, given action) :
    Along step (fun _ action ↦ given action) state actions := by
  induction actions generalizing state with
  | nil => exact along_nil
  | cons action rest ih =>
    obtain ⟨hfirst, hrest⟩ := List.forall_mem_cons.mp h
    exact ⟨hfirst, fun next _ ↦ ih hrest⟩

theorem along_forall {Index : Type u} {conditions : Index → State → Action → Prop}
    (h : ∀ index, Along step (conditions index) state actions) :
    Along step (fun state action ↦ ∀ index, conditions index state action) state actions := by
  induction actions generalizing state with
  | nil => exact along_nil
  | cons action rest ih =>
    exact ⟨fun index ↦ (h index).1, fun next hnext ↦ ih fun index ↦ (h index).2 next hnext⟩

/-- What every step preserves holds at the end of every run. -/
theorem run_invariant (holds : State → Prop)
    (hstep : ∀ {state action next}, holds state → step state action = .ok next → holds next)
    (hstart : holds state) (hrun : run step state actions = .ok last) : holds last := by
  induction actions generalizing state with
  | nil =>
    cases hrun
    exact hstart
  | cons action rest ih =>
    obtain ⟨next, hnext, hrest⟩ := run_cons_eq_ok.mp hrun
    exact ih (hstep hstart hnext) hrest

/-- What relates every step to a step of an abstract machine relates every run to one of its runs. -/
theorem run_refines {Abstract : Type*} {machine : Abstract → Action → Abstract} {abstract : Abstract}
    (relates : State → Abstract → Prop)
    (hstep : ∀ {state action next abstract}, relates state abstract → step state action = .ok next →
      relates next (machine abstract action))
    (hstart : relates state abstract) (hrun : run step state actions = .ok last) :
    relates last (actions.foldl machine abstract) := by
  induction actions generalizing state abstract with
  | nil =>
    cases hrun
    exact hstart
  | cons action rest ih =>
    obtain ⟨next, hnext, hrest⟩ := run_cons_eq_ok.mp hrun
    exact ih (hstep hstart hnext) hrest

/-- What every step meeting the condition preserves holds at the end of a run that meets it. -/
theorem run_invariant_along (holds : State → Prop)
    (hstep : ∀ {state action next}, holds state → condition state action →
      step state action = .ok next → holds next)
    (hstart : holds state) (halong : Along step condition state actions)
    (hrun : run step state actions = .ok last) : holds last := by
  induction actions generalizing state with
  | nil =>
    cases hrun
    exact hstart
  | cons action rest ih =>
    obtain ⟨next, hnext, hrest⟩ := run_cons_eq_ok.mp hrun
    exact ih (hstep hstart halong.1 hnext) (halong.2 next hnext) hrest

/-- A run that meets a condition under which no step faults has an end, and the invariant holds
there. -/
theorem run_returns_along (holds : State → Prop)
    (hstep : ∀ {state action}, holds state → condition state action →
      ∃ next, step state action = .ok next ∧ holds next)
    (hstart : holds state) (halong : Along step condition state actions) :
    ∃ last, run step state actions = .ok last ∧ holds last := by
  induction actions generalizing state with
  | nil => exact ⟨state, rfl, hstart⟩
  | cons action rest ih =>
    obtain ⟨next, hnext, hholds⟩ := hstep hstart halong.1
    obtain ⟨last, hrun, hlast⟩ := ih hholds (halong.2 next hnext)
    exact ⟨last, run_cons_eq_ok.mpr ⟨next, hnext, hrun⟩, hlast⟩

/-- If the steps from states in which the invariant holds return exactly under a condition, so do
the runs along which every step meets it. -/
theorem run_returns_iff_along {holds : State → Prop}
    (hreturns : ∀ {state action}, holds state →
      ((∃ next, step state action = .ok next) ↔ condition state action))
    (hstep : ∀ {state action next}, holds state → step state action = .ok next → holds next)
    (hstart : holds state) :
    (∃ last, run step state actions = .ok last) ↔ Along step condition state actions := by
  constructor
  · rintro ⟨last, hrun⟩
    induction actions generalizing state with
    | nil => exact along_nil
    | cons action rest ih =>
      obtain ⟨next, hnext, hrest⟩ := run_cons_eq_ok.mp hrun
      refine ⟨(hreturns hstart).mp ⟨next, hnext⟩, fun other hother ↦ ?_⟩
      obtain rfl := Except.ok.inj (hnext.symm.trans hother)
      exact ih (hstep hstart hnext) hrest
  · intro halong
    obtain ⟨last, hrun, -⟩ := run_returns_along holds (fun hholds hcondition ↦ by
      obtain ⟨next, hnext⟩ := (hreturns hholds).mpr hcondition
      exact ⟨next, hnext, hstep hholds hnext⟩) hstart halong
    exact ⟨last, hrun⟩

/-- If every step outside the condition leaves a mark that no later step removes, a run without the
mark at its end meets the condition. -/
theorem along_of_unmarked (holds marked : State → Prop)
    (hstep : ∀ {state action next}, holds state → condition state action →
      step state action = .ok next → holds next)
    (hmark : ∀ {state action next}, holds state → ¬ condition state action →
      step state action = .ok next → marked next)
    (hkeeps : ∀ {state action next}, marked state → step state action = .ok next → marked next)
    (hstart : holds state) (hrun : run step state actions = .ok last) (hend : ¬ marked last) :
    Along step condition state actions := by
  induction actions generalizing state with
  | nil => exact along_nil
  | cons action rest ih =>
    obtain ⟨next, hnext, hrest⟩ := run_cons_eq_ok.mp hrun
    by_cases hcondition : condition state action
    · refine ⟨hcondition, fun other hother ↦ ?_⟩
      obtain rfl : next = other := Except.ok.inj (hnext.symm.trans hother)
      exact ih (hstep hstart hcondition hnext) hrest
    · exact absurd (run_invariant marked hkeeps (hmark hstart hcondition hnext) hrest) hend

/-- Two conditions that agree wherever the invariant holds agree along every run, if the first one
carries the invariant on. What is already known along the run may be used for both. -/
theorem along_congr {given other : State → Action → Prop} {holds : State → Prop}
    (hiff : ∀ {state action}, holds state → given state action →
      (condition state action ↔ other state action))
    (hstep : ∀ {state action next}, holds state → given state action → condition state action →
      step state action = .ok next → holds next)
    (hstart : holds state) (hgiven : Along step given state actions) :
    Along step condition state actions ↔ Along step other state actions := by
  induction actions generalizing state with
  | nil => exact Iff.rfl
  | cons action rest ih =>
    rw [along_cons, along_cons, ← hiff hstart hgiven.1]
    refine and_congr_right fun hcondition ↦ forall₂_congr fun next hnext ↦ ?_
    exact ih (hstep hstart hgiven.1 hcondition hnext) (hgiven.2 next hnext)

/-- A condition that depends on the action alone wherever the invariant holds is met along a run
exactly if all its actions meet it, provided that no step faults. -/
theorem along_iff_forall {given : Action → Prop} {holds : State → Prop}
    (hiff : ∀ {state action}, holds state → (condition state action ↔ given action))
    (hstep : ∀ {state action}, holds state → ∃ next, step state action = .ok next ∧ holds next)
    (hstart : holds state) :
    Along step condition state actions ↔ ∀ action ∈ actions, given action := by
  induction actions generalizing state with
  | nil => simp
  | cons action rest ih =>
    obtain ⟨next, hnext, hholds⟩ := @hstep state action hstart
    rw [along_cons, List.forall_mem_cons, hiff hstart, forall_eq_ok_iff hnext, ih hholds]

theorem along_and {other : State → Action → Prop} (hleft : Along step condition state actions)
    (hright : Along step other state actions) :
    Along step (fun state action ↦ condition state action ∧ other state action) state actions := by
  induction actions generalizing state with
  | nil => exact along_nil
  | cons action rest ih =>
    exact ⟨⟨hleft.1, hright.1⟩, fun next hnext ↦ ih (hleft.2 next hnext) (hright.2 next hnext)⟩

/-- What holds in every state of a run holds at its start and is carried on by every step. -/
theorem forall_prefix_iff {holds : State → Prop} :
    (∀ first last, first <+: actions → run step state first = .ok last → holds last) ↔
      holds state ∧
        Along step (fun state action ↦ ∀ next, step state action = .ok next → holds next) state
          actions := by
  induction actions generalizing state with
  | nil =>
    constructor
    · exact fun h ↦ ⟨h [] state List.nil_prefix rfl, along_nil⟩
    · rintro ⟨hstart, -⟩ first last hfirst hrun
      obtain rfl := List.prefix_nil.mp hfirst
      cases hrun
      exact hstart
  | cons action rest ih =>
    constructor
    · intro h
      have hnext : ∀ next, step state action = .ok next →
          ∀ first last, first <+: rest → run step next first = .ok last → holds last :=
        fun next hnext first last hfirst hrun ↦ h (action :: first) last
          (List.cons_prefix_cons.mpr ⟨rfl, hfirst⟩) (run_cons_eq_ok.mpr ⟨next, hnext, hrun⟩)
      refine ⟨h [] state List.nil_prefix rfl, fun next hstep ↦ ?_, fun next hstep ↦ ?_⟩
      · exact (ih.mp (hnext next hstep)).1
      · exact (ih.mp (hnext next hstep)).2
    · rintro ⟨hstart, hstep, hrest⟩ first last hfirst hrun
      cases first with
      | nil =>
        cases hrun
        exact hstart
      | cons other first =>
        obtain ⟨rfl, hprefix⟩ := List.cons_prefix_cons.mp hfirst
        obtain ⟨next, hnext, htail⟩ := run_cons_eq_ok.mp hrun
        exact ih.mpr ⟨hstep next hnext, hrest next hnext⟩ first last hprefix htail

/-- If the steps that meet a condition are those that carry a property on, the property holds in
every state of a run exactly if every step meets the condition. -/
theorem forall_prefix_iff_along {holds : State → Prop} {given : State → Action → Prop}
    (hiff : ∀ {state action}, holds state → given state action →
      ((∀ next, step state action = .ok next → holds next) ↔ condition state action))
    (hstart : holds state) (hgiven : Along step given state actions) :
    (∀ first last, first <+: actions → run step state first = .ok last → holds last) ↔
      Along step condition state actions := by
  rw [forall_prefix_iff, and_iff_right hstart]
  exact along_congr hiff (fun _ _ hnext hstep ↦ hnext _ hstep) hstart hgiven

/-- A potential that no step decreases does not decrease over a run. -/
theorem run_potential_mono {given : State → Action → Prop} {potential : State → ℤ}
    {holds : State → Prop}
    (hholds : ∀ {state action next}, holds state → given state action →
      step state action = .ok next → holds next)
    (hmono : ∀ {state action next}, holds state → given state action →
      step state action = .ok next → potential state ≤ potential next)
    (hstart : holds state) (hgiven : Along step given state actions)
    (hrun : run step state actions = .ok last) : potential state ≤ potential last := by
  induction actions generalizing state with
  | nil =>
    cases hrun
    exact le_rfl
  | cons action rest ih =>
    obtain ⟨next, hnext, hrest⟩ := run_cons_eq_ok.mp hrun
    exact le_trans (hmono hstart hgiven.1 hnext)
      (ih (hholds hstart hgiven.1 hnext) (hgiven.2 next hnext) hrest)

/-- If the steps outside the condition are those that increase the potential, a run at whose end
the potential has not increased meets the condition. -/
theorem along_of_potential {given : State → Action → Prop} (potential : State → ℤ)
    {holds : State → Prop}
    (hholds : ∀ {state action next}, holds state → given state action →
      step state action = .ok next → holds next)
    (hmono : ∀ {state action next}, holds state → given state action →
      step state action = .ok next → potential state ≤ potential next)
    (hstrict : ∀ {state action next}, holds state → given state action →
      step state action = .ok next → ¬ condition state action → potential state < potential next)
    (hstart : holds state) (hgiven : Along step given state actions)
    (hrun : run step state actions = .ok last) (hend : potential last ≤ potential state) :
    Along step condition state actions := by
  induction actions generalizing state with
  | nil => exact along_nil
  | cons action rest ih =>
    obtain ⟨next, hnext, hrest⟩ := run_cons_eq_ok.mp hrun
    have htail := run_potential_mono hholds hmono (hholds hstart hgiven.1 hnext)
      (hgiven.2 next hnext) hrest
    refine ⟨?_, fun other hother ↦ ?_⟩
    · by_contra hcondition
      have hincrease := hstrict hstart hgiven.1 hnext hcondition
      omega
    · obtain rfl : next = other := Except.ok.inj (hnext.symm.trans hother)
      have hhead := hmono hstart hgiven.1 hnext
      exact ih (hholds hstart hgiven.1 hnext) (hgiven.2 next hnext) hrest (by omega)

end CheckedRun
