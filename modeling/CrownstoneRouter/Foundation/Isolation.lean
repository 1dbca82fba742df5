import CrownstoneRouter.Foundation.Transition

/-!
# Isolation of the users of a shared resource

Several users share a resource, and each should be served as if it were alone. What they are
promised is a machine that never faults and in which each of them has a part of its own. A resource
that simulates this machine while a condition is met serves a user, in a run that meets the
condition, as in the run from which the actions of all others have been removed.

`unwinding` needs no such machine: it compares two runs of the resource itself through a relation of
what is the same for one user.
-/

universe u v w z

namespace CheckedRun

open CheckedMemory

variable {Concrete : Type u} {Promised : Type v} {Action : Type w} {View : Type z}

/-- A step function without faults. -/
def total (promise : Promised → Action → Promised) (state : Promised) (action : Action) :
    Checked Promised :=
  .ok (promise state action)

variable {step : Concrete → Action → Checked Concrete} {promise : Promised → Action → Promised}
  {condition : Promised → Action → Prop} {concrete : Concrete} {state other : Promised}
  {action : Action} {actions rest : List Action}

theorem along_total_cons :
    Along (total promise) condition state (action :: rest) ↔
      condition state action ∧ Along (total promise) condition (promise state action) rest := by
  simp [along_cons, total]

/-- A resource keeps its promise over every run that meets the condition. -/
theorem run_simulates (keeps : Concrete → Promised → Prop)
    (hstep : ∀ {concrete state action}, keeps concrete state → condition state action →
      ∃ next, step concrete action = .ok next ∧ keeps next (promise state action))
    (hstart : keeps concrete state) (halong : Along (total promise) condition state actions) :
    ∃ last, run step concrete actions = .ok last ∧ keeps last (actions.foldl promise state) := by
  induction actions generalizing concrete state with
  | nil => exact ⟨concrete, rfl, hstart⟩
  | cons action rest ih =>
    rw [along_total_cons] at halong
    obtain ⟨next, hnext, hkeeps⟩ := hstep hstart halong.1
    obtain ⟨last, hrun, hlast⟩ := ih hkeeps halong.2
    exact ⟨last, run_cons_eq_ok.mpr ⟨next, hnext, hrun⟩, hlast⟩

/-- A resource that keeps its promise within a limit, and faults at the step that leaves it, faults
in exactly those runs in which the promise leaves the limit. -/
theorem run_simulates_within {within : Promised → Prop} (keeps : Concrete → Promised → Prop)
    (hstep : ∀ {concrete state action}, keeps concrete state → condition state action →
      within (promise state action) →
      ∃ next, step concrete action = .ok next ∧ keeps next (promise state action))
    (hbeyond : ∀ {concrete state action}, keeps concrete state → condition state action →
      ¬ within (promise state action) → ∃ fault, step concrete action = .error fault)
    (hmono : ∀ {state action}, within (promise state action) → within state)
    (hstart : keeps concrete state) (halong : Along (total promise) condition state actions) :
    (within (actions.foldl promise state) →
      ∃ last, run step concrete actions = .ok last ∧ keeps last (actions.foldl promise state)) ∧
    (within state → ¬ within (actions.foldl promise state) →
      ∃ fault, run step concrete actions = .error fault) := by
  have hearlier (actions : List Action) (state : Promised)
      (hlast : within (actions.foldl promise state)) : within state := by
    induction actions generalizing state with
    | nil => exact hlast
    | cons action rest ih => exact hmono (ih (promise state action) hlast)
  induction actions generalizing concrete state with
  | nil => exact ⟨fun _ ↦ ⟨concrete, rfl, hstart⟩, fun hwithin hleaves ↦ absurd hwithin hleaves⟩
  | cons action rest ih =>
    rw [along_total_cons] at halong
    by_cases hnext : within (promise state action)
    · obtain ⟨next, hstepped, hkeeps⟩ := hstep hstart halong.1 hnext
      obtain ⟨hreturns, hfaults⟩ := ih hkeeps halong.2
      constructor
      · intro hlast
        obtain ⟨last, hrun, hend⟩ := hreturns hlast
        exact ⟨last, run_cons_eq_ok.mpr ⟨next, hstepped, hrun⟩, hend⟩
      · intro _ hleaves
        obtain ⟨fault, hrun⟩ := hfaults hnext hleaves
        exact ⟨fault, by rw [run, hstepped]; exact hrun⟩
    · constructor
      · exact fun hlast ↦ absurd (hearlier rest _ hlast) hnext
      · intro _ _
        obtain ⟨fault, hstepped⟩ := hbeyond hstart halong.1 hnext
        exact ⟨fault, by rw [run, hstepped]; rfl⟩

/-- A resource keeps its promise over every run of its own that meets a condition. -/
theorem run_simulates_along {given : Concrete → Action → Prop} (keeps : Concrete → Promised → Prop)
    (hstep : ∀ {concrete state action}, keeps concrete state → given concrete action →
      ∃ next, step concrete action = .ok next ∧ keeps next (promise state action))
    (hstart : keeps concrete state) (halong : Along step given concrete actions) :
    ∃ last, run step concrete actions = .ok last ∧ keeps last (actions.foldl promise state) := by
  induction actions generalizing concrete state with
  | nil => exact ⟨concrete, rfl, hstart⟩
  | cons action rest ih =>
    obtain ⟨next, hnext, hkeeps⟩ := hstep hstart halong.1
    obtain ⟨last, hrun, hlast⟩ := ih hkeeps (halong.2 next hnext)
    exact ⟨last, run_cons_eq_ok.mpr ⟨next, hnext, hrun⟩, hlast⟩

/-- The part of one user: only its own actions change it, and they do not look at other parts. -/
structure Separate (promise : Promised → Action → Promised) (view : Promised → View)
    (own : Action → Bool) : Prop where
  foreign : ∀ state {action}, own action = false → view (promise state action) = view state
  determined : ∀ {state other} action, view state = view other →
    view (promise state action) = view (promise other action)

/-- The part of a user evolves as in the run of its own actions. -/
theorem Separate.foldl {view : Promised → View} {own : Action → Bool}
    (h : Separate promise view own) (hview : view state = view other) (actions : List Action) :
    view (actions.foldl promise state) = view ((actions.filter own).foldl promise other) := by
  induction actions generalizing state other with
  | nil => exact hview
  | cons action rest ih =>
    cases hown : own action with
    | true =>
      rw [List.filter_cons_of_pos hown]
      exact ih (h.determined action hview)
    | false =>
      rw [List.filter_cons_of_neg (by simp [hown])]
      exact ih ((h.foreign state hown).trans hview)

/-- While the other users are idle, own actions meet a condition that they have met in company. -/
theorem along_filter {own : Action → Bool} (idle : Promised → Prop)
    (hcondition : ∀ {state other action}, own action = true → condition state action →
      idle other → condition other action)
    (hstep : ∀ {state action}, own action = true → idle state → idle (promise state action))
    (hidle : idle other) (halong : Along (total promise) condition state actions) :
    Along (total promise) condition other (actions.filter own) := by
  induction actions generalizing state other with
  | nil => exact along_nil
  | cons action rest ih =>
    rw [along_total_cons] at halong
    cases hown : own action with
    | true =>
      rw [List.filter_cons_of_pos hown, along_total_cons]
      exact ⟨hcondition hown halong.1 hidle, ih (hstep hown hidle) halong.2⟩
    | false =>
      rw [List.filter_cons_of_neg (by simp [hown])]
      exact ih hidle halong.2

/-- **Isolation.** From a state in which the other users are idle, a user is served as if it were
alone. -/
theorem isolated {Output : Type z} (keeps : Concrete → Promised → Prop)
    (hstep : ∀ {concrete state action}, keeps concrete state → condition state action →
      ∃ next, step concrete action = .ok next ∧ keeps next (promise state action))
    {view : Promised → View} {own : Action → Bool} (hseparate : Separate promise view own)
    (observe : Concrete → Output) (output : View → Output)
    (hobserve : ∀ {concrete state}, keeps concrete state → observe concrete = output (view state))
    (idle : Promised → Prop)
    (hcondition : ∀ {state other action}, own action = true → condition state action →
      idle other → condition other action)
    (hidleStep : ∀ {state action}, own action = true → idle state → idle (promise state action))
    (hidle : idle state) (hstart : keeps concrete state)
    (halong : Along (total promise) condition state actions) :
    ∃ last alone, run step concrete actions = .ok last ∧
      run step concrete (actions.filter own) = .ok alone ∧ observe last = observe alone := by
  obtain ⟨last, hlast, hkeeps⟩ := run_simulates keeps @hstep hstart halong
  obtain ⟨alone, halone, hkeepsAlone⟩ := run_simulates keeps @hstep hstart
    (along_filter idle @hcondition @hidleStep hidle halong)
  refine ⟨last, alone, hlast, halone, ?_⟩
  calc
    observe last = output (view (actions.foldl promise state)) := hobserve hkeeps
    _ = output (view ((actions.filter own).foldl promise state)) := by
      rw [hseparate.foldl rfl actions]
    _ = observe alone := (hobserve hkeepsAlone).symm

/-! ## Two runs of one resource -/

section Mirrors

variable {Left : Type u} {Right : Type v} {Value : Type w} {Other : Type z}

/-- Whenever the left computation returns, the right one returns something that is the same for an
observer. -/
def Mirrors (same : Left → Right → Prop) (left : Checked Left) (right : Checked Right) : Prop :=
  ∀ value, left = .ok value → ∃ other, right = .ok other ∧ same value other

theorem Mirrors.ok {same : Left → Right → Prop} {value : Left} {other : Right}
    (h : same value other) : Mirrors same (.ok value) (.ok other) := by
  rintro _ ⟨⟩
  exact ⟨other, rfl, h⟩

theorem Mirrors.of_eq {left right : Checked Left} (h : left = right) : Mirrors Eq left right := by
  subst h
  exact fun value hvalue ↦ ⟨value, hvalue, rfl⟩

theorem Mirrors.mono {same coarser : Left → Right → Prop} {left : Checked Left}
    {right : Checked Right} (h : Mirrors same left right)
    (hcoarser : ∀ {value other}, same value other → coarser value other) :
    Mirrors coarser left right := by
  intro value hvalue
  obtain ⟨other, hother, hsame⟩ := h value hvalue
  exact ⟨other, hother, hcoarser hsame⟩

/-- What an observer sees on the left is seen on the right. -/
theorem Mirrors.map_eq {observe : Left → Value} {observe' : Right → Value} {left : Checked Left}
    {right : Checked Right} {value : Value}
    (h : Mirrors (fun value other ↦ observe value = observe' other) left right)
    (hleft : left.map observe = .ok value) : right.map observe' = .ok value := by
  cases left with
  | error fault => cases hleft
  | ok result =>
    obtain ⟨other, rfl, hsame⟩ := h result rfl
    calc
      Except.map observe' (.ok other) = .ok (observe' other) := rfl
      _ = .ok (observe result) := by rw [hsame]
      _ = .ok value := hleft

theorem Mirrors.bind {same : Left → Right → Prop} {after : Value → Other → Prop}
    {left : Checked Left} {right : Checked Right} {next : Left → Checked Value}
    {next' : Right → Checked Other} (h : Mirrors same left right)
    (hnext : ∀ value other, same value other → Mirrors after (next value) (next' other)) :
    Mirrors after (left.bind next) (right.bind next') := by
  intro result hresult
  obtain ⟨value, hvalue, hresult⟩ := bind_eq_ok.mp hresult
  obtain ⟨other, hother, hsame⟩ := h value hvalue
  obtain ⟨result', hresult', hafter⟩ := hnext value other hsame result hresult
  exact ⟨result', bind_eq_ok.mpr ⟨other, hother, hresult'⟩, hafter⟩

theorem Mirrors.ite {same : Left → Right → Prop} {p q : Prop} [Decidable p] [Decidable q]
    {left other : Checked Left} {right other' : Checked Right} (hiff : p ↔ q)
    (hthen : p → Mirrors same left right) (helse : ¬ p → Mirrors same other other') :
    Mirrors same (if p then left else other) (if q then right else other') := by
  by_cases hp : p
  · rw [if_pos hp, if_pos (hiff.mp hp)]
    exact hthen hp
  · rw [if_neg hp, if_neg (mt hiff.mpr hp)]
    exact helse hp

end Mirrors

/-- **Unwinding.** If foreign actions leave a state the same for a user, and own actions do the same
in states that are the same for it, then a run is the same for it without the foreign actions. -/
theorem unwinding {condition : Concrete → Action → Prop} {own : Action → Bool}
    (same : Concrete → Concrete → Prop) {left right : Concrete}
    (hforeign : ∀ {left right next action}, own action = false → condition left action →
      same left right → step left action = .ok next → same next right)
    (hown : ∀ {left right action}, own action = true → condition left action →
      same left right → Mirrors same (step left action) (step right action))
    (hstart : same left right) (halong : Along step condition left actions) :
    Mirrors same (run step left actions) (run step right (actions.filter own)) := by
  induction actions generalizing left right with
  | nil => exact .ok hstart
  | cons action rest ih =>
    intro last hrun
    obtain ⟨next, hnext, hrest⟩ := run_cons_eq_ok.mp hrun
    cases haction : own action with
    | true =>
      obtain ⟨other, hother, hsame⟩ := hown haction halong.1 hstart next hnext
      obtain ⟨alone, halone, hlast⟩ := ih hsame (halong.2 next hnext) last hrest
      rw [List.filter_cons_of_pos haction]
      exact ⟨alone, run_cons_eq_ok.mpr ⟨other, hother, halone⟩, hlast⟩
    | false =>
      rw [List.filter_cons_of_neg (by simp [haction])]
      exact ih (hforeign haction halong.1 hstart hnext) (halong.2 next hnext) last hrest

end CheckedRun
