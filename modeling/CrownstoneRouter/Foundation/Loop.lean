import CrownstoneRouter.Foundation.Memory

/-!
# Loops with a counted body

A loop whose body may depend on how often it has run is iterated a given number of times; a loop
that has ended lets its body do nothing. Two rules: an invariant that keeps the body from faulting,
and a ranking rule for bodies that may idle for a while before every round makes progress.
-/

universe u

namespace CheckedLoop

open CheckedMemory

variable {State : Type u} (body : ℕ → State → Checked State)

def iterate (state : State) : ℕ → Checked State
  | 0 => .ok state
  | count + 1 => (iterate state count).bind (body count)

variable {body} {state : State} {holds : State → Prop}

@[simp]
theorem iterate_zero : iterate body state 0 = .ok state := rfl

theorem iterate_succ_of_eq_ok {count : ℕ} {last : State}
    (h : iterate body state count = .ok last) :
    iterate body state (count + 1) = body count last := by
  rw [iterate, h, bind_ok]

/-- A loop whose body returns and keeps an invariant never faults. -/
theorem iterate_returns
    (hbody : ∀ {count state}, holds state → ∃ next, body count state = .ok next ∧ holds next)
    (hstart : holds state) (count : ℕ) :
    ∃ last, iterate body state count = .ok last ∧ holds last := by
  induction count with
  | zero => exact ⟨state, rfl, hstart⟩
  | succ count ih =>
    obtain ⟨last, hlast, hholds⟩ := ih
    obtain ⟨next, hnext, hkept⟩ := hbody hholds
    exact ⟨next, (iterate_succ_of_eq_ok hlast).trans hnext, hkept⟩

/-- If from some round on every round either ends the loop or makes progress, and progress is
bounded, the loop ends. -/
theorem iterate_reaches {done : State → Prop} (progress : State → ℕ) {patience limit : ℕ}
    (hbody : ∀ {count state}, holds state → ∃ next, body count state = .ok next ∧ holds next)
    (hprogress : ∀ {count state next}, patience ≤ count → holds state →
      body count state = .ok next → done next ∨ progress state < progress next)
    (hlimit : ∀ {state}, holds state → progress state ≤ limit) (hstart : holds state) :
    ∃ count last, iterate body state count = .ok last ∧ done last := by
  by_contra hnever
  have hrank : ∀ rounds, ∃ last, iterate body state (patience + rounds) = .ok last ∧ holds last ∧
      rounds ≤ progress last := by
    intro rounds
    induction rounds with
    | zero =>
      obtain ⟨last, hlast, hholds⟩ := iterate_returns hbody hstart patience
      exact ⟨last, hlast, hholds, Nat.zero_le _⟩
    | succ rounds ih =>
      obtain ⟨last, hlast, hholds, hrounds⟩ := ih
      obtain ⟨next, hnext, hkept⟩ := hbody hholds
      have hreached := (iterate_succ_of_eq_ok hlast).trans hnext
      refine ⟨next, hreached, hkept, ?_⟩
      rcases hprogress (Nat.le_add_right patience rounds) hholds hnext with hdone | hlt
      · exact absurd ⟨_, next, hreached, hdone⟩ hnever
      · omega
  obtain ⟨last, -, hholds, hrounds⟩ := hrank (limit + 1)
  have hle := hlimit hholds
  omega

end CheckedLoop
