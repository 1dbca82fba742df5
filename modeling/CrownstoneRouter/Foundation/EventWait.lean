import Mathlib.Data.Int.Order.Basic
import Mathlib.Tactic.SplitIfs

/-!
# Waiting for an event

A wait ends as soon as its event is set, or else when its time is over; without a limit it goes on
until the event is set. `poll` is the state of a wait at one moment, and `outcome` is how the wait
for an event ends that is set once and stays set.
-/

namespace EventWait

/-- A timeout in milliseconds, where -1 stands for no limit. -/
def ofMs (ms : ℤ) : Option ℕ :=
  if ms = -1 then none else some ms.toNat

/-- The state of a wait: the event has been seen, the time is over, or the wait goes on. -/
def poll (set : Bool) (timeout : Option ℕ) (waited : ℕ) : Option Bool :=
  if set then some true
  else
    match timeout with
    | some limit => if limit ≤ waited then some false else none
    | none => none

/-- The event that is set after some delay, or never, at one moment. -/
def isSet (delay : Option ℕ) (waited : ℕ) : Bool :=
  delay.any fun delay ↦ decide (delay ≤ waited)

/-- How the wait for this event ends, if it ends. -/
def outcome (timeout delay : Option ℕ) : Option Bool :=
  match delay, timeout with
  | some delay, some limit => some (decide (delay ≤ limit))
  | some _, none => some true
  | none, some _ => some false
  | none, none => none

variable {set seen : Bool} {timeout delay : Option ℕ} {waited : ℕ}

@[simp]
theorem poll_of_set : poll true timeout waited = some true := rfl

theorem set_of_poll (h : poll set timeout waited = some true) : set = true := by
  cases set with
  | true => rfl
  | false =>
    cases timeout with
    | none => cases h
    | some limit =>
      simp only [poll, Bool.false_eq_true, if_false] at h
      split_ifs at h
      cases h

/-- The outcome of a wait is its first state that is not to go on. -/
theorem outcome_eq_some_iff :
    outcome timeout delay = some seen ↔
      ∃ waited, poll (isSet delay waited) timeout waited = some seen ∧
        ∀ earlier < waited, poll (isSet delay earlier) timeout earlier = none := by
  cases delay with
  | none =>
    cases timeout with
    | none => simp [outcome, poll, isSet]
    | some limit =>
      simp only [outcome, poll, isSet, Option.any_none, Bool.false_eq_true, if_false]
      constructor
      · intro h
        cases h
        exact ⟨limit, if_pos (Nat.le_refl _), fun earlier hearlier ↦ if_neg (Nat.not_le.mpr hearlier)⟩
      · rintro ⟨waited, hwaited, -⟩
        split_ifs at hwaited
        exact hwaited
  | some delay =>
    cases timeout with
    | none =>
      simp only [outcome, poll, isSet, Option.any_some, decide_eq_true_eq]
      constructor
      · intro h
        cases h
        exact ⟨delay, if_pos (Nat.le_refl _), fun earlier hearlier ↦ if_neg (Nat.not_le.mpr hearlier)⟩
      · rintro ⟨waited, hwaited, -⟩
        split_ifs at hwaited
        exact hwaited
    | some limit =>
      simp only [outcome, poll, isSet, Option.any_some, decide_eq_true_eq]
      constructor
      · intro h
        by_cases hdelay : delay ≤ limit
        · rw [decide_eq_true hdelay] at h
          refine ⟨delay, (if_pos (Nat.le_refl _)).trans h, fun earlier hearlier ↦ ?_⟩
          have hlimit : ¬ limit ≤ earlier := Nat.not_le.mpr (Nat.lt_of_lt_of_le hearlier hdelay)
          rw [if_neg (Nat.not_le.mpr hearlier), if_neg hlimit]
        · rw [decide_eq_false hdelay] at h
          refine ⟨limit, by rwa [if_neg hdelay, if_pos (Nat.le_refl _)], fun earlier hearlier ↦ ?_⟩
          have hset : ¬ delay ≤ earlier := by omega
          rw [if_neg hset, if_neg (Nat.not_le.mpr hearlier)]
      · rintro ⟨waited, hwaited, hearlier⟩
        split_ifs at hwaited with hset hover
        · rw [← hwaited, Option.some.injEq, decide_eq_true_eq]
          by_contra hdelay
          have hlimit := hearlier limit (by omega)
          rw [if_neg hdelay, if_pos (Nat.le_refl _)] at hlimit
          cases hlimit
        · rw [← hwaited, Option.some.injEq, decide_eq_false_iff_not]
          omega

end EventWait
