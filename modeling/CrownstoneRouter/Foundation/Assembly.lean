import Mathlib.Data.List.Basic
import Mathlib.Tactic.SplitIfs

/-!
# Assembling chunks within a bound

Chunks are put one behind the other as long as the whole does not exceed a bound. The first chunk
that would exceed it ends the assembly, and what has been collected by then is left.
-/

universe u

namespace Assembly

variable {α : Type u} {bound : ℕ} {content chunk : List α} {chunks rest : List (List α)}

/-- What has been collected when a chunk does not fit, or else when all chunks have been taken. -/
def collected (bound : ℕ) : List α → List (List α) → List α
  | content, [] => content
  | content, chunk :: rest =>
      if content.length + chunk.length ≤ bound then collected bound (content ++ chunk) rest
      else content

/-- The first chunk that is not empty exceeds the bound alone. -/
def FirstTooLong (bound : ℕ) (chunks : List (List α)) : Prop :=
  ∃ chunk ∈ chunks.find? (fun chunk ↦ !chunk.isEmpty), bound < chunk.length

instance (bound : ℕ) (chunks : List (List α)) : Decidable (FirstTooLong bound chunks) :=
  match h : chunks.find? (fun chunk ↦ !chunk.isEmpty) with
  | none => isFalse (by simp [FirstTooLong, h])
  | some chunk => decidable_of_iff (bound < chunk.length) (by simp [FirstTooLong, h])

@[simp]
theorem collected_nil : collected bound content [] = content := rfl

theorem collected_cons_of_fits (h : content.length + chunk.length ≤ bound) :
    collected bound content (chunk :: rest) = collected bound (content ++ chunk) rest :=
  if_pos h

theorem collected_cons_of_not_fits (h : ¬ content.length + chunk.length ≤ bound) :
    collected bound content (chunk :: rest) = content :=
  if_neg h

theorem prefix_collected : content <+: collected bound content chunks := by
  induction chunks generalizing content with
  | nil => exact List.prefix_refl content
  | cons chunk rest ih =>
    by_cases hfits : content.length + chunk.length ≤ bound
    · rw [collected_cons_of_fits hfits]
      exact (List.prefix_append content chunk).trans ih
    · exact (collected_cons_of_not_fits hfits).symm ▸ List.prefix_refl content

theorem lt_length_of_firstTooLong (h : FirstTooLong bound chunks) :
    bound < chunks.flatten.length := by
  obtain ⟨chunk, hfound, hlong⟩ := h
  have hmem := List.mem_of_find?_eq_some (Option.mem_def.mp hfound)
  exact Nat.lt_of_lt_of_le hlong (List.sublist_flatten_of_mem hmem).length_le

/-- Nothing is collected of chunks that are all empty, and of those of which the first other one is
too long. -/
theorem collected_eq_nil_iff :
    collected bound [] chunks = [] ↔ chunks.flatten = [] ∨ FirstTooLong bound chunks := by
  induction chunks with
  | nil => simp
  | cons chunk rest ih =>
    cases chunk with
    | nil =>
      have hempty : ([] : List α).length + ([] : List α).length ≤ bound := Nat.zero_le bound
      rw [collected_cons_of_fits hempty]
      simpa [FirstTooLong] using ih
    | cons value chunk =>
      have hfirst : FirstTooLong bound ((value :: chunk) :: rest) ↔
          bound < (value :: chunk).length := by simp [FirstTooLong]
      rw [hfirst]
      by_cases hfits : ([] : List α).length + (value :: chunk).length ≤ bound
      · have hprefix : value :: chunk <+: collected bound ([] ++ value :: chunk) rest :=
          prefix_collected
        rw [collected_cons_of_fits hfits]
        refine iff_of_false (fun hnil ↦ ?_) ?_
        · rw [hnil, List.prefix_nil] at hprefix
          cases hprefix
        · simpa using hfits
      · rw [collected_cons_of_not_fits hfits]
        exact iff_of_true rfl (.inr (by simpa using hfits))

end Assembly
