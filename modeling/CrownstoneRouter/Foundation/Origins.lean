import Mathlib.Data.List.Forall2

/-!
# Streams made of other streams

`List.SublistForall₂ made outputs inputs` says that every output is made of an input of its own, in
the order of the inputs. It is kept when an output and the input it is made of come last, when an
input comes last of which nothing is made, and when outputs are lost.
-/

universe u v

namespace List.SublistForall₂

variable {α : Type u} {β : Type v} {made other : α → β → Prop} {outputs some : List α}
  {inputs : List β}

theorem append_inputs (h : SublistForall₂ made outputs inputs) (more : List β) :
    SublistForall₂ made outputs (inputs ++ more) := by
  obtain ⟨used, hmade, hused⟩ := sublistForall₂_iff.mp h
  exact sublistForall₂_iff.mpr ⟨used, hmade, hused.trans (sublist_append_left inputs more)⟩

theorem concat (h : SublistForall₂ made outputs inputs) {output : α} {input : β}
    (hmade : made output input) :
    SublistForall₂ made (outputs ++ [output]) (inputs ++ [input]) := by
  obtain ⟨used, hall, hused⟩ := sublistForall₂_iff.mp h
  have hlast : Forall₂ made [output] [input] := .cons hmade .nil
  exact sublistForall₂_iff.mpr
    ⟨used ++ [input], rel_append hall hlast, hused.append_right [input]⟩

/-- Outputs are lost. -/
theorem of_sublist (h : SublistForall₂ made outputs inputs) (hsome : some.Sublist outputs) :
    SublistForall₂ made some inputs := by
  induction h generalizing some with
  | nil =>
    rw [sublist_nil.mp hsome]
    exact .nil
  | @cons output input outputs inputs hmade _ ih =>
    cases hsome with
    | cons _ hrest => exact .cons_right (ih hrest)
    | cons_cons _ hrest => exact .cons hmade (ih hrest)
  | cons_right _ ih => exact .cons_right (ih hsome)

/-- The same outputs in another sense, for inputs that a condition holds of. -/
theorem imp_of_mem (h : SublistForall₂ made outputs inputs)
    (himp : ∀ output, ∀ input ∈ inputs, made output input → other output input) :
    SublistForall₂ other outputs inputs := by
  induction h with
  | nil => exact .nil
  | cons hmade _ ih =>
    refine .cons (himp _ _ mem_cons_self hmade) (ih fun output input hinput ↦ ?_)
    exact himp output input (mem_cons_of_mem _ hinput)
  | cons_right _ ih =>
    refine .cons_right (ih fun output input hinput ↦ ?_)
    exact himp output input (mem_cons_of_mem _ hinput)

theorem length_le (h : SublistForall₂ made outputs inputs) : outputs.length ≤ inputs.length := by
  obtain ⟨used, hall, hused⟩ := sublistForall₂_iff.mp h
  rw [hall.length_eq]
  exact hused.length_le

end List.SublistForall₂
