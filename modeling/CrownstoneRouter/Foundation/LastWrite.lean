import Mathlib.Data.List.Basic
import Mathlib.Data.List.Induction
import Mathlib.Tactic.SplitIfs

/-!
# The last write wins

A variable that some of the elements of a list are written to holds, after the list, the value of
the last one of them. In a sorted list this is the greatest one.
-/

universe u v

namespace LastWrite

variable {α : Type u} {β : Type v} (writes : α → Bool) (value : α → β)

/-- The variable after the elements of a list, from what it holds before. -/
def lastWrite (start : β) (elements : List α) : β :=
  elements.foldl (fun current element ↦ if writes element then value element else current) start

variable {writes value} {start : β} {elements : List α}

@[simp]
theorem lastWrite_nil : lastWrite writes value start [] = start := rfl

@[simp]
theorem lastWrite_cons (element : α) :
    lastWrite writes value start (element :: elements) =
      lastWrite writes value (if writes element then value element else start) elements := rfl

theorem lastWrite_concat (element : α) :
    lastWrite writes value start (elements ++ [element]) =
      if writes element then value element else lastWrite writes value start elements :=
  List.foldl_concat ..

/-- Either no element is written, or the last one of those that are is what the variable holds. -/
theorem lastWrite_cases {before : α → α → Prop} (hsorted : elements.Pairwise before) :
    ((∀ element ∈ elements, writes element = false) ∧
      lastWrite writes value start elements = start) ∨
    ∃ last ∈ elements, writes last = true ∧
      (∀ element ∈ elements, writes element = true → element = last ∨ before element last) ∧
      lastWrite writes value start elements = value last := by
  induction elements using List.reverseRecOn with
  | nil => exact .inl ⟨by simp, rfl⟩
  | append_singleton elements element ih =>
    obtain ⟨hfront, -, hlast⟩ := List.pairwise_append.mp hsorted
    rw [lastWrite_concat]
    cases hwrites : writes element with
    | true =>
      refine .inr ⟨element, by simp, hwrites, fun other hother _ ↦ ?_, rfl⟩
      rcases List.mem_append.mp hother with hother | hother
      · exact .inr (hlast other hother element (List.mem_singleton_self element))
      · exact .inl (List.mem_singleton.mp hother)
    | false =>
      rcases ih hfront with ⟨hnone, hstart⟩ | ⟨last, hmem, hwritten, hgreatest, hvalue⟩
      · refine .inl ⟨fun other hother ↦ ?_, hstart⟩
        rcases List.mem_append.mp hother with hother | hother
        · exact hnone other hother
        · rwa [List.mem_singleton.mp hother]
      · refine .inr ⟨last, List.mem_append_left _ hmem, hwritten, fun other hother hw ↦ ?_, hvalue⟩
        rcases List.mem_append.mp hother with hother | hother
        · exact hgreatest other hother hw
        · rw [List.mem_singleton.mp hother, hwrites] at hw
          cases hw

/-- The variable holds the value of an element that is written exactly if this is the last one,
where no other one has the same value. -/
theorem lastWrite_eq_iff {before : α → α → Prop} (hsorted : elements.Pairwise before)
    (hasymm : ∀ {first second}, before first second → ¬ before second first) {target : α}
    (hmem : target ∈ elements) (hwrites : writes target = true)
    (hvalue : ∀ other ∈ elements, writes other = true → value other = value target →
      other = target) :
    lastWrite writes value start elements = value target ↔
      ∀ other ∈ elements, writes other = true → other = target ∨ before other target := by
  rcases @lastWrite_cases α β writes value start elements before hsorted with
    ⟨hnone, -⟩ | ⟨last, hlast, hwritten, hgreatest, hresult⟩
  · rw [hnone target hmem] at hwrites
    cases hwrites
  · constructor
    · intro hheld
      obtain rfl : last = target := hvalue last hlast hwritten (hresult.symm.trans hheld)
      exact hgreatest
    · intro hall
      rcases hgreatest target hmem hwrites with rfl | hbefore
      · exact hresult
      · rcases hall last hlast hwritten with rfl | hafter
        · exact hresult
        · exact absurd hafter (hasymm hbefore)

/-- The variable holds what no element has for a value exactly if it has held it before and no
element is written. -/
theorem lastWrite_eq_iff_of_forall_ne {before : α → α → Prop} (hsorted : elements.Pairwise before)
    {held : β} (hvalue : ∀ other ∈ elements, writes other = true → value other ≠ held) :
    lastWrite writes value start elements = held ↔
      (∀ element ∈ elements, writes element = false) ∧ start = held := by
  rcases @lastWrite_cases α β writes value start elements before hsorted with
    ⟨hnone, hresult⟩ | ⟨last, hlast, hwritten, -, hresult⟩
  · rw [hresult]
    exact ⟨fun hheld ↦ ⟨hnone, hheld⟩, fun h ↦ h.2⟩
  · constructor
    · exact fun hheld ↦ absurd (hresult.symm.trans hheld) (hvalue last hlast hwritten)
    · intro h
      rw [h.1 last hlast] at hwritten
      cases hwritten

end LastWrite
