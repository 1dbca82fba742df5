import Mathlib.Data.List.Induction

/-!
# Lines of a stream

A stream in which some elements end lines is cut into the lines that have ended and the one that has
not. A receiver may hand over a line in one piece or in several; `InPieces` says that the pieces
are those of the lines, one line after the other, and that nothing else is missing than the part of
the unfinished line that the receiver still holds.
-/

universe u

/-- The lines that have ended, and the one that has not. -/
structure Lines (α : Type u) where
  ended : List (List α)
  unfinished : List α

namespace Lines

variable {α : Type u} (isEnd : α → Bool)

def start : Lines α where
  ended := []
  unfinished := []

def push (lines : Lines α) (element : α) : Lines α :=
  if isEnd element then { ended := lines.ended ++ [lines.unfinished], unfinished := [] }
  else { lines with unfinished := lines.unfinished ++ [element] }

def ofStream (stream : List α) : Lines α := stream.foldl (push isEnd) start

def content (lines : Lines α) : List α := lines.ended.flatten ++ lines.unfinished

/-- Consecutive non-empty pieces of the lines, the last ones of the unfinished line, up to `rest`. -/
structure InPieces (lines : Lines α) (pieces : List (List α)) (rest : List α) : Prop where
  cut : ∃ (parts : List (List (List α))) (last : List (List α)),
    pieces = parts.flatten ++ last ∧ parts.map List.flatten = lines.ended ∧
    last.flatten ++ rest = lines.unfinished
  nonempty : ∀ piece ∈ pieces, piece ≠ []

variable {isEnd} {lines : Lines α} {element : α}

@[simp]
theorem ofStream_concat (stream : List α) (element : α) :
    ofStream isEnd (stream ++ [element]) = (ofStream isEnd stream).push isEnd element := by
  simp [ofStream]

theorem push_of_end (h : isEnd element) (lines : Lines α) :
    lines.push isEnd element =
      { ended := lines.ended ++ [lines.unfinished], unfinished := [] } :=
  if_pos h

theorem push_of_not_end (h : ¬ isEnd element) (lines : Lines α) :
    lines.push isEnd element = { lines with unfinished := lines.unfinished ++ [element] } :=
  if_neg h

theorem content_push_of_end (h : isEnd element) (lines : Lines α) :
    (lines.push isEnd element).content = lines.content := by
  rw [push_of_end h]
  simp [content]

theorem content_push_of_not_end (h : ¬ isEnd element) (lines : Lines α) :
    (lines.push isEnd element).content = lines.content ++ [element] := by
  rw [push_of_not_end h]
  simp [content]

/-- The lines together are the stream without the ends of lines. -/
theorem content_ofStream (stream : List α) :
    (ofStream isEnd stream).content = stream.filter fun element ↦ !isEnd element := by
  induction stream using List.reverseRecOn with
  | nil => rfl
  | append_singleton stream element ih =>
    rw [ofStream_concat, List.filter_append, ← ih]
    by_cases hend : isEnd element
    · rw [content_push_of_end hend]
      simp [hend]
    · rw [content_push_of_not_end hend]
      simp [hend]

theorem InPieces.flatten_append {pieces : List (List α)} {rest : List α}
    (h : lines.InPieces pieces rest) : pieces.flatten ++ rest = lines.content := by
  obtain ⟨parts, last, hpieces, hended, hunfinished⟩ := h.cut
  calc
    pieces.flatten ++ rest = parts.flatten.flatten ++ (last.flatten ++ rest) := by
      rw [hpieces, List.flatten_append, List.append_assoc]
    _ = lines.content := by
      rw [hunfinished, List.flatten_flatten, hended, content]

/-- The lines themselves, without the empty ones. -/
theorem inPieces_ended [DecidableEq α] (lines : Lines α) :
    lines.InPieces (lines.ended.filter (· ≠ [])) lines.unfinished where
  cut := by
    refine ⟨lines.ended.map fun line ↦ [line].filter (· ≠ []), [], ?_, ?_, rfl⟩
    · rw [List.append_nil]
      induction lines.ended with
      | nil => rfl
      | cons line rest ih =>
        rw [List.map_cons, List.flatten_cons, ← ih, ← List.filter_append, List.singleton_append]
    · rw [List.map_map]
      apply List.map_id''
      intro line
      by_cases hline : line = []
      · simp [hline]
      · simp [hline]
  nonempty := by
    intro piece hpiece
    simpa using (List.mem_filter.mp hpiece).2

end Lines
