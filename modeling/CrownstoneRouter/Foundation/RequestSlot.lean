import Mathlib.Data.List.Induction
import Mathlib.Tactic.SplitIfs

/-!
# One overwritable slot for the pending request

A responder that remembers the request to answer in a single slot: a command overwrites the slot
with its label (`none` for a command that wants no labelled answer), and an answer carries the
label found in the slot and empties it. Two questions about a run are settled here over arbitrary
labels. The labels of answers are never invented: each one is that of the last command, and no
label is answered more often than it was commanded. And answers carry the labels of the commands
they belong to if commands are only given while every earlier one has been answered, or while
neither they nor the unanswered ones carry a label; for a log in which everything is answered in the
end, only then.
-/

universe u

namespace RequestSlot

/-- What reaches the responder. -/
inductive Op (Label : Type u)
  | command (label : Option Label)
  | reply
  deriving DecidableEq

/-- What is seen of a run: the commands and the labels of the answers. -/
inductive Entry (Label : Type u)
  | command (label : Option Label)
  | answer (label : Option Label)
  deriving DecidableEq

variable {Label : Type u}

/-- The slot after an operation, whatever it held before. -/
def next : Op Label → Option Label
  | .command label => label
  | .reply => none

def entry (slot : Option Label) : Op Label → Entry Label
  | .command label => .command label
  | .reply => .answer slot

def log : Option Label → List (Op Label) → List (Entry Label)
  | _, [] => []
  | slot, op :: rest => entry slot op :: log (next op) rest

/-- The slot that a log leaves behind. -/
def slotAfter (slot : Option Label) (entries : List (Entry Label)) : Option Label :=
  entries.foldl (fun _ entry ↦
    match entry with
    | .command label => label
    | .answer _ => none) slot

/-- Any part of a log is the log of a run from the slot left by what comes before it. -/
theorem log_eq_append {slot : Option Label} {ops : List (Op Label)}
    {before after : List (Entry Label)} (h : log slot ops = before ++ after) :
    ∃ tail, after = log (slotAfter slot before) tail := by
  induction before generalizing slot ops with
  | nil => exact ⟨ops, h.symm⟩
  | cons first before ih =>
    cases ops with
    | nil => simp [log] at h
    | cons op ops =>
      obtain ⟨hfirst, hrest⟩ := List.cons.inj h
      obtain ⟨tail, htail⟩ := ih hrest
      refine ⟨tail, ?_⟩
      cases op <;> simpa [← hfirst, slotAfter, next, entry] using htail

/-- An answer carries the label that the log before it leaves in the slot. -/
theorem answer_eq_slotAfter {slot label : Option Label} {ops : List (Op Label)}
    {before after : List (Entry Label)} (h : log slot ops = before ++ .answer label :: after) :
    label = slotAfter slot before := by
  obtain ⟨tail, htail⟩ := log_eq_append h
  cases tail with
  | nil => simp [log] at htail
  | cons op tail =>
    cases op with
    | command other => simp [log, entry] at htail
    | reply =>
      simp only [log, entry, List.cons.injEq, Entry.answer.injEq] at htail
      exact htail.1

/-! ## Answers are not invented -/

/-- The label of the last command of a log, if it has any command. -/
def lastCommand (entries : List (Entry Label)) : Option (Option Label) :=
  entries.foldl (fun last entry ↦
    match entry with
    | .command label => some label
    | .answer _ => last) none

theorem lastCommand_of_slotAfter {label : Label} (entries : List (Entry Label))
    (h : slotAfter none entries = some label) : lastCommand entries = some (some label) := by
  induction entries using List.reverseRecOn with
  | nil => simp [slotAfter] at h
  | append_singleton entries last ih =>
    cases last with
    | command other => simpa [slotAfter, lastCommand] using h
    | answer other => simp [slotAfter] at h

/-- After an answer and without a labelled command the slot stays empty. -/
theorem slotAfter_eq_none {slot : Option Label} {entries : List (Entry Label)} (hslot : slot = none)
    (h : ∀ label, .command (some label) ∉ entries) : slotAfter slot entries = none := by
  induction entries generalizing slot with
  | nil => exact hslot
  | cons first entries ih =>
    have hrest : ∀ label, .command (some label) ∉ entries := fun label hmem ↦
      h label (List.mem_cons_of_mem _ hmem)
    cases first with
    | answer other => exact ih rfl hrest
    | command other =>
      cases other with
      | none => exact ih rfl hrest
      | some label => exact absurd List.mem_cons_self (h label)

/-- A labelled answer carries the label of the last command before it. -/
theorem lastCommand_of_answer {slot : Option Label} (hslot : slot = none) {label : Label}
    {ops : List (Op Label)} {before after : List (Entry Label)}
    (h : log slot ops = before ++ .answer (some label) :: after) :
    lastCommand before = some (some label) := by
  subst hslot
  exact lastCommand_of_slotAfter before (answer_eq_slotAfter h).symm

/-- After an answer no answer carries a label before there is a labelled command. -/
theorem answer_eq_none {slot answered label : Option Label} {ops : List (Op Label)}
    {before between after : List (Entry Label)}
    (h : log slot ops = before ++ .answer answered :: (between ++ .answer label :: after))
    (hbetween : ∀ label, .command (some label) ∉ between) : label = none := by
  have hlog : log slot ops = (before ++ .answer answered :: between) ++ .answer label :: after := by
    simpa using h
  calc
    label = slotAfter slot (before ++ .answer answered :: between) := answer_eq_slotAfter hlog
    _ = slotAfter none between := by simp [slotAfter]
    _ = none := slotAfter_eq_none rfl hbetween

section Count

variable (wanted : Label → Bool)

/-- The number of commands whose label is wanted. -/
def commandCount (entries : List (Entry Label)) : ℕ :=
  entries.countP fun
    | .command (some label) => wanted label
    | _ => false

/-- The number of answers whose label is wanted. -/
def answerCount (entries : List (Entry Label)) : ℕ :=
  entries.countP fun
    | .answer (some label) => wanted label
    | _ => false

/-- The slot itself can account for one answer. -/
def slotCount : Option Label → ℕ
  | some label => if wanted label then 1 else 0
  | none => 0

section

variable (label : Option Label) (entries : List (Entry Label))

@[simp]
theorem commandCount_command :
    commandCount wanted (.command label :: entries) =
      commandCount wanted entries + slotCount wanted label := by
  cases label <;> simp [commandCount, slotCount, List.countP_cons]

@[simp]
theorem commandCount_answer :
    commandCount wanted (.answer label :: entries) = commandCount wanted entries := by
  simp [commandCount]

@[simp]
theorem answerCount_command :
    answerCount wanted (.command label :: entries) = answerCount wanted entries := by
  simp [answerCount]

@[simp]
theorem answerCount_answer :
    answerCount wanted (.answer label :: entries) =
      answerCount wanted entries + slotCount wanted label := by
  cases label <;> simp [answerCount, slotCount, List.countP_cons]

end

/-- No label is answered more often than it was commanded or lay in the slot at first. -/
theorem answerCount_log_le (slot : Option Label) (ops : List (Op Label)) :
    answerCount wanted (log slot ops) ≤
      commandCount wanted (log slot ops) + slotCount wanted slot := by
  induction ops generalizing slot with
  | nil => simp [log, answerCount]
  | cons op ops ih =>
    have hrest := ih (next op)
    cases op with
    | command label =>
      simp only [log, entry, next, answerCount_command, commandCount_command] at hrest ⊢
      omega
    | reply =>
      have hempty : slotCount wanted (none : Option Label) = 0 := rfl
      simp only [log, entry, next, answerCount_answer, commandCount_answer, hempty] at hrest ⊢
      omega

end Count

/-! ## Answers in order -/

/-- Read along a run with the labels of the unanswered commands in order: every reply belongs to the
oldest unanswered command. -/
def RepliesInOrder : List (Option Label) → List (Op Label) → Prop
  | _, [] => True
  | unanswered, .command label :: rest => RepliesInOrder (unanswered ++ [label]) rest
  | [], .reply :: _ => False
  | _ :: unanswered, .reply :: rest => RepliesInOrder unanswered rest

/-- Read along in the same way: every reply belongs to the oldest unanswered command, and nothing is
unanswered in the end. -/
def RepliesEach : List (Option Label) → List (Op Label) → Prop
  | unanswered, [] => unanswered = []
  | unanswered, .command label :: rest => RepliesEach (unanswered ++ [label]) rest
  | [], .reply :: _ => False
  | _ :: unanswered, .reply :: rest => RepliesEach unanswered rest

/-- Read along in the same way: a command is given only when no earlier one is unanswered, or when
neither it nor any unanswered one carries a label. -/
def OneAtATime : List (Option Label) → List (Op Label) → Prop
  | _, [] => True
  | unanswered, .command label :: rest =>
      (unanswered = [] ∨ label = none ∧ ∀ other ∈ unanswered, other = none) ∧
        OneAtATime (unanswered ++ [label]) rest
  | unanswered, .reply :: rest => OneAtATime unanswered.tail rest

/-- Read along a log in the same way: every answer carries the label of its command. -/
def AnswersMatch : List (Option Label) → List (Entry Label) → Prop
  | _, [] => True
  | unanswered, .command label :: rest => AnswersMatch (unanswered ++ [label]) rest
  | [], .answer _ :: _ => False
  | label :: unanswered, .answer answered :: rest => answered = label ∧ AnswersMatch unanswered rest

variable {slot : Option Label} {unanswered : List (Option Label)} {ops : List (Op Label)}

theorem RepliesEach.repliesInOrder (h : RepliesEach unanswered ops) :
    RepliesInOrder unanswered ops := by
  induction ops generalizing unanswered with
  | nil => trivial
  | cons op ops ih =>
    cases op with
    | command label => exact ih h
    | reply =>
      cases unanswered with
      | nil => exact h
      | cons oldest unanswered => exact ih h

/-- The slot agrees with the unanswered commands: it is empty if none of them carries a label, and
otherwise it holds the label of the only one. -/
def Agrees (slot : Option Label) (unanswered : List (Option Label)) : Prop :=
  unanswered = [slot] ∨ slot = none ∧ ∀ label ∈ unanswered, label = none

/-- Under this discipline every answer carries the label of its command. -/
theorem answersMatch_log (hagrees : Agrees slot unanswered) (horder : RepliesInOrder unanswered ops)
    (hone : OneAtATime unanswered ops) : AnswersMatch unanswered (log slot ops) := by
  induction ops generalizing slot unanswered with
  | nil => trivial
  | cons op ops ih =>
    cases op with
    | command label =>
      obtain ⟨hidle | ⟨hlabel, hunanswered⟩, hrest⟩ := hone
      · subst hidle
        exact ih (.inl rfl) horder hrest
      · refine ih (.inr ⟨hlabel, fun other hother ↦ ?_⟩) horder hrest
        rcases List.mem_append.mp hother with hmem | hmem
        · exact hunanswered other hmem
        · rw [List.mem_singleton.mp hmem, hlabel]
    | reply =>
      cases unanswered with
      | nil => exact horder
      | cons first unanswered =>
        obtain hsingle | ⟨hslot, hunanswered⟩ := hagrees
        · obtain ⟨rfl, rfl⟩ := List.cons.inj hsingle
          exact ⟨rfl, ih (.inr ⟨rfl, by simp⟩) horder hone⟩
        · have hfirst : first = none := hunanswered first List.mem_cons_self
          have htail : ∀ label ∈ unanswered, label = none := fun label hmem ↦
            hunanswered label (List.mem_cons_of_mem _ hmem)
          exact ⟨hslot.trans hfirst.symm, ih (.inr ⟨rfl, htail⟩) horder hone⟩

/-! ## Commands that mix -/

/-- Some unanswered command carries a label, and the slot is empty or holds the label of the newest
of several unanswered commands. -/
def Mixed (slot : Option Label) (unanswered : List (Option Label)) : Prop :=
  (∃ label, some label ∈ unanswered) ∧
    (slot = none ∨ ∃ oldest others, unanswered = oldest :: others ++ [slot])

/-- A command mixes with the unanswered ones if there are any and it or one of them is labelled. -/
theorem mixed_of_not_oneAtATime {label : Option Label}
    (h : ¬ (unanswered = [] ∨ label = none ∧ ∀ other ∈ unanswered, other = none)) :
    Mixed label (unanswered ++ [label]) := by
  obtain ⟨hunanswered, hlabelled⟩ := not_or.mp h
  obtain ⟨oldest, others, rfl⟩ := List.exists_cons_of_ne_nil hunanswered
  refine ⟨?_, .inr ⟨oldest, others, rfl⟩⟩
  cases label with
  | some label => exact ⟨label, by simp⟩
  | none =>
    simp only [true_and, not_forall] at hlabelled
    obtain ⟨other, hmem, hother⟩ := hlabelled
    obtain ⟨label, rfl⟩ := Option.ne_none_iff_exists'.mp hother
    exact ⟨label, List.mem_append_left _ hmem⟩

/-- Once commands have mixed, some answer does not carry the label of its command. -/
theorem not_answersMatch_of_mixed (hmixed : Mixed slot unanswered)
    (heach : RepliesEach unanswered ops) : ¬ AnswersMatch unanswered (log slot ops) := by
  induction ops generalizing slot unanswered with
  | nil =>
    obtain ⟨⟨label, hmem⟩, -⟩ := hmixed
    rw [show unanswered = [] from heach] at hmem
    simp at hmem
  | cons op ops ih =>
    obtain ⟨⟨labelled, hmem⟩, hslot⟩ := hmixed
    cases op with
    | command label =>
      obtain ⟨oldest, others, rfl⟩ := List.exists_cons_of_ne_nil (List.ne_nil_of_mem hmem)
      refine ih ?_ heach
      exact ⟨⟨labelled, List.mem_append_left _ hmem⟩, .inr ⟨oldest, others, rfl⟩⟩
    | reply =>
      cases unanswered with
      | nil => simp at hmem
      | cons first unanswered =>
        rintro ⟨rfl, hmatch⟩
        refine ih ⟨?_, .inl rfl⟩ heach hmatch
        obtain rfl | ⟨oldest, others, heq⟩ := hslot
        · exact ⟨labelled, by simpa using hmem⟩
        · -- the slot holds the label of the newest command, which is not the one just answered
          obtain ⟨rfl, rfl⟩ := List.cons.inj heq
          rcases List.mem_cons.mp hmem with heq | htail
          · exact ⟨labelled, by simp [heq]⟩
          · exact ⟨labelled, htail⟩

/-- If everything is answered in the end, answers carry the labels of their commands only under the
discipline. -/
theorem oneAtATime_of_answersMatch (heach : RepliesEach unanswered ops)
    (hmatch : AnswersMatch unanswered (log slot ops)) : OneAtATime unanswered ops := by
  induction ops generalizing slot unanswered with
  | nil => trivial
  | cons op ops ih =>
    cases op with
    | command label =>
      refine ⟨?_, ih heach hmatch⟩
      by_contra hmixed
      exact not_answersMatch_of_mixed (mixed_of_not_oneAtATime hmixed) heach hmatch
    | reply =>
      cases unanswered with
      | nil => exact heach.elim
      | cons first unanswered => exact ih heach hmatch.2

end RequestSlot
