import CrownstoneRouter.Drivers.Duplex

/-!
# Bursts of lines

The interrupt handler puts every completed line to the message queue. A queue that is full refuses
the line; the handler then purges the queue, as its comment says, but does not try again. The line
that did not fit is lost with the ones before it.
-/

namespace CrownstoneRouter

open CheckedMemory CheckedRun
open scoped List

/-- A line as the queue stores it. -/
abbrev StoredLine := Buffer UInt8 uartBufferSize

/-- What happens to the queue of a port: a byte is received, which may complete a line, or the UART
thread takes a line. -/
inductive LineAction
  | received (c : UInt8)
  | takeLine

/-- A port, the lines it has completed and the lines that the UART thread has taken. -/
structure LineRun where
  uart : Uart
  completed : List StoredLine
  taken : List StoredLine

namespace Uart

/-- The line that a received byte completes: it ends a line of at least one byte, or finds the
buffer full. -/
def completedLine (uart : Uart) (c : UInt8) : Option StoredLine :=
  if (c = lineFeed ∨ c = carriageReturn ∨ uart.uartBufCtr = uartBufferSize - 1) ∧
      0 < uart.uartBufCtr then
    some (uart.uartBuf.patch uart.uartBufCtr [0])
  else none

/-- One step of a port and its UART thread. -/
def lineStep (run : LineRun) : LineAction → Checked LineRun
  | .received c => do
      let (uart, _) ← run.uart.handleUartInterrupt (.received c)
      return { run with uart, completed := run.completed ++ (run.uart.completedLine c).toList }
  | .takeLine => do
      let (line, uartMsgq) ← run.uart.uartMsgq.get
      return { run with
        uart := { run.uart with uartMsgq := uartMsgq }
        taken := run.taken ++ line.toList }

/-- A line that is completed is the newest one in the queue. -/
def NewestLine (run : LineRun) : LineAction → Prop
  | .received c => ∀ line, run.uart.completedLine c = some line →
      ∃ next queued, lineStep run (.received c) = .ok next ∧
        next.uart.uartMsgq.Represents queued ∧ queued.getLast? = some line
  | .takeLine => True

/-- A line is completed only while the queue has room. -/
def HasRoom (run : LineRun) : LineAction → Prop
  | .received c => run.uart.completedLine c ≠ none →
      run.uart.uartMsgq.usedMsgs < run.uart.uartMsgq.maxMsgs
  | .takeLine => True

instance (run : LineRun) : ∀ action, Decidable (HasRoom run action)
  | .received _ => inferInstanceAs (Decidable (_ ≠ none → _ < _))
  | .takeLine => inferInstanceAs (Decidable True)

/-- What the UART thread has taken and what is queued for it are lines of the initial queue and
completed lines, in order and each at most once. -/
structure LinesKept (initial : List StoredLine) (run : LineRun) : Prop where
  maxMsgs : run.uart.uartMsgq.maxMsgs = uartBufferQueueSize
  ctr_lt : run.uart.uartBufCtr < uartBufferSize
  kept : ∃ queued, run.uart.uartMsgq.Represents queued ∧
    run.taken ++ queued <+ initial ++ run.completed

variable {initial : List StoredLine} {run : LineRun}

/-! ## Steps -/

/-- A byte that completes no line leaves the queue alone. -/
theorem LinesKept.received_of_none (h : LinesKept initial run) {c : UInt8}
    (hline : run.uart.completedLine c = none) :
    ∃ next, lineStep run (.received c) = .ok next ∧ LinesKept initial next := by
  have hinside : ¬ ((c = lineFeed ∨ c = carriageReturn ∨
      run.uart.uartBufCtr = uartBufferSize - 1) ∧ 0 < run.uart.uartBufCtr) := by
    intro hboth
    rw [completedLine, if_pos hboth] at hline
    cases hline
  by_cases hend : c = lineFeed ∨ c = carriageReturn ∨ run.uart.uartBufCtr = uartBufferSize - 1
  · have hreceive := receiveByte_of_first hend fun hctr ↦ hinside ⟨hend, hctr⟩
    refine ⟨run, ?_, h⟩
    simp [lineStep, handleUartInterrupt_received, hreceive, hline, bind, pure, Except.pure]
  · have hreceive := receiveByte_of_char hend h.ctr_lt
    refine ⟨{ run with uart := { run.uart with
        uartBuf := run.uart.uartBuf.patch run.uart.uartBufCtr [c]
        uartBufCtr := run.uart.uartBufCtr + 1 } }, ?_, ?_⟩
    · simp [lineStep, handleUartInterrupt_received, hreceive, hline, bind, pure, Except.pure]
    · have hctr := h.ctr_lt
      simp only [not_or] at hend
      exact { h with ctr_lt := by simp only; omega }

/-- A completed line goes to the end of the queue, or empties the queue if that is full. -/
theorem LinesKept.received_of_some (h : LinesKept initial run) {queued : List StoredLine}
    (hqueued : run.uart.uartMsgq.Represents queued) {c : UInt8} {line : StoredLine}
    (hline : run.uart.completedLine c = some line) :
    ∃ next, lineStep run (.received c) = .ok next ∧
      next.uart.uartMsgq.maxMsgs = uartBufferQueueSize ∧ next.uart.uartBufCtr = 0 ∧
      next.completed = run.completed ++ [line] ∧ next.taken = run.taken ∧
      next.uart.uartMsgq.Represents
        (if run.uart.uartMsgq.usedMsgs < run.uart.uartMsgq.maxMsgs then queued ++ [line]
        else []) := by
  obtain ⟨⟨hend, hctr⟩, hvalue⟩ := Option.ite_none_right_eq_some.mp hline
  obtain ⟨uartMsgq, hreceive, hmax, hkept⟩ := receiveByte_of_end hend hctr h.ctr_lt h.maxMsgs hqueued
  rw [Option.some.inj hvalue] at hreceive hkept
  refine ⟨{ run with
    uart := { run.uart with uartBuf := line, uartMsgq, uartBufCtr := 0 }
    completed := run.completed ++ [line] }, ?_, hmax, rfl, rfl, rfl, hkept⟩
  simp [lineStep, handleUartInterrupt_received, hreceive, hline, bind, pure, Except.pure]

theorem LinesKept.received (h : LinesKept initial run) (c : UInt8) :
    ∃ next, lineStep run (.received c) = .ok next ∧ LinesKept initial next := by
  cases hline : run.uart.completedLine c with
  | none => exact h.received_of_none hline
  | some line =>
    obtain ⟨queued, hqueued, hsublist⟩ := h.kept
    obtain ⟨next, hnext, hmax, hctr, hcompleted, htaken, hkept⟩ :=
      h.received_of_some hqueued hline
    refine ⟨next, hnext, hmax, by rw [hctr]; decide, _, hkept, ?_⟩
    rw [htaken, hcompleted, ← List.append_assoc]
    split_ifs
    · rw [← List.append_assoc]
      exact hsublist.append_right [line]
    · rw [List.append_nil]
      calc
        run.taken <+ run.taken ++ queued := List.sublist_append_left _ _
        _ <+ initial ++ run.completed := hsublist
        _ <+ initial ++ run.completed ++ [line] := List.sublist_append_left _ _

theorem LinesKept.takeLine (h : LinesKept initial run) :
    ∃ next, lineStep run .takeLine = .ok next ∧ LinesKept initial next := by
  obtain ⟨queued, hqueued, hsublist⟩ := h.kept
  cases queued with
  | nil =>
    refine ⟨run, ?_, h⟩
    simp [lineStep, hqueued.get_nil, bind, pure, Except.pure]
  | cons line rest =>
    obtain ⟨uartMsgq, hget, hrest, hmax, -⟩ := hqueued.get_cons
    refine ⟨{ run with
      uart := { run.uart with uartMsgq := uartMsgq }
      taken := run.taken ++ [line] }, ?_, hmax.trans h.maxMsgs, h.ctr_lt, rest, hrest, ?_⟩
    · simp [lineStep, hget, bind, pure, Except.pure]
    · rwa [List.append_assoc]

/-- No byte and no timing of the UART thread faults, reorders lines or delivers one twice. -/
theorem LinesKept.step (h : LinesKept initial run) (action : LineAction) :
    ∃ next, lineStep run action = .ok next ∧ LinesKept initial next := by
  cases action with
  | received c => exact h.received c
  | takeLine => exact h.takeLine

/-- The completed line is the newest one in the queue exactly if the queue had room for it. -/
theorem LinesKept.newestLine_iff (h : LinesKept initial run) (action : LineAction) :
    NewestLine run action ↔ HasRoom run action := by
  cases action with
  | takeLine => exact Iff.rfl
  | received c =>
    obtain ⟨messages, hmessages, -⟩ := h.kept
    constructor
    · intro hnewest hcompleted
      obtain ⟨line, hline⟩ := Option.ne_none_iff_exists'.mp hcompleted
      obtain ⟨other, queued, hother, hqueued, hlast⟩ := hnewest line hline
      obtain ⟨-, -, -, -, hkept⟩ := of_returns (h.received_of_some hmessages hline) hother
      by_contra hfull
      rw [if_neg hfull] at hkept
      have hempty : queued.length = 0 := hqueued.used.symm.trans hkept.used
      rw [List.length_eq_zero_iff.mp hempty] at hlast
      cases hlast
    · intro hroom line hline
      obtain ⟨next, hnext, -, -, -, -, hkept⟩ := h.received_of_some hmessages hline
      rw [if_pos (hroom (Option.ne_none_iff_exists'.mpr ⟨line, hline⟩))] at hkept
      exact ⟨next, _, hnext, hkept, List.getLast?_concat⟩

/-! ## Bursts -/

/-- A port whose queue holds some lines, before any line has been completed or taken. -/
structure HoldsLines (run : LineRun) (initial : List StoredLine) : Prop where
  maxMsgs : run.uart.uartMsgq.maxMsgs = uartBufferQueueSize
  ctr_lt : run.uart.uartBufCtr < uartBufferSize
  queued : run.uart.uartMsgq.Represents initial
  completed : run.completed = []
  taken : run.taken = []

theorem HoldsLines.kept (h : HoldsLines run initial) : LinesKept initial run where
  maxMsgs := h.maxMsgs
  ctr_lt := h.ctr_lt
  kept := ⟨initial, h.queued, by rw [h.taken, h.completed, List.append_nil]; rfl⟩

theorem HoldsLines.newestLine_iff (h : HoldsLines run initial) {actions : List LineAction} :
    Along lineStep NewestLine run actions ↔ Along lineStep HasRoom run actions := by
  apply along_congr (fun hkept _ ↦ hkept.newestLine_iff _) _ h.kept along_true
  intro state action next hkept _ _ hnext
  exact of_returns (hkept.step action) hnext

theorem HoldsLines.taken_sublist (h : HoldsLines run initial) (actions : List LineAction) :
    ∃ last, CheckedRun.run lineStep run actions = .ok last ∧
      last.taken <+ initial ++ last.completed := by
  obtain ⟨last, hlast, hkept⟩ := run_returns_along (LinesKept initial)
    (fun hkept _ ↦ hkept.step _) h.kept (along_true : Along lineStep _ run actions)
  obtain ⟨queued, -, hsublist⟩ := hkept.kept
  exact ⟨last, hlast, (List.sublist_append_left _ _).trans hsublist⟩

/-- The thread takes lines in order and without duplicates in every run. Every completed line is the
newest one in the queue exactly if the queue has room whenever a line is completed. -/
theorem newest_line_kept_iff (hstart : HoldsLines run initial) (actions : List LineAction) :
    (Along lineStep NewestLine run actions ∧
      ∃ last, CheckedRun.run lineStep run actions = .ok last ∧
        last.taken <+ initial ++ last.completed) ↔
      Along lineStep HasRoom run actions := by
  rw [and_iff_left (hstart.taken_sublist actions)]
  exact hstart.newestLine_iff

/-- The RS485 port before it has received anything. -/
def rs485Lines : LineRun where
  uart := rs485Port.uart
  completed := []
  taken := []

theorem holdsLines_rs485Lines : HoldsLines rs485Lines [] where
  maxMsgs := rfl
  ctr_lt := by decide
  queued := RingQueue.represents_init _ (by decide)
  completed := rfl
  taken := rfl

/-- Three lines, of which the thread takes one before the last one is completed. -/
theorem newest_line_kept_of_pause :
    Along lineStep NewestLine rs485Lines
        [.received 0x61, .received lineFeed, .received 0x62, .received lineFeed, .takeLine,
          .received 0x63, .received lineFeed] ∧
      ∃ last, CheckedRun.run lineStep rs485Lines
        [.received 0x61, .received lineFeed, .received 0x62, .received lineFeed, .takeLine,
          .received 0x63, .received lineFeed] = .ok last ∧
        last.taken <+ [] ++ last.completed :=
  (newest_line_kept_iff holdsLines_rs485Lines _).mpr (by decide +kernel)

/-- Three lines in a row: the queue is purged and the third line is lost with the others. -/
theorem newest_line_lost_in_burst :
    ¬ Along lineStep NewestLine rs485Lines
      [.received 0x61, .received lineFeed, .received 0x62, .received lineFeed, .received 0x63,
        .received lineFeed] := by
  rw [holdsLines_rs485Lines.newestLine_iff]
  decide +kernel

end Uart

end CrownstoneRouter
