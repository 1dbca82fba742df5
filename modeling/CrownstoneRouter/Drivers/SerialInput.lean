import CrownstoneRouter.Drivers.LineQueue
import CrownstoneRouter.Foundation.Lines

/-!
# Serial input

The interrupt handler collects a line until it ends or the buffer of 256 bytes is full, and the UART
thread makes one packet of at most 250 bytes of what has been collected. Both limits lose bytes: the
byte that finds the buffer full is dropped, and the end of a line that does not fit a packet is cut
off.
-/

namespace CrownstoneRouter

open CheckedMemory CheckedRun

def isLineEnd (c : UInt8) : Bool := c = lineFeed ∨ c = carriageReturn

/-- What happens at a port without transmission: a byte is received, or the UART thread looks for a
message, with the packet handler as it is then. -/
inductive SerialAction
  | received (c : UInt8)
  | handleMessages (pkth : PacketHandler)

/-- A port, the bytes it has received and the packets it has handed to the packet handler. -/
structure SerialRun where
  uart : Uart
  stream : List UInt8
  handed : List PacketData

/-- Every line fits a packet, and the unfinished one the buffer. -/
def LinesFit (lines : Lines UInt8) : Prop :=
  (∀ line ∈ lines.ended, line.length ≤ packetBufSize) ∧ lines.unfinished.length < uartBufferSize

instance (lines : Lines UInt8) : Decidable (LinesFit lines) :=
  inferInstanceAs (Decidable (_ ∧ _))

namespace Uart

/-- What the buffer holds of the unfinished line. -/
def buffered (uart : Uart) : List UInt8 := uart.uartBuf.slice 0 uart.uartBufCtr

/-- One step of a port without transmission. -/
def serialStep (run : SerialRun) : SerialAction → Checked SerialRun
  | .received c => do
      let (uart, _) ← run.uart.handleUartInterrupt (.received c)
      return { run with uart, stream := run.stream ++ [c] }
  | .handleMessages pkth => do
      let (uart, _, handed) ← run.uart.handleUartMessages pkth
      return { run with uart, handed := run.handed ++ handed.toList }

/-- No byte is NUL, and the queue has room for every line that is completed. -/
def DrainedInTime (run : SerialRun) : SerialAction → Prop
  | .received c => c ≠ 0 ∧ (run.uart.completedLine c ≠ none →
      run.uart.uartMsgq.usedMsgs < run.uart.uartMsgq.maxMsgs)
  | .handleMessages _ => True

instance (run : SerialRun) : ∀ action, Decidable (DrainedInTime run action)
  | .received _ => inferInstanceAs (Decidable (_ ≠ _ ∧ (_ ≠ none → _ < _)))
  | .handleMessages _ => inferInstanceAs (Decidable True)

/-- The payloads of the packets that have been handed to the packet handler, followed by those of
the lines that are still in the queue. -/
def payloads (run : SerialRun) (queued : List StoredLine) : List (List UInt8) :=
  run.handed.map (fun data ↦ data.msg.contents) ++ queued.map messageText

/-- The payloads, followed by what is buffered, are the stream without its line ends. They are
pieces of its lines, in order, and an empty line gives none. -/
structure Forwarded (run : SerialRun) (queued : List StoredLine) : Prop where
  whole : (payloads run queued).flatten ++ run.uart.buffered =
    run.stream.filter fun c ↦ !isLineEnd c
  inPieces : (Lines.ofStream isLineEnd run.stream).InPieces (payloads run queued) run.uart.buffered

/-! ## Collected lines -/

/-- What has become of some lines: one payload for each that is not empty, as long as they fit. Once
one did not fit, less than the lines hold. -/
structure Collected (lines : Lines UInt8) (payloads : List (List UInt8)) (buffered : List UInt8) :
    Prop where
  whole : LinesFit lines → payloads = lines.ended.filter (· ≠ []) ∧ buffered = lines.unfinished
  lossy : ¬ LinesFit lines → (payloads.flatten ++ buffered).length < lines.content.length

section Collected

variable {lines : Lines UInt8} {payloads : List (List UInt8)} {buffered : List UInt8} {c : UInt8}

theorem collected_start : Collected .start [] [] where
  whole := fun _ ↦ ⟨rfl, rfl⟩
  lossy := fun h ↦ absurd (by decide) h

theorem Collected.length_le (h : Collected lines payloads buffered) :
    (payloads.flatten ++ buffered).length ≤ lines.content.length := by
  by_cases hfit : LinesFit lines
  · obtain ⟨hpayloads, hbuffered⟩ := h.whole hfit
    rw [hpayloads, hbuffered, lines.inPieces_ended.flatten_append]
  · exact (h.lossy hfit).le

theorem linesFit_push_of_end (hend : isLineEnd c) :
    LinesFit (lines.push isLineEnd c) ↔
      LinesFit lines ∧ lines.unfinished.length ≤ packetBufSize := by
  have hsizes : packetBufSize < uartBufferSize := by decide
  simp only [LinesFit, Lines.push_of_end hend, List.forall_mem_append, List.forall_mem_singleton,
    List.length_nil]
  constructor
  · rintro ⟨⟨hended, hlast⟩, -⟩
    exact ⟨⟨hended, hlast.trans_lt hsizes⟩, hlast⟩
  · rintro ⟨⟨hended, -⟩, hlast⟩
    exact ⟨⟨hended, hlast⟩, by decide⟩

theorem linesFit_push_of_not_end (hchar : ¬ isLineEnd c) :
    LinesFit (lines.push isLineEnd c) ↔
      LinesFit lines ∧ lines.unfinished.length < uartBufferSize - 1 := by
  simp only [LinesFit, Lines.push_of_not_end hchar, List.length_append, List.length_singleton]
  constructor
  · rintro ⟨hended, hlast⟩
    exact ⟨⟨hended, by omega⟩, by omega⟩
  · rintro ⟨⟨hended, -⟩, hlast⟩
    exact ⟨hended, by omega⟩

/-- A line end that comes first in a line. -/
theorem Collected.push_first (h : Collected lines payloads []) (hend : isLineEnd c) :
    Collected (lines.push isLineEnd c) payloads [] where
  whole := by
    intro hfit
    obtain ⟨hpayloads, hunfinished⟩ := h.whole ((linesFit_push_of_end hend).mp hfit).1
    rw [Lines.push_of_end hend, ← hunfinished, hpayloads]
    simp
  lossy := by
    intro hfit
    rw [Lines.content_push_of_end hend]
    apply h.lossy
    intro hbefore
    have hempty : lines.unfinished.length = 0 := by rw [← (h.whole hbefore).2]; rfl
    exact hfit ((linesFit_push_of_end hend).mpr ⟨hbefore, by omega⟩)

/-- A line end behind a line. -/
theorem Collected.push_end (h : Collected lines payloads buffered) (hend : isLineEnd c)
    (hline : buffered ≠ []) :
    Collected (lines.push isLineEnd c) (payloads ++ [buffered.take packetBufSize]) [] where
  whole := by
    intro hfit
    obtain ⟨hbefore, hlast⟩ := (linesFit_push_of_end hend).mp hfit
    obtain ⟨hpayloads, hunfinished⟩ := h.whole hbefore
    rw [← hunfinished] at hlast
    rw [Lines.push_of_end hend, ← hunfinished, hpayloads, List.take_of_length_le hlast]
    simp [hline]
  lossy := by
    intro hfit
    have hle := h.length_le
    rw [Lines.content_push_of_end hend]
    simp only [List.flatten_append, List.flatten_singleton, List.append_nil, List.length_append,
      List.length_take] at hle ⊢
    by_cases hbefore : LinesFit lines
    · have hlong : packetBufSize < buffered.length := by
        rw [(h.whole hbefore).2]
        by_contra hshort
        exact hfit ((linesFit_push_of_end hend).mpr ⟨hbefore, Nat.le_of_not_lt hshort⟩)
      omega
    · have hlost := h.lossy hbefore
      rw [List.length_append] at hlost
      omega

/-- A byte that finds the buffer full. -/
theorem Collected.push_full (h : Collected lines payloads buffered) (hchar : ¬ isLineEnd c)
    (hfull : buffered.length = uartBufferSize - 1) :
    Collected (lines.push isLineEnd c) (payloads ++ [buffered.take packetBufSize]) [] where
  whole := by
    intro hfit
    obtain ⟨hbefore, hroom⟩ := (linesFit_push_of_not_end hchar).mp hfit
    rw [← (h.whole hbefore).2, hfull] at hroom
    exact absurd hroom (lt_irrefl _)
  lossy := by
    intro _
    have hle := h.length_le
    rw [Lines.content_push_of_not_end hchar]
    simp only [List.flatten_append, List.flatten_singleton, List.append_nil, List.length_append,
      List.length_take, List.length_singleton] at hle ⊢
    omega

/-- Every other byte. -/
theorem Collected.push_char (h : Collected lines payloads buffered) (hchar : ¬ isLineEnd c)
    (hroom : buffered.length < uartBufferSize - 1) :
    Collected (lines.push isLineEnd c) payloads (buffered ++ [c]) where
  whole := by
    intro hfit
    obtain ⟨hpayloads, hunfinished⟩ := h.whole ((linesFit_push_of_not_end hchar).mp hfit).1
    rw [Lines.push_of_not_end hchar, hpayloads, hunfinished]
    exact ⟨rfl, rfl⟩
  lossy := by
    intro hfit
    have hlost := h.lossy fun hbefore ↦ hfit
      ((linesFit_push_of_not_end hchar).mpr ⟨hbefore, (h.whole hbefore).2 ▸ hroom⟩)
    rw [Lines.content_push_of_not_end hchar]
    simp only [List.length_append, List.length_singleton] at hlost ⊢
    omega

end Collected

/-! ## Reception -/

theorem takeWhile_of_slice {msgBuf : StoredLine} {line : List UInt8}
    (h : msgBuf.slice 0 (line.length + 1) = line ++ [0]) (hclean : 0 ∉ line) :
    msgBuf.cells.takeWhile (· ≠ 0) = line := by
  have hcells : msgBuf.cells = line ++ ([0] ++ msgBuf.cells.drop (line.length + 1)) := by
    rw [← List.append_assoc, ← h]
    exact (List.take_append_drop _ _).symm
  rw [hcells, takeWhile_text_append hclean]
  simp

/-- What a port keeps of the bytes it has received. -/
structure Receives (run : SerialRun) : Prop where
  hasPktHandler : run.uart.hasPktHandler = true
  maxMsgs : run.uart.uartMsgq.maxMsgs = uartBufferQueueSize
  ctr_lt : run.uart.uartBufCtr < uartBufferSize
  clean : 0 ∉ run.uart.buffered
  collected : ∃ queued, run.uart.uartMsgq.Represents queued ∧
    Collected (Lines.ofStream isLineEnd run.stream) (payloads run queued) run.uart.buffered

variable {run next : SerialRun}

theorem Receives.length_buffered (h : Receives run) :
    run.uart.buffered.length = run.uart.uartBufCtr :=
  Buffer.length_slice _ _ _ (by have hctr := h.ctr_lt; omega)

theorem Receives.takeWhile_patch (h : Receives run) :
    (run.uart.uartBuf.patch run.uart.uartBufCtr [0]).cells.takeWhile (· ≠ 0) =
      run.uart.buffered := by
  apply takeWhile_of_slice _ h.clean
  rw [h.length_buffered]
  exact Buffer.slice_patch_singleton run.uart.uartBuf h.ctr_lt 0

theorem serialStep_received {c : UInt8} {uart : Uart} (hreceive : run.uart.receiveByte c = .ok uart) :
    serialStep run (.received c) = .ok { run with uart, stream := run.stream ++ [c] } := by
  simp [serialStep, handleUartInterrupt_received, hreceive, bind, pure, Except.pure]

theorem isLineEnd_iff (c : UInt8) : isLineEnd c ↔ c = lineFeed ∨ c = carriageReturn := by
  simp [isLineEnd]

/-- A byte that comes first in a line and would end it. -/
theorem Receives.received_first (h : Receives run) {c : UInt8}
    (hend : c = lineFeed ∨ c = carriageReturn ∨ run.uart.uartBufCtr = uartBufferSize - 1)
    (hctr : ¬ 0 < run.uart.uartBufCtr) (hstep : serialStep run (.received c) = .ok next) :
    Receives next := by
  obtain ⟨queued, hqueued, hcollected⟩ := h.collected
  rw [serialStep_received (receiveByte_of_first hend hctr)] at hstep
  cases hstep
  have hzero : run.uart.uartBufCtr = 0 := Nat.eq_zero_of_not_pos hctr
  have hempty : run.uart.buffered = [] := List.length_eq_zero_iff.mp (h.length_buffered.trans hzero)
  have hlf : isLineEnd c := by
    have hsize : run.uart.uartBufCtr ≠ uartBufferSize - 1 := by
      rw [hzero]
      decide
    rw [isLineEnd_iff]
    tauto
  refine { h with collected := ⟨queued, hqueued, ?_⟩ }
  rw [hempty] at hcollected
  rw [Lines.ofStream_concat]
  change Collected _ (payloads run queued) run.uart.buffered
  rw [hempty]
  exact hcollected.push_first hlf

/-- A byte that completes a line. -/
theorem Receives.received_end (h : Receives run) {c : UInt8}
    (hend : c = lineFeed ∨ c = carriageReturn ∨ run.uart.uartBufCtr = uartBufferSize - 1)
    (hctr : 0 < run.uart.uartBufCtr) (hroom : run.uart.uartMsgq.usedMsgs < run.uart.uartMsgq.maxMsgs)
    (hstep : serialStep run (.received c) = .ok next) : Receives next := by
  obtain ⟨queued, hqueued, hcollected⟩ := h.collected
  obtain ⟨uartMsgq, hreceive, hmax, hkept⟩ :=
    receiveByte_of_end hend hctr h.ctr_lt h.maxMsgs hqueued
  rw [if_pos hroom] at hkept
  rw [serialStep_received hreceive] at hstep
  cases hstep
  have hlength := h.length_buffered
  have hline : run.uart.buffered ≠ [] := List.ne_nil_of_length_pos (hlength ▸ hctr)
  have htext : messageText (run.uart.uartBuf.patch run.uart.uartBufCtr [0]) =
      run.uart.buffered.take packetBufSize := by
    rw [messageText, h.takeWhile_patch]
  have hpayloads : payloads run (queued ++ [run.uart.uartBuf.patch run.uart.uartBufCtr [0]]) =
      payloads run queued ++ [run.uart.buffered.take packetBufSize] := by
    rw [payloads, payloads, List.map_append, List.append_assoc, ← htext]
    rfl
  refine ⟨h.hasPktHandler, hmax, Nat.zero_lt_succ 255, by simp [buffered, Buffer.slice], _, hkept, ?_⟩
  rw [Lines.ofStream_concat]
  change Collected _ (payloads run _) []
  rw [hpayloads]
  by_cases hlf : isLineEnd c
  · exact hcollected.push_end hlf hline
  · have hfull : run.uart.buffered.length = uartBufferSize - 1 := by
      rw [isLineEnd_iff] at hlf
      rw [hlength]
      tauto
    exact hcollected.push_full hlf hfull

/-- A byte that extends the line. -/
theorem Receives.received_char (h : Receives run) {c : UInt8} (hclean : c ≠ 0)
    (hchar : ¬ (c = lineFeed ∨ c = carriageReturn ∨ run.uart.uartBufCtr = uartBufferSize - 1))
    (hstep : serialStep run (.received c) = .ok next) : Receives next := by
  obtain ⟨queued, hqueued, hcollected⟩ := h.collected
  rw [serialStep_received (receiveByte_of_char hchar h.ctr_lt)] at hstep
  cases hstep
  have hbuffered := Buffer.slice_patch_singleton run.uart.uartBuf h.ctr_lt c
  have hlf : ¬ isLineEnd c := by
    rw [isLineEnd_iff]
    tauto
  have hfits : run.uart.uartBufCtr < uartBufferSize - 1 := by
    have hlt := h.ctr_lt
    simp only [not_or] at hchar
    omega
  refine ⟨h.hasPktHandler, h.maxMsgs, Nat.add_lt_of_lt_sub hfits, ?_, queued, hqueued, ?_⟩
  · rw [buffered, hbuffered]
    exact fun hzero ↦ (List.mem_append.mp hzero).elim h.clean (by simpa using hclean.symm)
  · rw [Lines.ofStream_concat]
    change Collected _ (payloads run queued) _
    rw [buffered, hbuffered]
    exact hcollected.push_char hlf (h.length_buffered ▸ hfits)

theorem Receives.received (h : Receives run) {c : UInt8}
    (hdrained : DrainedInTime run (.received c))
    (hstep : serialStep run (.received c) = .ok next) : Receives next := by
  obtain ⟨hclean, hroom⟩ := hdrained
  by_cases hend : c = lineFeed ∨ c = carriageReturn ∨ run.uart.uartBufCtr = uartBufferSize - 1
  · by_cases hctr : 0 < run.uart.uartBufCtr
    · have hcompleted : run.uart.completedLine c ≠ none := by
        rw [completedLine, if_pos ⟨hend, hctr⟩]
        exact Option.some_ne_none _
      exact h.received_end hend hctr (hroom hcompleted) hstep
    · exact h.received_first hend hctr hstep
  · exact h.received_char hclean hend hstep

/-- The UART thread hands over what it takes from the queue. -/
theorem Receives.handleMessages (h : Receives run) {pkth : PacketHandler}
    (hstep : serialStep run (.handleMessages pkth) = .ok next) : Receives next := by
  obtain ⟨queued, hqueued, hcollected⟩ := h.collected
  obtain ⟨⟨uart, after, handed⟩, hround, hnext⟩ := bind_eq_ok.mp hstep
  cases hnext
  obtain ⟨rfl, -, rfl⟩ | ⟨uartMsgq, hget, rfl, -, rfl⟩ |
    ⟨msgBuf, data, uartMsgq, threadRunning, hget, hdata, rfl, hafter⟩ :=
      handleUartMessages_cases hround
  · exact { h with collected := ⟨queued, hqueued, by simpa [payloads] using hcollected⟩ }
  · obtain ⟨hnone, -⟩ := hqueued.of_get hget
    obtain rfl : queued = [] := List.head?_eq_none_iff.mp hnone.symm
    rw [hqueued.get_nil] at hget
    cases hget
    exact { h with collected := ⟨[], hqueued, by simpa [payloads] using hcollected⟩ }
  · obtain ⟨hhead, -⟩ := hqueued.of_get hget
    obtain ⟨rest, rfl⟩ := List.head?_eq_some_iff.mp hhead.symm
    obtain ⟨other, hother, hrest, hmax, -⟩ := hqueued.get_cons
    rw [hget] at hother
    cases hother
    obtain ⟨hnone, -, -⟩ | ⟨-, -, rfl⟩ := hafter
    · rw [h.hasPktHandler] at hnone
      cases hnone
    · refine { h with maxMsgs := hmax.trans h.maxMsgs, collected := ⟨rest, hrest, ?_⟩ }
      change Collected _ (payloads _ rest) run.uart.buffered
      simpa [payloads, contents_packetOfMessage hdata] using hcollected

theorem Receives.step (h : Receives run) {action : SerialAction}
    (hdrained : DrainedInTime run action) (hstep : serialStep run action = .ok next) :
    Receives next := by
  cases action with
  | received c => exact h.received hdrained hstep
  | handleMessages pkth => exact h.handleMessages hstep

/-! ## Loss -/

/-- A port that has been initialized, before anything has happened. -/
def listeningPort (srcId destId : InstanceId) (uartBuf : StoredLine)
    (cells : Fin (uartMsgqBufSize / uartBufferSize) → Option StoredLine) : SerialRun where
  uart := Uart.initial srcId destId uartBuf cells
  stream := []
  handed := []

variable (srcId destId : InstanceId) (uartBuf : StoredLine)
  (cells : Fin (uartMsgqBufSize / uartBufferSize) → Option StoredLine)

theorem receives_listeningPort : Receives (listeningPort srcId destId uartBuf cells) where
  hasPktHandler := rfl
  maxMsgs := rfl
  ctr_lt := Nat.zero_lt_succ 255
  clean := by simp [buffered, Buffer.slice, listeningPort, initial]
  collected := ⟨[], RingQueue.represents_init cells (by decide), collected_start⟩

/-- Nothing is lost exactly if the lines fit. -/
theorem Receives.forwarded_iff (h : Receives run) {queued : List StoredLine}
    (hqueued : run.uart.uartMsgq.Represents queued) :
    Forwarded run queued ↔ LinesFit (Lines.ofStream isLineEnd run.stream) := by
  obtain ⟨messages, hmessages, hcollected⟩ := h.collected
  obtain rfl : messages = queued := hmessages.unique hqueued
  constructor
  · intro hforwarded
    by_contra hfit
    have hlost := hcollected.lossy hfit
    rw [hforwarded.whole, Lines.content_ofStream] at hlost
    exact lt_irrefl _ hlost
  · intro hfit
    obtain ⟨hpayloads, hbuffered⟩ := hcollected.whole hfit
    have hpieces := (Lines.ofStream isLineEnd run.stream).inPieces_ended
    rw [← hpayloads, ← hbuffered] at hpieces
    exact ⟨hpieces.flatten_append.trans (Lines.content_ofStream _), hpieces⟩

theorem Receives.represents_nil (h : Receives run) (hused : run.uart.uartMsgq.usedMsgs = 0) :
    run.uart.uartMsgq.Represents [] := by
  obtain ⟨queued, hqueued, -⟩ := h.collected
  obtain rfl : queued = [] := List.length_eq_zero_iff.mp (hqueued.used.symm.trans hused)
  exact hqueued

section Loss

variable {srcId destId uartBuf cells} {actions : List SerialAction} {last : SerialRun}

theorem receives_of_run
    (hdrained : Along serialStep DrainedInTime (listeningPort srcId destId uartBuf cells) actions)
    (hrun : CheckedRun.run serialStep (listeningPort srcId destId uartBuf cells) actions =
      .ok last) : Receives last :=
  run_invariant_along Receives (fun h hgiven hstep ↦ h.step hgiven hstep)
    (receives_listeningPort srcId destId uartBuf cells) hdrained hrun

/-! ## Single lines -/

/-- Bytes within a line go to the buffer. -/
theorem run_received_chars {chars : List UInt8} (hchars : ∀ c ∈ chars, c ≠ 0 ∧ ¬ isLineEnd c)
    (hfits : run.uart.uartBufCtr + chars.length < uartBufferSize) :
    Along serialStep DrainedInTime run (chars.map .received) ∧
      ∃ uartBuf, CheckedRun.run serialStep run (chars.map .received) = .ok { run with
        uart := { run.uart with uartBuf, uartBufCtr := run.uart.uartBufCtr + chars.length }
        stream := run.stream ++ chars } := by
  induction chars generalizing run with
  | nil => exact ⟨along_nil, run.uart.uartBuf, by simp⟩
  | cons c rest ih =>
    rw [List.length_cons] at hfits
    obtain ⟨⟨hclean, hlf⟩, hrest⟩ := List.forall_mem_cons.mp hchars
    have hchar : ¬ (c = lineFeed ∨ c = carriageReturn ∨
        run.uart.uartBufCtr = uartBufferSize - 1) := by
      rw [isLineEnd_iff] at hlf
      have hroom : run.uart.uartBufCtr ≠ uartBufferSize - 1 := by omega
      tauto
    have hnone : run.uart.completedLine c = none := if_neg fun hboth ↦ hchar hboth.1
    have hreceive := receiveByte_of_char hchar ((Nat.le_add_right _ _).trans_lt hfits)
    have hstep : serialStep run (.received c) = .ok _ := serialStep_received hreceive
    obtain ⟨halong, uartBuf, hrun⟩ := @ih { run with
      uart := { run.uart with
        uartBuf := run.uart.uartBuf.patch run.uart.uartBufCtr [c]
        uartBufCtr := run.uart.uartBufCtr + 1 }
      stream := run.stream ++ [c] } hrest (by simp only; omega)
    refine ⟨⟨⟨hclean, fun hcompleted ↦ absurd hnone hcompleted⟩,
      (forall_eq_ok_iff hstep).mpr halong⟩, uartBuf, run_cons_eq_ok.mpr ⟨_, hstep, ?_⟩⟩
    rw [hrun, List.length_cons, List.append_assoc, Nat.add_assoc, Nat.add_comm 1]
    rfl

/-- A line that ends while the queue is empty is queued with its terminator. -/
theorem Receives.line_queued (h : Receives run) (hctr : 0 < run.uart.uartBufCtr)
    (hqueue : run.uart.uartMsgq.Represents []) :
    DrainedInTime run (.received lineFeed) ∧ ∃ next line,
      serialStep run (.received lineFeed) = .ok next ∧ next.stream = run.stream ++ [lineFeed] ∧
      next.uart.threadRunning = run.uart.threadRunning ∧
      next.uart.uartMsgq.Represents [line] ∧
      (line.cells.takeWhile (· ≠ 0)).length < uartBufferSize := by
  have hroom : run.uart.uartMsgq.usedMsgs < run.uart.uartMsgq.maxMsgs := by
    rw [hqueue.used, h.maxMsgs]
    decide
  obtain ⟨uartMsgq, hreceive, -, hkept⟩ :=
    receiveByte_of_end (.inl rfl : lineFeed = lineFeed ∨ _) hctr h.ctr_lt h.maxMsgs hqueue
  rw [if_pos hroom] at hkept
  refine ⟨⟨by decide, fun _ ↦ hroom⟩, _, _, serialStep_received hreceive, rfl, rfl, hkept, ?_⟩
  rw [h.takeWhile_patch, h.length_buffered]
  exact h.ctr_lt

/-- The only message in the queue is taken. -/
theorem Receives.message_taken (h : Receives run) (hrunning : run.uart.threadRunning = true)
    {line : StoredLine} (hqueue : run.uart.uartMsgq.Represents [line])
    (htext : (line.cells.takeWhile (· ≠ 0)).length < uartBufferSize) {pkth : PacketHandler}
    (hpkth : ∀ data, ∃ result, pkth.handlePacket data = .ok result) :
    ∃ next, serialStep run (.handleMessages pkth) = .ok next ∧ next.stream = run.stream ∧
      next.uart.uartMsgq.Represents [] := by
  obtain ⟨uartMsgq, hget, hempty, -⟩ := hqueue.get_cons
  have hmade := packetOfMessage_eq { run.uart with uartMsgq } line
  rw [if_pos htext] at hmade
  obtain ⟨⟨ret, after⟩, hhandle⟩ := hpkth _
  have hround := handleUartMessages_of_get hrunning h.hasPktHandler hget hmade hhandle
  have hstep : serialStep run (.handleMessages pkth) = .ok _ := bind_eq_ok.mpr ⟨_, hround, rfl⟩
  exact ⟨_, hstep, rfl, hempty⟩

/-- A line that fits the buffer reaches the packet handler, whether it fits a packet or not. -/
theorem run_line {chars : List UInt8} (hchars : ∀ c ∈ chars, c ≠ 0 ∧ ¬ isLineEnd c)
    (hline : chars ≠ []) (hfits : chars.length < uartBufferSize) {pkth : PacketHandler}
    (hpkth : ∀ data, ∃ result, pkth.handlePacket data = .ok result) :
    Along serialStep DrainedInTime (listeningPort srcId destId uartBuf cells)
        (chars.map .received ++ [.received lineFeed, .handleMessages pkth]) ∧
      ∃ last, CheckedRun.run serialStep (listeningPort srcId destId uartBuf cells)
          (chars.map .received ++ [.received lineFeed, .handleMessages pkth]) = .ok last ∧
        last.stream = chars ++ [lineFeed] ∧ last.uart.uartMsgq.Represents [] := by
  have hroom : (listeningPort srcId destId uartBuf cells).uart.uartBufCtr + chars.length <
      uartBufferSize := (Nat.zero_add _).trans_lt hfits
  obtain ⟨halong, filled, hrun⟩ := run_received_chars hchars hroom
  have hmid := receives_of_run halong hrun
  have hctr : 0 < 0 + chars.length := by
    rw [Nat.zero_add]
    exact List.length_pos_of_ne_nil hline
  obtain ⟨hdrained, next, line, hend, hstream, hrunning, hqueue, htext⟩ :=
    hmid.line_queued hctr (RingQueue.represents_init cells (by decide))
  obtain ⟨last, hround, hsame, hempty⟩ :=
    (hmid.received hdrained hend).message_taken hrunning hqueue htext hpkth
  have hrest : Along serialStep DrainedInTime _ [.received lineFeed, .handleMessages pkth] :=
    ⟨hdrained, fun _ _ ↦ ⟨trivial, fun _ _ ↦ along_nil⟩⟩
  refine ⟨along_append halong ((forall_eq_ok_iff hrun).mpr hrest), last, ?_, ?_, hempty⟩
  · rw [run_append_eq_ok]
    exact ⟨_, hrun, run_cons_eq_ok.mpr ⟨_, hend, run_cons_eq_ok.mpr ⟨_, hround, rfl⟩⟩⟩
  · exact hsame.trans hstream

/-! ## Runs -/

/-- Serial input is forwarded without loss exactly if every line fits a packet, and the unfinished
one the buffer. -/
theorem serial_input_forwarded_iff {queued : List StoredLine}
    (hdrained : Along serialStep DrainedInTime (listeningPort srcId destId uartBuf cells) actions)
    (hrun : CheckedRun.run serialStep (listeningPort srcId destId uartBuf cells) actions = .ok last)
    (hqueued : last.uart.uartMsgq.Represents queued) :
    Forwarded last queued ↔ LinesFit (Lines.ofStream isLineEnd last.stream) :=
  (receives_of_run hdrained hrun).forwarded_iff hqueued

end Loss

/-- The RS485 port as `main` would set it up. -/
def rs485Input : SerialRun :=
  listeningPort instanceIdUartRs485 instanceIdCloud (Buffer.fill uartBufferSize 0) fun _ ↦ none

def shortLines : List SerialAction :=
  [.received 0x68, .received 0x69, .received lineFeed,
    .handleMessages (PacketHandler.routerRegistry []), .received carriageReturn, .received 0x61]

def longLine : List SerialAction :=
  (List.replicate 251 0x61).map .received ++
    [.received lineFeed, .handleMessages (PacketHandler.routerRegistry [])]

theorem serial_input_forwarded_of_short_lines :
    ∃ last, CheckedRun.run serialStep rs485Input shortLines = .ok last ∧ Forwarded last [] := by
  have hdrained : Along serialStep DrainedInTime rs485Input shortLines := by decide +kernel
  have hend : (CheckedRun.run serialStep rs485Input shortLines).map
      (fun last ↦ (last.uart.uartMsgq.usedMsgs, last.stream)) =
      .ok (0, [0x68, 0x69, lineFeed, carriageReturn, 0x61]) := by decide +kernel
  obtain ⟨last, hrun, hlast⟩ := map_eq_ok.mp hend
  obtain ⟨hused, hstream⟩ := Prod.mk.inj hlast
  have hqueued := (receives_of_run hdrained hrun).represents_nil hused
  refine ⟨last, hrun, (serial_input_forwarded_iff hdrained hrun hqueued).mpr ?_⟩
  rw [hstream]
  decide

/-- The last byte of a line of 251 bytes is cut off. -/
theorem long_line_cut_off :
    Along serialStep DrainedInTime rs485Input longLine ∧
      ∃ last, CheckedRun.run serialStep rs485Input longLine = .ok last ∧
        last.uart.uartMsgq.Represents [] ∧ ¬ Forwarded last [] := by
  have hchars : ∀ c ∈ List.replicate 251 (0x61 : UInt8), c ≠ 0 ∧ ¬ isLineEnd c := by
    intro c hc
    rw [List.eq_of_mem_replicate hc]
    decide
  have hline : List.replicate 251 (0x61 : UInt8) ≠ [] := by decide
  have hfits : (List.replicate 251 (0x61 : UInt8)).length < uartBufferSize := by
    rw [List.length_replicate]
    decide
  obtain ⟨hdrained, last, hrun, hstream, hqueued⟩ : Along serialStep DrainedInTime rs485Input _ ∧
      ∃ last, CheckedRun.run serialStep rs485Input _ = .ok last ∧ _ ∧ _ :=
    run_line hchars hline hfits fun data ↦ (⟨_, rfl⟩ : ∃ result,
      (PacketHandler.routerRegistry []).handlePacket data = .ok result)
  refine ⟨hdrained, last, hrun, hqueued, fun hforwarded ↦ ?_⟩
  have hfit := ((receives_of_run hdrained hrun).forwarded_iff hqueued).mp hforwarded
  rw [hstream] at hfit
  exact absurd hfit (by decide +kernel)

end Uart

end CrownstoneRouter
