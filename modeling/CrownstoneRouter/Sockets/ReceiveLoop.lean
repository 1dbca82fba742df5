import CrownstoneRouter.Foundation.Loop
import CrownstoneRouter.Sockets.Receiving

/-!
# The receive loop

The inner loop of the receive thread goes on until nothing of the message remains, and every call of
`websocket_recv_msg` offers what is left of the receive buffer. Of a message that is longer than the
buffer something always remains, while nothing more can be stored: the loop does not end.
-/

namespace CrownstoneRouter

open CheckedMemory CheckedLoop

/-- How `websocket_recv_msg` answers its calls for a message: `none` stands for `-EAGAIN`, and a
number for the bytes that it stores. It may depend on the number of the call, the capacity offered
and the bytes of the message that are left. -/
abbrev RecvPolicy := ℕ → ℕ → ℕ → Option ℕ

/-- It stores no more than fits and is left, but something if there is room and anything left, and
answers `-EAGAIN` only finitely often. -/
structure RecvPolicy.Lawful (recv : RecvPolicy) : Prop where
  bounded : ∀ {call capacity left count}, recv call capacity left = some count →
    count ≤ capacity ∧ count ≤ left
  progress : ∀ {call capacity left count}, recv call capacity left = some count →
    0 < capacity → 0 < left → 0 < count
  patient : ∃ patience, ∀ {call capacity left}, patience ≤ call → recv call capacity left ≠ none

namespace ReceiveThread

/-- The answer to a call for the rest of a message. -/
def answerTo (recv : RecvPolicy) (message : List UInt8) (call : ℕ) (ws : ReceiveThread) : RecvMsg :=
  match recv call (packetBufSize - ws.readPos) (message.length - ws.totalRead) with
  | none => .again
  | some count =>
      .stored ((message.drop ws.totalRead).take count) (message.length - ws.totalRead - count)

/-- A round of the inner loop, which ends when nothing remains. -/
def receiveRound (recv : RecvPolicy) (message : List UInt8) (call : ℕ) (ws : ReceiveThread) :
    Checked ReceiveThread :=
  if ws.remainingBytes > 0 then do
    let (ws, _) ← ws.receiveChunk (ws.answerTo recv message call)
    return ws
  else return ws

/-- The inner loop ends for a message and never writes beyond the receive buffer. The packet that
follows contains the message, and the thread then starts afresh with the next message. -/
structure ReceivesWhole (recv : RecvPolicy) (message : List UInt8) (ws : ReceiveThread) : Prop where
  ends : ∃ rounds last, iterate (receiveRound recv message) ws rounds = .ok last ∧
    last.remainingBytes = 0
  inside : ∀ rounds, ∃ last, iterate (receiveRound recv message) ws rounds = .ok last
  fresh : ∀ {rounds last pkth next after handed},
    iterate (receiveRound recv message) ws rounds = .ok last → last.remainingBytes = 0 →
      last.dispatch pkth = .ok (next, after, handed) →
        (next.running = true → next.Ready) ∧ ∀ data ∈ handed, data.msg.contents = message

/-- The thread has received the front of a message, and all of it when nothing remains. -/
structure InLoop (message : List UInt8) (ws : ReceiveThread) : Prop where
  holds : ws.Holds (message.take ws.totalRead)
  done : ws.remainingBytes = 0 → ws.totalRead = message.length
  left : 0 < ws.remainingBytes → message = [] ∨ ws.totalRead < message.length

variable {recv : RecvPolicy} {message : List UInt8} {ws next : ReceiveThread}

theorem Ready.inLoop (h : ws.Ready) (message : List UInt8) : InLoop message ws where
  holds := by
    rw [h.holds.totalRead]
    exact h.holds
  done := by
    rw [h.remainingBytes]
    exact fun hzero ↦ absurd hzero (by decide)
  left := by
    intro _
    rw [h.holds.totalRead]
    exact message.eq_nil_or_concat.imp_right fun ⟨_, _, hconcat⟩ ↦ by simp [hconcat]

theorem InLoop.totalRead_le (h : InLoop message ws) :
    ws.totalRead ≤ message.length ∧ ws.totalRead ≤ packetBufSize ∧ ws.readPos = ws.totalRead := by
  have hlength := h.holds.totalRead
  have hfits := h.holds.fits
  have hposition := h.holds.readPos
  rw [List.length_take] at hlength hfits hposition
  omega

/-- A call that stores something, or nothing. -/
theorem InLoop.stored (h : InLoop message ws) (hrecv : recv.Lawful) {call count : ℕ}
    (hanswer : recv call (packetBufSize - ws.readPos) (message.length - ws.totalRead) = some count)
    (hremaining : ws.remainingBytes > 0) :
    ∃ next, receiveRound recv message call ws = .ok next ∧ InLoop message next ∧
      next.totalRead = ws.totalRead + count ∧
      next.remainingBytes = message.length - (ws.totalRead + count) := by
  obtain ⟨hcapacity, hleft⟩ := hrecv.bounded hanswer
  obtain ⟨hle, hfits, hposition⟩ := h.totalRead_le
  have hbytes : ((message.drop ws.totalRead).take count).length = count := by
    rw [List.length_take, List.length_drop]
    omega
  have hfront : message.take ws.totalRead ++ (message.drop ws.totalRead).take count =
      message.take (ws.totalRead + count) := List.take_add.symm
  have hlength : (message.take (ws.totalRead + count)).length = ws.totalRead + count := by
    rw [List.length_take]
    omega
  have hroom : (message.take ws.totalRead ++ (message.drop ws.totalRead).take count).length ≤
      packetBufSize := by
    rw [hfront, hlength]
    omega
  obtain ⟨next, hchunk, hholds, -, -, -, hrest⟩ :=
    h.holds.stored hroom (message.length - ws.totalRead - count)
  rw [hfront] at hholds
  have htotal : next.totalRead = ws.totalRead + count := hholds.totalRead.trans hlength
  rw [Nat.sub_sub] at hrest
  refine ⟨next, ?_, ⟨htotal ▸ hholds, fun hzero ↦ by omega, fun hpositive ↦ .inr (by omega)⟩, htotal,
    hrest⟩
  rw [receiveRound, if_pos hremaining, answerTo, hanswer]
  simp only [hchunk, bind, bind_ok]
  rfl

/-- Every round returns, and a round in which something is stored makes progress or ends the loop
as long as the message fits the buffer. -/
theorem InLoop.round (h : InLoop message ws) (hrecv : recv.Lawful) (call : ℕ) :
    ∃ next, receiveRound recv message call ws = .ok next ∧ InLoop message next ∧
      (recv call (packetBufSize - ws.readPos) (message.length - ws.totalRead) ≠ none →
        message.length ≤ packetBufSize →
          next.remainingBytes = 0 ∨ ws.totalRead < next.totalRead) := by
  by_cases hremaining : ws.remainingBytes > 0
  · cases hanswer : recv call (packetBufSize - ws.readPos) (message.length - ws.totalRead) with
    | none =>
      refine ⟨ws, ?_, h, fun hstored ↦ absurd rfl hstored⟩
      rw [receiveRound, if_pos hremaining, answerTo, hanswer]
      rfl
    | some count =>
      obtain ⟨next, hnext, hinside, htotal, hrest⟩ := h.stored hrecv hanswer hremaining
      refine ⟨next, hnext, hinside, fun _ hfits ↦ ?_⟩
      rcases h.left hremaining with hempty | hlt
      · left
        rw [hrest, hempty, List.length_nil, Nat.zero_sub]
      · right
        obtain ⟨-, -, hposition⟩ := h.totalRead_le
        have hcount := hrecv.progress hanswer (by omega) (by omega)
        omega
  · refine ⟨ws, if_neg hremaining, h, fun _ _ ↦ .inl ?_⟩
    exact Nat.eq_zero_of_not_pos hremaining

/-- The loop never writes beyond the buffer, however long the message is. -/
theorem Ready.iterate_inLoop (h : ws.Ready) (hrecv : recv.Lawful) (message : List UInt8)
    (rounds : ℕ) :
    ∃ last, iterate (receiveRound recv message) ws rounds = .ok last ∧ InLoop message last :=
  iterate_returns
    (fun hinside ↦
      have ⟨next, hnext, hkept, _⟩ := hinside.round hrecv _
      ⟨next, hnext, hkept⟩)
    (h.inLoop message) rounds

/-- The loop ends for a message that fits the buffer. -/
theorem Ready.ends (h : ws.Ready) (hrecv : recv.Lawful)
    (hfits : message.length ≤ packetBufSize) :
    ∃ rounds last, iterate (receiveRound recv message) ws rounds = .ok last ∧
      last.remainingBytes = 0 := by
  obtain ⟨patience, hpatient⟩ := hrecv.patient
  apply iterate_reaches totalRead (fun hinside ↦ ?_) (fun hcall hinside hnext ↦ ?_)
    (fun hinside ↦ hinside.totalRead_le.1) (h.inLoop message)
  · exact patience
  · obtain ⟨next, hnext, hkept, -⟩ := hinside.round hrecv _
    exact ⟨next, hnext, hkept⟩
  · exact (of_returns (hinside.round hrecv _) hnext).2 (hpatient hcall) hfits

theorem Ready.length_le_of_ends (h : ws.Ready) (hrecv : recv.Lawful) {rounds : ℕ}
    (hlast : iterate (receiveRound recv message) ws rounds = .ok next)
    (hdone : next.remainingBytes = 0) : message.length ≤ packetBufSize := by
  have hinside := of_returns (h.iterate_inLoop hrecv message rounds) hlast
  rw [← hinside.done hdone]
  exact hinside.totalRead_le.2.1

/-- The inner loop ends, without a write beyond the receive buffer and without a trace in the next
message, exactly if the message is no longer than the buffer. -/
theorem receive_loop_ends_iff (hready : ws.Ready) (hrecv : recv.Lawful) (message : List UInt8) :
    ReceivesWhole recv message ws ↔ message.length ≤ packetBufSize := by
  constructor
  · intro hwhole
    obtain ⟨rounds, last, hlast, hdone⟩ := hwhole.ends
    exact hready.length_le_of_ends hrecv hlast hdone
  · intro hfits
    refine ⟨hready.ends hrecv hfits, fun rounds ↦ ?_, fun {rounds last} _ _ _ _ hlast hdone h ↦ ?_⟩
    · obtain ⟨last, hlast, -⟩ := hready.iterate_inLoop hrecv message rounds
      exact ⟨last, hlast⟩
    · have hinside := of_returns (hready.iterate_inLoop hrecv message rounds) hlast
      have hholds := hinside.holds
      rw [hinside.done hdone, List.take_length] at hholds
      obtain ⟨-, hfresh, rfl⟩ := hholds.of_dispatch h
      refine ⟨hfresh, fun data hdata ↦ ?_⟩
      split_ifs at hdata
      · rw [← Option.some.inj hdata]
        exact hholds.contents_packet
      · cases hdata

theorem ready_started (srcId : InstanceId) (hasPktHandler : Bool)
    (wsRecvBuf : Buffer UInt8 packetBufSize) : (started srcId hasPktHandler wsRecvBuf).Ready where
  running := rfl
  holds := holds_started srcId hasPktHandler wsRecvBuf
  remainingBytes := rfl

/-- First nothing, then one byte for each call. -/
def bytewise : RecvPolicy := fun call capacity left ↦
  if call = 0 then none else some (min 1 (min capacity left))

theorem lawful_bytewise : bytewise.Lawful where
  bounded := by
    intro call capacity left count hanswer
    obtain ⟨-, hcount⟩ := Option.ite_none_left_eq_some.mp hanswer
    have hvalue := Option.some.inj hcount
    omega
  progress := by
    intro call capacity left count hanswer hcapacity hleft
    obtain ⟨-, hcount⟩ := Option.ite_none_left_eq_some.mp hanswer
    have hvalue := Option.some.inj hcount
    omega
  patient := by
    refine ⟨1, fun {call capacity left} hcall ↦ ?_⟩
    have hne : call ≠ 0 := by omega
    rw [bytewise, if_neg hne]
    exact Option.some_ne_none _

/-- A message of three bytes, received byte by byte after a retry. -/
theorem receive_loop_ends_bytewise :
    ReceivesWhole bytewise [0x61, 0x62, 0x63]
      (started instanceIdCloud true (Buffer.fill packetBufSize 0)) :=
  (receive_loop_ends_iff (ready_started _ _ _) lawful_bytewise _).mpr (by decide)

/-- The loop does not end for a message of 251 bytes. -/
theorem receive_loop_never_ends :
    ¬ ReceivesWhole bytewise (List.replicate 251 0x61)
      (started instanceIdCloud true (Buffer.fill packetBufSize 0)) := by
  intro hwhole
  obtain ⟨rounds, last, hlast, hdone⟩ := hwhole.ends
  have hfits := (ready_started _ _ _).length_le_of_ends lawful_bytewise hlast hdone
  rw [List.length_replicate] at hfits
  exact absurd hfits (by decide)

end ReceiveThread

end CrownstoneRouter
