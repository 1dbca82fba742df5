import CrownstoneRouter.Foundation.Isolation
import CrownstoneRouter.Router.System

/-!
# The dialogue of the cloud with a device

What the router is there for, seen from the outside: the cloud sends a request, the router transmits
its payload over RS485, the device answers with a line, and the router sends the line back to the
cloud as the result of the request. A line without a request is sent as data. Nobody speaks out of
turn, but the actors of the router take their rounds in any order and as often as they like.
-/

namespace CrownstoneRouter

open LittleEndian

/-! ## Requests -/

/-- A request for the device at the RS485 port. -/
structure Request where
  commandType : UInt8
  srcId : InstanceId
  requestId : UInt16
  payload : List UInt8
  deriving DecidableEq

def Request.message (request : Request) : List UInt8 :=
  genericFrame genericTypeControl (controlFrame request.commandType request.srcId
    instanceIdUartRs485 request.requestId request.payload)

/-- What a message would be the message of. -/
def Request.read : List UInt8 → Option Request
  | _ :: _ :: _ :: _ :: commandType :: srcId :: _ :: low :: high :: _ :: _ :: payload =>
      some { commandType, srcId, requestId := getLe16 low high, payload }
  | _ => none

/-- The request of a message, if the message is one of a request. -/
def Request.ofMessage (message : List UInt8) : Option Request :=
  (read message).filter fun request ↦ request.message = message

theorem Request.message_of_ofMessage {message : List UInt8} {request : Request}
    (h : ofMessage message = some request) : request.message = message := by
  have hmessage := (Option.filter_eq_some_iff.mp h).2
  simpa using hmessage

theorem Request.ofMessage_message (request : Request) :
    ofMessage request.message = some request := by
  have hread : read request.message = some request := by
    simp [message, genericFrame, controlFrame, lengthField, putLe16, read]
  simp [ofMessage, hread]

/-- What the cloud is sent for a line: the result of the request, or data if there is none. -/
def answer (pending : Option Request) (line : List UInt8) : List UInt8 :=
  match pending with
  | some request =>
      if request.requestId > 0 then
        genericFrame genericTypeResult
          (resultFrame request.commandType 0 request.requestId line)
      else genericFrame genericTypeData (dataFrame instanceIdUartRs485 line)
  | none => genericFrame genericTypeData (dataFrame instanceIdUartRs485 line)

/-! ## Turns -/

/-- Whose turn it is. The device may speak while the router listens; the line that it has ended
becomes a packet that becomes a message, and the request of the cloud becomes a packet that becomes
a transmission. -/
inductive Turn
  | listening (pending : Option Request) (line : List UInt8)
  | heard (pending : Option Request) (line : List UInt8)
  | replied (pending : Option Request) (line : List UInt8)
  | answered (pending : Option Request) (line : List UInt8)
  | requested (request : Request)
  | commanded (request : Request)
  | transmitting (request : Request) (unsent : List UInt8)
  deriving DecidableEq

/-- The longest line whose result fits a packet. -/
abbrev longestLine : ℕ := packetBufSize - 10

namespace Turn

/-- Neither the cloud nor the device has been heard since the device was last spoken to. -/
def Open : Turn → Prop
  | .listening _ line => line = []
  | _ => False

instance : ∀ turn, Decidable (Open turn)
  | .listening _ _ => inferInstanceAs (Decidable (_ = _))
  | .heard _ _ | .replied _ _ | .answered _ _ | .requested _ | .commanded _ | .transmitting _ _ =>
      inferInstanceAs (Decidable False)

/-- An interrupt at the RS485 port. -/
def interrupt (turn : Turn) (irq : UartIrq) : Turn :=
  match turn, (Uart.LifeEvent.interrupt irq).action with
  | .listening pending line, some (.received c) =>
      if c = lineFeed ∨ c = carriageReturn then
        if line = [] then .listening pending [] else .heard pending line
      else .listening pending (line ++ [c])
  | .transmitting request unsent, some (.transmit fifoSpace txComplete) =>
      if txComplete then .listening (some request) []
      else .transmitting request (unsent.drop fifoSpace)
  | turn, _ => turn

/-- What an interrupt gives to the FIFO. -/
def transmitted (turn : Turn) (irq : UartIrq) : List UInt8 :=
  match turn, (Uart.LifeEvent.interrupt irq).action with
  | .transmitting _ unsent, some (.transmit fifoSpace _) => unsent.take fifoSpace
  | _, _ => []

/-- The device says a byte: one of a line that the router can pass on, or a line end, which may
follow a line or stand alone. -/
def Says (turn : Turn) (c : UInt8) : Prop :=
  c = lineFeed ∨ c = carriageReturn ∨
    match turn with
    | .listening _ line =>
        c ≠ 0 ∧ (line = [] → c ≠ uartStartToken) ∧ line.length < longestLine
    | _ => False

instance (turn : Turn) (c : UInt8) : Decidable (turn.Says c) :=
  match turn with
  | .listening _ _ => inferInstanceAs (Decidable (_ ∨ _ ∨ _ ∧ _ ∧ _))
  | .heard _ _ | .replied _ _ | .answered _ _ | .requested _ | .commanded _ | .transmitting _ _ =>
      inferInstanceAs (Decidable (_ ∨ _ ∨ False))

/-- The hardware receives while nothing is transmitted, and reports the end of a transmission once
everything has been given to it. -/
def Raises (turn : Turn) (irq : UartIrq) : Prop :=
  match turn with
  | .transmitting _ unsent =>
      irq.rxReady = false ∧ (irq.txComplete = true → unsent.length ≤ irq.fifoSpace)
  | turn => irq.txReady = false ∧ (irq.rxReady = true → ∀ c ∈ irq.fifoRead, turn.Says c)

instance (turn : Turn) (irq : UartIrq) : Decidable (turn.Raises irq) :=
  match turn with
  | .transmitting _ _ => inferInstanceAs (Decidable (_ ∧ _))
  | .listening _ _ | .heard _ _ | .replied _ _ | .answered _ _ | .requested _ | .commanded _ =>
      inferInstanceAs (Decidable (_ ∧ (_ → ∀ c ∈ irq.fifoRead, Turn.Says _ c)))

end Turn

/-! ## Dialogues -/

/-- What the cloud has sent of its next message, whose turn it is, what has been sent to the cloud
and given to the FIFO, and the number of packets that have been made. -/
structure Dialogue where
  front : List UInt8
  turn : Turn
  sent : List (List UInt8)
  given : List UInt8
  packets : ℕ
  deriving DecidableEq

namespace Dialogue

/-- Nobody has said anything. -/
def start : Dialogue where
  front := []
  turn := .listening none []
  sent := []
  given := []
  packets := 0

/-- Something of a message of the cloud is received. -/
def receive (dialogue : Dialogue) : RecvMsg → Dialogue
  | .stored bytes remaining =>
      if 0 < remaining then { dialogue with front := dialogue.front ++ bytes }
      else
        match Request.ofMessage (dialogue.front ++ bytes) with
        | some request =>
            { dialogue with
              front := []
              turn := .requested request
              packets := dialogue.packets + 1 }
        | none => dialogue
  | .again | .failed => dialogue

/-- One step of one actor. -/
def step (dialogue : Dialogue) : RouterAction → Dialogue
  | .main _ | .callback _ _ => dialogue
  | .receive answer => dialogue.receive answer
  | .interrupt irq =>
      { dialogue with
        turn := dialogue.turn.interrupt irq
        given := dialogue.given ++ dialogue.turn.transmitted irq }
  | .uartThread =>
      match dialogue.turn with
      | .heard pending line =>
          { dialogue with turn := .replied pending line, packets := dialogue.packets + 1 }
      | _ => dialogue
  | .packetThread =>
      match dialogue.turn with
      | .requested request => { dialogue with turn := .commanded request }
      | .replied pending line => { dialogue with turn := .answered pending line }
      | _ => dialogue
  | .work _ =>
      match dialogue.turn with
      | .commanded request => { dialogue with turn := .transmitting request request.payload }
      | .answered pending line =>
          { dialogue with
            turn := .listening none []
            sent := dialogue.sent ++ [answer pending line] }
      | _ => dialogue

/-- Nobody speaks out of turn: the cloud completes a request, which fits a packet, while the device
is silent; the device speaks while the router listens. Bluetooth is silent. -/
def Polite (dialogue : Dialogue) : RouterAction → Prop
  | .receive (.stored bytes remaining) =>
      (dialogue.front ++ bytes).length ≤ packetBufSize ∧
        (remaining = 0 → dialogue.turn.Open ∧
          (Request.ofMessage (dialogue.front ++ bytes)).isSome = true)
  | .receive .again => True
  | .receive .failed => False
  | .callback _ _ => False
  | .interrupt irq => dialogue.turn.Raises irq
  | .main _ | .uartThread | .packetThread | .work _ => True

instance (dialogue : Dialogue) : ∀ action, Decidable (dialogue.Polite action)
  | .receive (.stored _ _) => inferInstanceAs (Decidable (_ ∧ (_ → _ ∧ _)))
  | .receive .again => inferInstanceAs (Decidable True)
  | .receive .failed => inferInstanceAs (Decidable False)
  | .callback _ _ => inferInstanceAs (Decidable False)
  | .interrupt irq => inferInstanceAs (Decidable (dialogue.turn.Raises irq))
  | .main _ | .uartThread | .packetThread | .work _ => inferInstanceAs (Decidable True)

end Dialogue

end CrownstoneRouter
