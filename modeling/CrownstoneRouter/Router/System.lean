import Mathlib.Data.Int.Bitwise
import CrownstoneRouter.Drivers.BleSessions
import CrownstoneRouter.Drivers.BleSetup
import CrownstoneRouter.Drivers.HalfDuplex
import CrownstoneRouter.PacketHandling.Delivery
import CrownstoneRouter.Sockets.Receiving
import CrownstoneRouter.Sockets.WebSocket

/-!
# The router at work

The actors of the router share the packet handler and run in any order: `main`, which sets one
object up after the other, the receive thread of the websocket, the callbacks of the Bluetooth
stack, the interrupt handler and the thread of the RS485 port, the packet thread, and the system
work queue, which calls the transport that a handler has been registered with. An actor works from
the moment on at which `main` has started it, which may be before `main` has registered the handler
that the actor needs.

What an actor meets outside of the router is an input of its step, and what the router gives to the
outside is recorded.
-/

namespace CrownstoneRouter

open CheckedMemory CheckedRun

/-! ## Transports -/

/-- The functions that `main` registers handlers with. -/
inductive Transport
  | sendMessage
  | sendBleMessage
  | sendUartMessage
  deriving DecidableEq

/-- The function at an address, as `routerHandlers` numbers them. -/
def Transport.ofAddress : Address → Option Transport
  | 1 => some .sendMessage
  | 2 => some .sendBleMessage
  | 3 => some .sendUartMessage
  | _ => none

/-- Called by the stack, and not a method or a work item. -/
def BleAction.isCallback : BleAction → Bool
  | .deviceFound _ _ | .connectionResult _ _ _ | .disconnected _ _ _ | .discovered _ _ _
  | .discoveryDone _ | .notified _ _ _ | .readResult _ _ _ => true
  | .connect _ | .discoverServices _ | .write _ _ _ | .read _ | .disconnect | .sendMessage _ => false

/-- What a call writes to the peripheral: the front of the buffer at the time of the call. -/
def BleDriver.writtenBy (ble : BleDriver) : BleCall → Option (List UInt8)
  | .gattWrite _ params => some (ble.bleBuf.slice 0 params.length.toNat)
  | _ => none

/-- `handlePacket` returns `CS_OK`. -/
def PacketHandler.accepts (pkth : PacketHandler) (data : PacketData) : Bool :=
  match pkth.handlePacket data with
  | .ok (ret, _) => ret = .ok
  | .error _ => false

/-! ## The router -/

/-- `HOST_ADDR` -/
def hostAddr : List UInt8 := "addr".toList.map fun c ↦ UInt8.ofNat c.toNat

/-- `HOST_PORT` -/
def hostPort : UInt16 := 14500

/-- The statement that `main` executes next, behind its wait for the Wi-Fi connection. Once it waits
for its threads it does nothing more, and when it has returned there is no router any more. -/
inductive MainPoint
  | webSocketInit
  | registerCloud
  | webSocketConnect
  | bleInit
  | registerBle
  | uartInit
  | registerUart
  | joining
  | returned
  deriving DecidableEq

/-- What a statement of `main` meets: the results of `zsock_inet_pton`, `zsock_socket`,
`zsock_connect` and `websocket_connect`, of `bt_enable` with the array that the base UUID is read
into, and of `device_is_ready` and `uart_configure`. -/
structure MainAnswers where
  parsed : InetPton
  sockId : ℤ
  connected : ℤ
  websockId : ℤ
  btEnable : ℤ
  uuid128Buf : Buffer UInt8 btUuidSize128
  uartReady : Bool
  uartConfigured : ℤ

/-- The objects of `main`, its return code, and where it is. -/
structure Router where
  sys : System
  receiver : ReceiveThread
  webSocket : WebSocket
  ble : BleDriver
  rs485 : Uart
  ret : RetCode
  point : MainPoint

/-- A router, the packets that the packet handler has accepted, those that the packet thread has
handled, and what has been given to the websocket, the Bluetooth stack (with the bytes of each
write) and the transmit FIFO. -/
structure RouterRun extends Router where
  accepted : List PacketData
  handled : List PacketData
  sent : List NetCall
  asked : List BleCall
  written : List (List UInt8)
  given : List UInt8

/-- What the memory of the objects of `main` holds before. -/
structure MainMemory where
  handlers : Slot → Handler
  cells : Fin (msgqBufSize / sizeofPacketData) → Option PacketData
  addr : SockAddr
  host : Buffer UInt8 domainNameMaxLen
  wsRecvBuf : Buffer UInt8 packetBufSize
  uartBuf : Buffer UInt8 uartBufferSize
  uartCells : Fin (uartMsgqBufSize / uartBufferSize) → Option (Buffer UInt8 uartBufferSize)

/-- `main` has initialized the packet handler and has waited for the Wi-Fi connection. -/
def RouterRun.boot (memory : MainMemory) (waited : RetCode) : RouterRun where
  sys := .boot (PacketHandler.booted memory.handlers memory.cells)
  receiver := { ReceiveThread.started instanceIdCloud true memory.wsRecvBuf with running := false }
  webSocket := .created memory.addr memory.host
  ble := .created
  rs485 := .created instanceIdUartRs485 instanceIdCloud memory.uartBuf memory.uartCells
  ret := waited
  point := .webSocketInit
  accepted := []
  handled := []
  sent := []
  asked := []
  written := []
  given := []

/-- What the actors do. -/
inductive RouterAction
  | main (answers : MainAnswers)
  | receive (answer : RecvMsg)
  | callback (event : BleEvent) (hcallback : event.action.isCallback = true)
  | interrupt (irq : UartIrq)
  | uartThread
  | packetThread
  | work (bt : BtAnswers)

namespace RouterRun

/-- `ret |= pkt_handler.registerHandler(...)` -/
def register (run : RouterRun) (instId : InstanceId) (address : Address) (point : MainPoint) :
    Checked RouterRun := do
  let (ret, pkth) ← run.sys.pkth.registerHandler instId address address
  return { run with sys := { run.sys with pkth }, ret := run.ret.lor ret, point }

/-- The next statement of `main`, which looks at its return code behind the last registration. -/
def mainStep (hex2bin : Hex2Bin) (run : RouterRun) (answers : MainAnswers) : Checked RouterRun :=
  match run.point with
  | .webSocketInit =>
      let (ret, sock, _) :=
        run.webSocket.toSocket.initPeer hostAddr .ipv4 hostPort answers.parsed answers.sockId
      .ok { run with
        webSocket := { run.webSocket with toSocket := sock }
        ret := run.ret.lor ret
        point := .registerCloud }
  | .registerCloud => run.register instanceIdCloud 1 .webSocketConnect
  | .webSocketConnect =>
      let (ret, webSocket, _) := run.webSocket.connect none answers.connected answers.websockId
      .ok { run with
        webSocket
        receiver := { run.receiver with running := run.receiver.running || decide (ret = .ok) }
        ret := run.ret.lor ret
        point := .bleInit }
  | .bleInit => do
      let ble := (run.ble.setSourceId instanceIdBlePeripheral).setDestinationId instanceIdCloud
      let (ret, ble) ←
        ble.init hex2bin (some crownstoneUuid) true answers.btEnable answers.uuid128Buf
      return { run with ble, ret := run.ret.lor ret, point := .registerBle }
  | .registerBle => run.register instanceIdBlePeripheral 2 .uartInit
  | .uartInit =>
      let (ret, rs485, _) := run.rs485.init none answers.uartReady answers.uartConfigured
      .ok { run with rs485, ret := run.ret.lor ret, point := .registerUart }
  | .registerUart => do
      let run ← run.register instanceIdUartRs485 3 .joining
      return { run with point := if run.ret ≠ .ok then .returned else .joining }
  | .joining | .returned => .ok run

/-- The packet handler is called for some packets. -/
def handedOver (run : RouterRun) (pkth : PacketHandler) (packets : List PacketData) : RouterRun :=
  { run with
    sys := { run.sys with pkth }
    accepted := run.accepted ++ packets.filter run.sys.pkth.accepts }

/-- A call of `websocket_recv_msg` returns to the receive thread. -/
def receive (run : RouterRun) (answer : RecvMsg) : Checked RouterRun := do
  let (receiver, pkth, handed) ← run.receiver.handleMessageReceived answer run.sys.pkth
  return { run.handedOver pkth handed.toList with receiver }

/-- The calls that a callback of the Bluetooth stack makes. -/
def follow (run : RouterRun) : List BleCall → Checked RouterRun
  | [] => .ok run
  | call :: rest =>
      match call.packet with
      | some data => do
          let (_, pkth) ← run.sys.pkth.handlePacket data
          (run.handedOver pkth [data]).follow rest
      | none => { run with asked := run.asked ++ [call] }.follow rest

/-- The Bluetooth stack calls back, once `init` has registered the callbacks. -/
def callback (text : BtAddrText) (run : RouterRun) (event : BleEvent) : Checked RouterRun :=
  if !run.ble.initialized then .ok run
  else do
    let (ble, calls) ← run.ble.perform text event
    { run with ble }.follow calls

/-- An interrupt at the RS485 port, once `init` has set the interrupt handler. -/
def interrupt (run : RouterRun) (irq : UartIrq) : Checked RouterRun :=
  if !run.rs485.initialized then .ok run
  else do
    let (rs485, bytes) ← run.rs485.handleUartInterrupt irq
    return { run with rs485, given := run.given ++ bytes }

/-- A round of the UART thread. -/
def uartThread (run : RouterRun) : Checked RouterRun := do
  let (rs485, pkth, handed) ← run.rs485.handleUartMessages run.sys.pkth
  return { run.handedOver pkth handed.toList with rs485 }

/-- A round of the packet thread. -/
def packetThread (crc16_ccitt : UInt16 → List UInt8 → UInt16) (run : RouterRun) :
    Checked RouterRun := do
  let (data, pkth) ← run.sys.pkth.getPacket
  match data with
  | none => return { run with sys := { run.sys with pkth } }
  | some data =>
      let sys ← handlePacketData crc16_ccitt { run.sys with pkth } data
      return { run with sys, handled := run.handled ++ [data] }

/-- The work queue runs the oldest item, whose callback is a transport. The transport changes
nothing in the handler but the lock. -/
def transport (text : BtAddrText) (run : RouterRun) (slot : Slot) (bt : BtAnswers) :
    Checked RouterRun :=
  let sys := run.sys.runWork
  let hdlr := sys.handler slot
  let locked (after : Handler) : System :=
    sys.modify slot fun handler ↦ { handler with workLock := after.workLock }
  match Transport.ofAddress hdlr.workItem.handler with
  | some .sendMessage =>
      match run.webSocket.sendMessage hdlr with
      | some (after, calls) => .ok { run with sys := locked after, sent := run.sent ++ calls }
      -- waits for the connection, and so does everything behind it in the queue
      | none => .ok run
  | some .sendBleMessage => do
      let (ble, after, calls) ← run.ble.sendBleMessage text hdlr bt
      return { run with
        sys := locked after
        ble
        asked := run.asked ++ calls
        written := run.written ++ calls.filterMap ble.writtenBy }
  | some .sendUartMessage => do
      let (rs485, after) ← run.rs485.sendUartMessage hdlr
      return { run with sys := locked after, rs485 }
  | none => .error .nullPointer

/-- A round of the system work queue. -/
def work (text : BtAddrText) (run : RouterRun) (bt : BtAnswers) : Checked RouterRun :=
  match run.sys.workq with
  | [] => .ok run
  | slot :: _ => run.transport text slot bt

/-- One step of one actor. -/
def step (hex2bin : Hex2Bin) (crc16_ccitt : UInt16 → List UInt8 → UInt16) (text : BtAddrText)
    (run : RouterRun) (action : RouterAction) : Checked RouterRun :=
  if run.point = .returned then .ok run
  else
    match action with
    | .main answers => run.mainStep hex2bin answers
    | .receive answer => run.receive answer
    | .callback event _ => run.callback text event
    | .interrupt irq => run.interrupt irq
    | .uartThread => run.uartThread
    | .packetThread => run.packetThread crc16_ccitt
    | .work bt => run.work text bt

end RouterRun

/-! ## A start -/

/-- Memory that has been cleared. -/
def zeroedMemory : MainMemory where
  handlers := PacketHandler.zeroedHandlers
  cells := PacketHandler.zeroedCells
  addr := { saFamily := 0, port := 0, address := Buffer.fill 16 0, scopeId := 0 }
  host := Buffer.fill domainNameMaxLen 0
  wsRecvBuf := Buffer.fill packetBufSize 0
  uartBuf := Buffer.fill uartBufferSize 0
  uartCells _ := none

/-- Every call that `main` makes succeeds. -/
def succeedingMain : MainAnswers where
  parsed := { ret := 1, written := [1, 2, 3, 4] }
  sockId := 3
  connected := 0
  websockId := 4
  btEnable := 0
  uuid128Buf := Buffer.fill btUuidSize128 0
  uartReady := true
  uartConfigured := 0

/-- The statements of `main`, one after the other. -/
def bringUp : List RouterAction :=
  List.replicate 7 (.main succeedingMain)

end CrownstoneRouter
