import CrownstoneRouter.PacketHandling.Registry
import CrownstoneRouter.Sockets.Socket

/-!
# Websockets

The class `WebSocket` adds a second id to its `Socket`, that of the websocket opened over it, and
sends the messages of its handler there. A message waits until the connection has been established.
-/

namespace CrownstoneRouter

open CheckedMemory

/-- `CS_WEBSOCKET_URL_MAX_LEN` -/
def websocketUrlMaxLen : ℕ := 32

namespace RetCode

/-- `CS_ERR_SOCKET_CONNECT_FAILED` -/
def socketConnectFailed : RetCode := 0x409

/-- `CS_ERR_SOCKET_WEBSOCKET_CONNECT_FAILED` -/
def socketWebsocketConnectFailed : RetCode := 0x411

end RetCode

/-- The class `WebSocket`; `connectedEvent` is `CS_WEBSOCKET_CONNECTED_EVENT` of `_ws_evts`. -/
structure WebSocket extends Socket where
  websockId : ℤ
  connectedEvent : Bool
  deriving DecidableEq

namespace WebSocket

/-- The object before `init`. -/
def created (addr : SockAddr) (host : Buffer UInt8 domainNameMaxLen) : WebSocket where
  toSocket := .created addr host
  websockId := -1
  connectedEvent := false

/-- `WebSocket::close`. Neither the id of the websocket nor the initialized flag is reset. -/
def close (ws : WebSocket) : RetCode × WebSocket × List NetCall :=
  if !ws.initialized then (.notInitialized, ws, [])
  else
    let (_, sock, calls) := ws.toSocket.close
    (.ok, { ws with toSocket := sock },
      (if 0 ≤ ws.websockId then [.websocketDisconnect ws.websockId] else []) ++ calls)

/-- A slash and the url, of which `strncat` drops what does not fit `url_buf`. -/
def urlBuf (url : Option (List UInt8)) : List UInt8 :=
  0x2F :: (url.getD []).take (websocketUrlMaxLen - 2)

/-- `WebSocket::connect`; `connected` is the result of `zsock_connect` and `websockId` that of
`websocket_connect`, which calls `handleWebsocketConnect` when it has opened a connection. -/
def connect (ws : WebSocket) (url : Option (List UInt8)) (connected websockId : ℤ) :
    RetCode × WebSocket × List NetCall :=
  if !ws.initialized then (.notInitialized, ws, [])
  else
    let ws := { ws with connectedEvent := false }
    let attempt : List NetCall := [.connect ws.sockId ws.addr ws.addrLen]
    if connected < 0 then (.socketConnectFailed, ws, attempt)
    else
      let handshake := attempt ++ [.websocketConnect ws.sockId ws.host (urlBuf url) websockId]
      if websockId < 0 then
        let (_, ws, closing) := { ws with websockId := websockId }.close
        (.socketWebsocketConnectFailed, ws, handshake ++ closing)
      else (.ok, { ws with websockId := websockId, connectedEvent := true }, handshake)

/-- `WebSocket::sendMessage`, which does not return before a connection has been established. -/
def sendMessage (ws : WebSocket) (hdlr : Handler) : Option (Handler × List NetCall) :=
  if !ws.initialized then some (hdlr, [])
  else if !ws.connectedEvent then none
  else
    let hdlr := hdlr.lockWork
    let calls := [.websocketSendMsg ws.websockId hdlr.msg]
    some (hdlr.unlockWork, calls)

end WebSocket

end CrownstoneRouter
