import CrownstoneRouter.Foundation.LittleEndian
import CrownstoneRouter.Foundation.Memory

/-!
# Packets of the router protocol

The constants and records of the router protocol and of the packet handler, and the byte strings
that the protocol documents for each kind of packet. `uartFrame`, `genericFrame`, `dataFrame`,
`resultFrame` and `controlFrame` state the format alone; the encoders and loaders of the firmware
are compared with them.

Identifiers are bytes: every enumeration of the protocol has `uint8_t` as its underlying type and is
filled from received bytes by a cast. The CRC is a parameter of everything that computes one.
-/

namespace CrownstoneRouter

open CheckedMemory LittleEndian

/-! ## Constants -/

/-- `CS_PACKET_BUF_SIZE` -/
abbrev packetBufSize : ℕ := 250

/-- `CS_PACKET_QUEUE_SIZE` -/
abbrev packetQueueSize : ℕ := 14

/-- `CS_PACKET_HANDLERS` -/
abbrev packetHandlers : ℕ := 7

/-- `CS_PACKET_UART_START_TOKEN` -/
def uartStartToken : UInt8 := 0x7E

/-- `CS_PACKET_UART_CRC_SEED` -/
def uartCrcSeed : UInt16 := 0xFFFF

/-- `CS_PROTOCOL_VERSION` -/
def protocolVersion : UInt8 := 1

/-- `CS_UART_PROTOCOL_VERSION` -/
def uartProtocolVersion : UInt8 := 1

/-- `CS_PACKET_TYPE_GENERIC` -/
def uartTypeGeneric : UInt8 := 0

/-- `CS_PACKET_TYPE_CONTROL` -/
def genericTypeControl : UInt8 := 0

/-- `CS_PACKET_TYPE_RESULT` -/
def genericTypeResult : UInt8 := 1

/-- `CS_PACKET_TYPE_DATA` -/
def genericTypeData : UInt8 := 2

/-- `cs_router_instance_id` -/
abbrev InstanceId := UInt8

/-- `CS_INSTANCE_ID_UART_RS485` -/
def instanceIdUartRs485 : InstanceId := 2

/-- `CS_INSTANCE_ID_UART_CM4` -/
def instanceIdUartCm4 : InstanceId := 4

/-- `CS_INSTANCE_ID_CLOUD` -/
def instanceIdCloud : InstanceId := 5

/-- `CS_INSTANCE_ID_BLE_CROWNSTONE_PERIPHERAL` -/
def instanceIdBlePeripheral : InstanceId := 7

/-- `cs_ret_code_t` -/
abbrev RetCode := Int

namespace RetCode

/-- `CS_OK` -/
def ok : RetCode := 0

/-- `CS_ERR_ALREADY_INITIALIZED` -/
def alreadyInitialized : RetCode := 0x101

/-- `CS_ERR_NOT_INITIALIZED` -/
def notInitialized : RetCode := 0x102

/-- `CS_ERR_DEVICE_NOT_READY` -/
def deviceNotReady : RetCode := 0x103

/-- `CS_ERR_TIMEOUT` -/
def timeout : RetCode := 0x108

/-- `CS_ERR_ABORTED` -/
def aborted : RetCode := 0x109

/-- `CS_ERR_PACKET_HANDLER_NOT_FOUND` -/
def handlerNotFound : RetCode := 0x601

/-- `CS_ERR_PACKET_HANDLER_ALREADY_REGISTERED` -/
def handlerAlreadyRegistered : RetCode := 0x602

/-- `CS_ERR_PACKET_HANDLER_NOT_READY` -/
def handlerNotReady : RetCode := 0x603

end RetCode

/-! ## Records -/

/-- `cs_packet_buffer` -/
structure PacketBuffer where
  buf : Buffer UInt8 packetBufSize
  bufLen : UInt16
  deriving DecidableEq

/-- The bytes that a packet buffer announces. -/
def PacketBuffer.contents (msg : PacketBuffer) : List UInt8 :=
  msg.buf.slice 0 msg.bufLen.toNat

theorem PacketBuffer.length_contents {msg : PacketBuffer} (h : msg.bufLen.toNat ≤ packetBufSize) :
    msg.contents.length = msg.bufLen.toNat :=
  msg.buf.length_slice 0 _ (by omega)

/-- The packet buffer that `memset` leaves behind. -/
def PacketBuffer.zero : PacketBuffer where
  buf := Buffer.fill packetBufSize 0
  bufLen := 0

/-- A packet buffer that some bytes have been copied into. -/
def PacketBuffer.ofBytes (bytes : List UInt8) : PacketBuffer where
  buf := (Buffer.fill packetBufSize 0).overlay bytes
  bufLen := UInt16.ofNat bytes.length

theorem PacketBuffer.toNat_bufLen_ofBytes {bytes : List UInt8} (h : bytes.length ≤ packetBufSize) :
    (ofBytes bytes).bufLen.toNat = bytes.length :=
  UInt16.toNat_ofNat_of_lt (h.trans_lt (by decide))

theorem PacketBuffer.contents_ofBytes {bytes : List UInt8} (h : bytes.length ≤ packetBufSize) :
    (ofBytes bytes).contents = bytes := by
  rw [contents, toNat_bufLen_ofBytes h]
  exact Buffer.slice_overlay _ h

/-- `cs_packet_transport_type` -/
inductive TransportType
  | incoming
  | outgoing
  deriving DecidableEq

/-- `cs_packet_data` -/
structure PacketData where
  type : TransportType
  destId : InstanceId
  srcId : InstanceId
  resultCode : UInt8
  msg : PacketBuffer
  deriving DecidableEq

/-- The packet that `memset` leaves behind. -/
def PacketData.zero : PacketData where
  type := .incoming
  destId := 0
  srcId := 0
  resultCode := 0
  msg := PacketBuffer.zero

/-- `cs_packet_result`: the request that a handler has yet to answer, if `id` is not zero. -/
structure PacketResult where
  type : UInt8
  id : UInt16
  deriving DecidableEq

/-- `cs_router_uart_packet` as its loader fills it; the payload is an offset into the message. -/
structure UartPacket where
  startToken : UInt8
  length : UInt16
  protocolVersion : UInt8
  type : UInt8
  payload : ℕ
  deriving DecidableEq

/-- `cs_router_generic_packet`, with the payload as an offset into the message. -/
structure GenericPacket where
  protocolVersion : UInt8
  type : UInt8
  length : UInt16
  payload : ℕ
  deriving DecidableEq

/-- `cs_router_control_packet`, with the payload as an offset into the message. -/
structure ControlPacket where
  commandType : UInt8
  srcId : InstanceId
  destId : InstanceId
  requestId : UInt16
  length : UInt16
  payload : ℕ
  deriving DecidableEq

/-! ## Documented formats -/

/-- The CRC function of the operating system, for examples. No result depends on it. -/
def zephyrCrc16Ccitt (seed : UInt16) (src : List UInt8) : UInt16 :=
  src.foldl (fun seed byte ↦
    let e := seed.toUInt8 ^^^ byte
    let f := e ^^^ (e <<< 4)
    (seed >>> 8) ^^^ (f.toUInt16 <<< 8) ^^^ (f.toUInt16 <<< 3) ^^^ (f.toUInt16 >>> 4)) seed

def lengthField (length : ℕ) : List UInt8 :=
  putLe16 (UInt16.ofNat length)

@[simp]
theorem length_lengthField (length : ℕ) : (lengthField length).length = 2 := rfl

/-- What the CRC of a UART frame covers: protocol version, type and payload. -/
def uartCovered (type : UInt8) (payload : List UInt8) : List UInt8 :=
  uartProtocolVersion :: type :: payload

/-- Start token, length of everything beyond the length field, protocol version, type, payload and
CRC. -/
def uartFrame (crc16_ccitt : UInt16 → List UInt8 → UInt16) (type : UInt8) (payload : List UInt8) :
    List UInt8 :=
  uartStartToken :: lengthField (payload.length + 4) ++ uartCovered type payload ++
    putLe16 (crc16_ccitt uartCrcSeed (uartCovered type payload))

/-- Protocol version, type, length and payload. -/
def genericFrame (type : UInt8) (payload : List UInt8) : List UInt8 :=
  protocolVersion :: type :: lengthField payload.length ++ payload

/-- Source, length and payload. -/
def dataFrame (srcId : InstanceId) (payload : List UInt8) : List UInt8 :=
  srcId :: lengthField payload.length ++ payload

/-- Command type, result code, request id, length and payload. -/
def resultFrame (commandType resultCode : UInt8) (requestId : UInt16) (payload : List UInt8) :
    List UInt8 :=
  commandType :: resultCode :: putLe16 requestId ++ lengthField payload.length ++ payload

/-- Command type, source, destination, request id, length and payload. -/
def controlFrame (commandType : UInt8) (srcId destId : InstanceId) (requestId : UInt16)
    (payload : List UInt8) : List UInt8 :=
  commandType :: srcId :: destId :: putLe16 requestId ++ lengthField payload.length ++ payload

@[simp]
theorem length_uartCovered (type : UInt8) (payload : List UInt8) :
    (uartCovered type payload).length = 2 + payload.length := by
  simp [uartCovered]
  omega

@[simp]
theorem length_uartFrame (crc16_ccitt : UInt16 → List UInt8 → UInt16) (type : UInt8)
    (payload : List UInt8) : (uartFrame crc16_ccitt type payload).length = 7 + payload.length := by
  simp [uartFrame]
  omega

@[simp]
theorem length_genericFrame (type : UInt8) (payload : List UInt8) :
    (genericFrame type payload).length = 4 + payload.length := by
  simp [genericFrame]
  omega

@[simp]
theorem length_dataFrame (srcId : InstanceId) (payload : List UInt8) :
    (dataFrame srcId payload).length = 3 + payload.length := by
  simp [dataFrame]
  omega

@[simp]
theorem length_resultFrame (commandType resultCode : UInt8) (requestId : UInt16)
    (payload : List UInt8) :
    (resultFrame commandType resultCode requestId payload).length = 6 + payload.length := by
  simp [resultFrame]
  omega

@[simp]
theorem length_controlFrame (commandType : UInt8) (srcId destId : InstanceId) (requestId : UInt16)
    (payload : List UInt8) :
    (controlFrame commandType srcId destId requestId payload).length = 7 + payload.length := by
  simp [controlFrame]
  omega

/-- The UART frame of a control packet. -/
def controlUartFrame (crc16_ccitt : UInt16 → List UInt8 → UInt16) (commandType : UInt8)
    (srcId destId : InstanceId) (requestId : UInt16) (payload : List UInt8) : List UInt8 :=
  uartFrame crc16_ccitt uartTypeGeneric
    (genericFrame genericTypeControl (controlFrame commandType srcId destId requestId payload))

/-- A message in which the CM4 sends some bytes. -/
def cm4Message (bytes : List UInt8) : PacketData where
  type := .incoming
  destId := 0
  srcId := instanceIdUartCm4
  resultCode := 0
  msg := .ofBytes bytes

/-- The message in which the cloud sends a control packet. -/
def cloudControl (commandType : UInt8) (destId : InstanceId) (requestId : UInt16)
    (payload : List UInt8) : PacketData where
  type := .incoming
  destId := 0
  srcId := instanceIdCloud
  resultCode := 0
  msg := .ofBytes (genericFrame genericTypeControl
    (controlFrame commandType instanceIdCloud destId requestId payload))

/-- The message in which a peripheral sends some bytes. -/
def peripheralData (srcId destId : InstanceId) (bytes : List UInt8) : PacketData where
  type := .outgoing
  destId := destId
  srcId := srcId
  resultCode := 0
  msg := .ofBytes bytes

end CrownstoneRouter
