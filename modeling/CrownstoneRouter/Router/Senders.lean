import CrownstoneRouter.Drivers.PortBounds
import CrownstoneRouter.Router.System

/-!
# What drivers hand over and send

Whatever a driver meets, it keeps the ids that it has been given and puts them into the data that it
hands over, and what it sends or writes for a handler is the message of the handler.
-/

namespace CrownstoneRouter

open CheckedMemory CheckedRun

variable {text : BtAddrText}

/-- Outgoing data comes from one of the two peripherals and goes to the cloud. -/
def ReportsToCloud (data : PacketData) : Prop :=
  data.type = .outgoing → data.destId = instanceIdCloud ∧
    (data.srcId = instanceIdUartRs485 ∨ data.srcId = instanceIdBlePeripheral)

/-! ## What is handed over -/

theorem Uart.reportsToCloud_of_packetOfMessage {uart : Uart} {msgBuf : Buffer UInt8 uartBufferSize}
    {data : PacketData} (hport : uart.srcId = instanceIdUartRs485 ∧ uart.destId = instanceIdCloud)
    (h : uart.packetOfMessage msgBuf = .ok data) : ReportsToCloud data := by
  rw [packetOfMessage_eq] at h
  obtain ⟨-, rfl⟩ := guard_eq_ok.mp h
  intro htype
  split_ifs at htype ⊢
  exact ⟨hport.2, .inl hport.1⟩

/-- What the receive thread hands over is incoming. -/
theorem ReceiveThread.handleMessageReceived_cases {ws next : ReceiveThread} {answer : RecvMsg}
    {pkth after : PacketHandler} {handed : Option PacketData}
    (h : ws.handleMessageReceived answer pkth = .ok (next, after, handed)) :
    (after = pkth ∧ handed = none) ∨
    ∃ data ret, data.type = .incoming ∧ pkth.handlePacket data = .ok (ret, after) ∧
      handed = some data := by
  unfold handleMessageReceived at h
  split_ifs at h with hrunning
  · cases h
    exact .inl ⟨rfl, rfl⟩
  · obtain ⟨⟨chunk, ended⟩, -, h⟩ := bind_eq_ok.mp h
    simp only at h
    split_ifs at h with hended
    · obtain ⟨buf, -, h⟩ := bind_eq_ok.mp h
      split at h
      · obtain ⟨⟨ret, other⟩, hhandle, h⟩ := bind_eq_ok.mp h
        dsimp only at h
        split_ifs at h
        · cases h
          exact .inr ⟨_, ret, rfl, hhandle, rfl⟩
        · cases h
          exact .inr ⟨_, ret, rfl, hhandle, rfl⟩
      · cases h
        exact .inl ⟨rfl, rfl⟩
    · cases h
      exact .inl ⟨rfl, rfl⟩

/-! ## Ids -/

namespace BleDriver

variable {ble next : BleDriver} {bt : BtAnswers} {calls : List BleCall}

/-- The driver sends as its own what it has sent before, and hands over data of its own only. -/
structure SamePort (ble next : BleDriver) (calls : List BleCall) : Prop where
  srcId : next.srcId = ble.srcId
  destId : next.destId = ble.destId
  initialized : next.initialized = ble.initialized
  packets : ∀ data ∈ calls.filterMap BleCall.packet,
    data.type = .outgoing ∧ data.srcId = ble.srcId ∧ data.destId = ble.destId

theorem SamePort.of_connect {deviceAddr : Checked (List UInt8)} {ret : RetCode}
    (h : ble.connect text deviceAddr bt = .ok (ret, next, calls)) : SamePort ble next calls := by
  rcases connect_cases h with ⟨rfl, rfl⟩ | ⟨str, -, rfl, rfl⟩
  · exact ⟨rfl, rfl, rfl, by simp⟩
  · exact ⟨rfl, rfl, rfl, by simp [BleCall.packet]⟩

theorem SamePort.of_discoverServices (ble : BleDriver) (uuid : Option ServiceUuid)
    (bt : BtAnswers) :
    SamePort ble (ble.discoverServices uuid bt).2.1 (ble.discoverServices uuid bt).2.2 := by
  unfold discoverServices
  split_ifs
  · exact ⟨rfl, rfl, rfl, by simp⟩
  · exact ⟨rfl, rfl, rfl, by simp⟩
  · exact ⟨rfl, rfl, rfl, by simp [BleCall.packet]⟩
  · exact ⟨rfl, rfl, rfl, by simp [BleCall.packet]⟩

theorem SamePort.of_handleConnectionResult {conn : ℕ} {connErr : UInt8} {dst : BtAddr}
    (h : ble.handleConnectionResult text conn connErr dst bt = .ok (next, calls)) :
    SamePort ble next calls := by
  unfold handleConnectionResult at h
  split_ifs at h with herr hmtu
  · obtain ⟨⟨ret, made, asked⟩, hconnect, h⟩ := bind_eq_ok.mp h
    cases h
    have hport := SamePort.of_connect hconnect
    exact ⟨hport.srcId, hport.destId, hport.initialized, hport.packets⟩
  · cases h
    exact ⟨rfl, rfl, rfl, by simp [BleCall.packet]⟩
  · cases h
    have hport := SamePort.of_discoverServices { ble with availableEvent := false }
      (some ble.uuidBase) bt
    exact ⟨hport.srcId, hport.destId, hport.initialized, hport.packets⟩

theorem SamePort.of_handleBleDeviceFound {addr : BtAddr} {type : UInt8}
    (h : ble.handleBleDeviceFound text addr type bt = .ok (next, calls)) :
    SamePort ble next calls := by
  rcases handleBleDeviceFound_cases h with
    ⟨rfl, rfl | rfl⟩ | ⟨-, -, ret, asked, hconnect, rfl⟩ | ⟨-, -, rfl, rfl⟩
  · exact ⟨rfl, rfl, rfl, by simp⟩
  · exact ⟨rfl, rfl, rfl, by simp [BleCall.packet]⟩
  · have hport := SamePort.of_connect hconnect
    exact ⟨hport.srcId, hport.destId, hport.initialized, hport.packets⟩
  · exact ⟨rfl, rfl, rfl, by simp [BleCall.packet]⟩

theorem SamePort.of_handleDisonnectionResult {conn : ℕ} {reason : UInt8} {dst : BtAddr}
    (h : ble.handleDisonnectionResult text conn reason dst bt = .ok (next, calls)) :
    SamePort ble next calls := by
  rcases handleDisonnectionResult_cases h with
    ⟨-, rfl, rfl⟩ | ⟨-, rfl, rfl⟩ | ⟨-, ret, asked, hconnect, rfl⟩
  · exact ⟨rfl, rfl, rfl, by simp⟩
  · exact ⟨rfl, rfl, rfl, by simp [BleCall.packet]⟩
  · have hport := SamePort.of_connect hconnect
    exact ⟨hport.srcId, hport.destId, hport.initialized, hport.packets⟩

theorem SamePort.of_handleDiscoveryResults {conn : ℕ} {attr : Option GattAttr}
    {fresh : ServiceUuid} {iter : GattIter}
    (h : ble.handleDiscoveryResults conn attr fresh = .ok (iter, next, calls)) :
    SamePort ble next calls := by
  unfold handleDiscoveryResults at h
  split at h
  · cases h
    exact ⟨rfl, rfl, rfl, by simp [BleCall.packet]⟩
  · simp only [ServiceUuid.ofUuid_eq, bind, bind_ok] at h
    split_ifs at h <;>
    · cases h
      exact ⟨rfl, rfl, rfl, by simp⟩
  · cases h
    exact ⟨rfl, rfl, rfl, by simp [BleCall.packet]⟩
  · simp only [discoverCharacteristic_eq, bind, bind_ok] at h
    cases h
    exact ⟨rfl, rfl, rfl, by simp⟩
  · cases h
    exact ⟨rfl, rfl, rfl, by simp⟩
  · cases h
    exact ⟨rfl, rfl, rfl, by simp [BleCall.packet]⟩

theorem SamePort.of_handleDiscoveryDone (ble : BleDriver) (err : UInt8) (bt : BtAnswers) :
    SamePort ble (ble.handleDiscoveryDone err bt).1 (ble.handleDiscoveryDone err bt).2 := by
  unfold handleDiscoveryDone
  split_ifs
  · exact ⟨rfl, rfl, rfl, by simp⟩
  · rcases read_cases ble ble.sessionDataHandle bt with ⟨-, -, hread⟩ | ⟨-, -, hread⟩
    · rw [hread]
      exact ⟨rfl, rfl, rfl, by simp⟩
    · rw [hread]
      exact ⟨rfl, rfl, rfl, by simp [BleCall.packet]⟩

theorem bufferPacket_port {data : PacketData} (h : ble.bufferPacket = .ok data) :
    data.type = .outgoing ∧ data.srcId = ble.srcId ∧ data.destId = ble.destId := by
  obtain ⟨buf, -, h⟩ := bind_eq_ok.mp h
  cases h
  exact ⟨rfl, rfl, rfl⟩

theorem mem_packets_handOver {data other : PacketData}
    (h : other ∈ (ble.handOver data ++ ble.disconnect.2).filterMap BleCall.packet) :
    other = data := by
  rw [packets_handOver] at h
  split_ifs at h
  · exact List.mem_singleton.mp h
  · simp at h

theorem SamePort.of_handleNotifications {conn : Option ℕ} {data : Option (List UInt8)}
    {length : UInt16} {iter : GattIter}
    (h : ble.handleNotifications conn data length = .ok (iter, next, calls)) :
    SamePort ble next calls := by
  rcases handleNotifications_cases h with ⟨-, -, rfl, rfl⟩ |
    ⟨-, part, bleBuf, filled, -, -, rfl, ⟨-, -, rfl, rfl⟩ | ⟨-, packet, hpacket, -, rfl, rfl⟩⟩
  · exact ⟨rfl, rfl, rfl, by simp⟩
  · exact ⟨rfl, rfl, rfl, by simp⟩
  · refine ⟨rfl, rfl, rfl, fun data hdata ↦ ?_⟩
    obtain rfl := mem_packets_handOver hdata
    have hport := bufferPacket_port hpacket
    exact hport

theorem SamePort.of_handleReadResult {err : UInt8} {data : Option (List UInt8)} {length : UInt16}
    {iter : GattIter} (h : ble.handleReadResult err data length = .ok (iter, next, calls)) :
    SamePort ble (next.advanceRead iter length) calls := by
  rcases handleReadResult_cases h with ⟨-, packet, hpacket, rfl, rfl, rfl⟩ |
    ⟨chunk, -, ⟨-, rfl, rfl, rfl⟩ | ⟨-, bleBuf, -, rfl, rfl, rfl⟩⟩
  · refine ⟨rfl, rfl, rfl, fun data hdata ↦ ?_⟩
    have hmem : data ∈ (ble.handOver packet ++ ble.disconnect.2).filterMap BleCall.packet := by
      rw [List.filterMap_append]
      exact List.mem_append_left _ hdata
    obtain rfl := mem_packets_handOver hmem
    exact bufferPacket_port hpacket
  · exact ⟨rfl, rfl, rfl, by simp⟩
  · exact ⟨rfl, rfl, rfl, by simp⟩

/-- Whatever the stack calls back with. -/
theorem SamePort.of_perform {event : BleEvent} (hcallback : event.action.isCallback = true)
    (h : ble.perform text event = .ok (next, calls)) : SamePort ble next calls := by
  obtain ⟨action, bt⟩ := event
  cases action with
  | deviceFound addr type => exact .of_handleBleDeviceFound h
  | connectionResult conn connErr dst => exact .of_handleConnectionResult h
  | disconnected conn reason dst => exact .of_handleDisonnectionResult h
  | discovered conn attr fresh =>
    obtain ⟨⟨iter, made, asked⟩, hdiscover, h⟩ := bind_eq_ok.mp h
    cases h
    exact .of_handleDiscoveryResults hdiscover
  | discoveryDone err =>
    have hport := SamePort.of_handleDiscoveryDone ble err bt
    rwa [Except.ok.inj h] at hport
  | notified conn data length =>
    obtain ⟨⟨iter, made, asked⟩, hnotified, h⟩ := bind_eq_ok.mp h
    cases h
    exact .of_handleNotifications hnotified
  | readResult err data length =>
    obtain ⟨⟨iter, made, asked⟩, hread, h⟩ := bind_eq_ok.mp h
    cases h
    exact .of_handleReadResult hread
  | connect deviceAddr => cases hcallback
  | discoverServices uuid => cases hcallback
  | write handle data len => cases hcallback
  | read handle => cases hcallback
  | disconnect => cases hcallback
  | sendMessage hdlr => cases hcallback

end BleDriver

/-! ## Messages -/

def NetCall.message : NetCall → Option (List UInt8)
  | .websocketSendMsg _ msg => some msg.contents
  | _ => none

theorem WebSocket.sendMessage_effect {ws : WebSocket} {hdlr after : Handler}
    {calls : List NetCall} (h : ws.sendMessage hdlr = some (after, calls)) :
    (calls.filterMap NetCall.message).Sublist [hdlr.msg.contents] := by
  unfold WebSocket.sendMessage at h
  split_ifs at h
  · cases h
    exact List.nil_sublist _
  · cases h
    exact List.Sublist.refl _

/-- The driver sends as its own what it has sent before, and all that it writes is the message. -/
theorem BleDriver.sendBleMessage_effect {ble next : BleDriver} {hdlr after : Handler}
    {bt : BtAnswers} {calls : List BleCall}
    (h : ble.sendBleMessage text hdlr bt = .ok (next, after, calls)) :
    (next.initialized = ble.initialized ∧ next.srcId = ble.srcId ∧ next.destId = ble.destId) ∧
      (calls.filterMap next.writtenBy).Sublist [hdlr.msg.contents] := by
  rcases sendBleMessage_cases h with
    ⟨-, -, ret, hconnect⟩ | ⟨-, -, -, ret, hwrite⟩ | ⟨-, -, -, rfl, rfl⟩
  · rcases connect_cases hconnect with ⟨rfl, rfl⟩ | ⟨str, -, rfl, rfl⟩
    · exact ⟨⟨rfl, rfl, rfl⟩, List.nil_sublist _⟩
    · exact ⟨⟨rfl, rfl, rfl⟩, List.nil_sublist _⟩
  · rcases writeHandle_cases hwrite with ⟨-, -, rfl, rfl⟩ | ⟨-, bleBuf, hcopy, rfl, rfl⟩
    · exact ⟨⟨rfl, rfl, rfl⟩, List.nil_sublist _⟩
    · have hslice : bleBuf.slice 0 hdlr.msg.bufLen.toNat = hdlr.msg.contents :=
        Buffer.slice_of_memcpy hcopy
      exact ⟨⟨rfl, rfl, rfl⟩, by simp [writtenBy, hslice]⟩
  · exact ⟨⟨rfl, rfl, rfl⟩, List.nil_sublist _⟩

end CrownstoneRouter
