import CrownstoneRouter.Drivers.BleAccesses
import CrownstoneRouter.Drivers.BleAddress
import CrownstoneRouter.Drivers.BleBounds
import CrownstoneRouter.Drivers.BleBuffer
import CrownstoneRouter.Drivers.BleCentral
import CrownstoneRouter.Drivers.BleContent
import CrownstoneRouter.Drivers.BleDiscovery
import CrownstoneRouter.Drivers.BleDriver
import CrownstoneRouter.Drivers.BleEvents
import CrownstoneRouter.Drivers.BleHandles
import CrownstoneRouter.Drivers.BleLink
import CrownstoneRouter.Drivers.BleReading
import CrownstoneRouter.Drivers.BleSessions
import CrownstoneRouter.Drivers.BleSetup
import CrownstoneRouter.Drivers.BleTarget
import CrownstoneRouter.Drivers.Duplex
import CrownstoneRouter.Drivers.FieldPort
import CrownstoneRouter.Drivers.GattDb
import CrownstoneRouter.Drivers.HalfDuplex
import CrownstoneRouter.Drivers.LineQueue
import CrownstoneRouter.Drivers.Locks
import CrownstoneRouter.Drivers.PortBounds
import CrownstoneRouter.Drivers.SerialInput
import CrownstoneRouter.Drivers.SerialLink
import CrownstoneRouter.Drivers.SerialOutput
import CrownstoneRouter.Drivers.ServiceUuid
import CrownstoneRouter.Drivers.Uart
import CrownstoneRouter.Drivers.UuidGrammar
import CrownstoneRouter.Drivers.UuidText
import CrownstoneRouter.Drivers.UuidWrapping
import CrownstoneRouter.Drivers.Wifi
import CrownstoneRouter.Drivers.WifiScan
import CrownstoneRouter.Drivers.WifiStatus
import CrownstoneRouter.Foundation.Assembly
import CrownstoneRouter.Foundation.EventWait
import CrownstoneRouter.Foundation.Isolation
import CrownstoneRouter.Foundation.LastWrite
import CrownstoneRouter.Foundation.Lines
import CrownstoneRouter.Foundation.LittleEndian
import CrownstoneRouter.Foundation.Loop
import CrownstoneRouter.Foundation.Mailbox
import CrownstoneRouter.Foundation.Memory
import CrownstoneRouter.Foundation.Origins
import CrownstoneRouter.Foundation.Recording
import CrownstoneRouter.Foundation.RequestSlot
import CrownstoneRouter.Foundation.RingQueue
import CrownstoneRouter.Foundation.Transition
import CrownstoneRouter.PacketHandling.Codec
import CrownstoneRouter.PacketHandling.Delivery
import CrownstoneRouter.PacketHandling.Dispatch
import CrownstoneRouter.PacketHandling.Encoding
import CrownstoneRouter.PacketHandling.Lookups
import CrownstoneRouter.PacketHandling.Packets
import CrownstoneRouter.PacketHandling.Queue
import CrownstoneRouter.PacketHandling.Registry
import CrownstoneRouter.PacketHandling.RegistryMap
import CrownstoneRouter.PacketHandling.RegistryRange
import CrownstoneRouter.PacketHandling.Requests
import CrownstoneRouter.PacketHandling.RoundTrip
import CrownstoneRouter.PacketHandling.UartLoading
import CrownstoneRouter.PacketHandling.Unregistering
import CrownstoneRouter.PacketHandling.Validation
import CrownstoneRouter.Router.Actors
import CrownstoneRouter.Router.Bringup
import CrownstoneRouter.Router.Dialogue
import CrownstoneRouter.Router.Exchange
import CrownstoneRouter.Router.Handover
import CrownstoneRouter.Router.MemorySafety
import CrownstoneRouter.Router.Offences
import CrownstoneRouter.Router.PortTurns
import CrownstoneRouter.Router.Progress
import CrownstoneRouter.Router.Provenance
import CrownstoneRouter.Router.Senders
import CrownstoneRouter.Router.Standby
import CrownstoneRouter.Router.Startup
import CrownstoneRouter.Router.System
import CrownstoneRouter.Sockets.Opening
import CrownstoneRouter.Sockets.Ownership
import CrownstoneRouter.Sockets.ReceiveLoop
import CrownstoneRouter.Sockets.Receiving
import CrownstoneRouter.Sockets.Socket
import CrownstoneRouter.Sockets.WebSocket
