import CrownstoneRouter.PacketHandling.Packets

/-!
# Sockets

The class `Socket` owns one id of the socket layer, which it asks for in either form of `init` and
gives back in `close`. Every operation returns the calls that it makes to the system, with the ids
that the system hands out; what the system answers is an input of the operation.

Texts are lists of bytes without the terminating zero.
-/

namespace CrownstoneRouter

open CheckedMemory

/-! ## The socket layer -/

/-- `sa_family_t` -/
abbrev AddressFamily := ℕ

/-- `AF_INET` -/
def afInet : AddressFamily := 1

/-- `AF_INET6` -/
def afInet6 : AddressFamily := 2

/-- `SOCK_STREAM` -/
def sockStream : ℕ := 1

/-- `IPPROTO_TCP` -/
def ipprotoTcp : ℕ := 6

/-- `DOMAIN_NAME_MAX_LEN` -/
abbrev domainNameMaxLen : ℕ := 64

/-- `sizeof(sockaddr_in)` -/
def sizeofSockaddrIn : ℕ := 8

/-- `sizeof(sockaddr_in6)` -/
def sizeofSockaddrIn6 : ℕ := 24

/-- `sockaddr`, of which `sockaddr_in` uses the first four bytes of the address. -/
structure SockAddr where
  saFamily : AddressFamily
  port : UInt16
  address : Buffer UInt8 16
  scopeId : UInt8
  deriving DecidableEq

/-- `zsock_addrinfo` -/
structure AddrInfo where
  aiFamily : AddressFamily
  aiSocktype : ℕ
  aiProtocol : ℕ
  aiAddr : SockAddr
  aiAddrlen : ℕ
  deriving DecidableEq

/-- What `zsock_inet_pton` returns, and the bytes that it writes. -/
structure InetPton where
  ret : ℤ
  written : List UInt8
  deriving DecidableEq

/-- `cs_socket_ip` -/
inductive SocketIp
  | ipv4
  | ipv6
  deriving DecidableEq

/-- The calls to the system that the network classes make. `socket` and `websocketConnect` carry the
id that the system returns. -/
inductive NetCall
  | getaddrinfo (host service : List UInt8)
  | socket (family : AddressFamily) (type proto : ℕ) (sockId : ℤ)
  | connect (sockId : ℤ) (addr : SockAddr) (addrLen : ℕ)
  | close (sockId : ℤ)
  | websocketConnect (sockId : ℤ) (host : Buffer UInt8 domainNameMaxLen) (url : List UInt8)
      (websockId : ℤ)
  | websocketSendMsg (websockId : ℤ) (msg : PacketBuffer)
  | websocketDisconnect (websockId : ℤ)
  deriving DecidableEq

namespace RetCode

/-- `CS_ERR_SOCKET_UNABLE_TO_RESOLVE_HOST` -/
def socketUnableToResolveHost : RetCode := 0x401

/-- `CS_ERR_SOCKET_CREATION_FAILED` -/
def socketCreationFailed : RetCode := 0x402

end RetCode

/-! ## The class -/

/-- The class `Socket`. -/
structure Socket where
  initialized : Bool
  sockId : ℤ
  addr : SockAddr
  addrLen : ℕ
  host : Buffer UInt8 domainNameMaxLen
  deriving DecidableEq

namespace Socket

/-- `sprintf(port_str, "%u", port)` -/
def portStr (port : UInt16) : List UInt8 :=
  (Nat.toDigits 10 port.toNat).map fun digit ↦ UInt8.ofNat digit.toNat

/-- `strncpy(_host, name, sizeof(_host))` -/
def copyHost (name : List UInt8) : Buffer UInt8 domainNameMaxLen :=
  (Buffer.fill domainNameMaxLen 0).overlay (name.take domainNameMaxLen)

/-- The end of both forms of `init`: keep the id that `zsock_socket` has returned. -/
def keepId (sock : Socket) (sockId : ℤ) : RetCode × Socket :=
  if sockId < 0 then (.socketCreationFailed, { sock with sockId := sockId })
  else (.ok, { sock with sockId := sockId, initialized := true })

@[simp]
theorem sockId_keepId (sock : Socket) (sockId : ℤ) : (sock.keepId sockId).2.sockId = sockId := by
  unfold keepId
  split_ifs <;> rfl

@[simp]
theorem initialized_keepId (sock : Socket) (sockId : ℤ) :
    (sock.keepId sockId).2.initialized = (sock.initialized || decide (0 ≤ sockId)) := by
  unfold keepId
  split_ifs with hsock
  · simp [hsock]
  · simp [Int.not_lt.mp hsock]

/-- `Socket::init` for a domain name; `resolved` is the result of the resolver and `sockId` that of
`zsock_socket`. The length of the address is not set. -/
def initDomain (sock : Socket) (domainName : List UInt8) (port : UInt16)
    (resolved : Option AddrInfo) (sockId : ℤ) : RetCode × Socket × List NetCall :=
  if sock.initialized then (.alreadyInitialized, sock, [])
  else
    match resolved with
    | none => (.socketUnableToResolveHost, sock, [.getaddrinfo domainName (portStr port)])
    | some res =>
        let sock : Socket := { sock with addr := res.aiAddr, host := copyHost domainName }
        let (ret, sock) := sock.keepId sockId
        (ret, sock, [.getaddrinfo domainName (portStr port),
          .socket res.aiFamily res.aiSocktype res.aiProtocol sockId])

/-- The address that `init` for a peer writes over the old one. -/
def peerAddr (addr : SockAddr) (ipVer : SocketIp) (port : UInt16) (parsed : InetPton) : SockAddr :=
  { addr with
    saFamily := if ipVer = .ipv6 then afInet6 else afInet
    port := port
    address := addr.address.overlay parsed.written }

/-- `Socket::init` for a peer address. It does not ask whether the object is initialized, and the
result of `zsock_inet_pton` is not looked at. -/
def initPeer (sock : Socket) (peerName : List UInt8) (ipVer : SocketIp) (port : UInt16)
    (parsed : InetPton) (sockId : ℤ) : RetCode × Socket × List NetCall :=
  let addr := peerAddr sock.addr ipVer port parsed
  let sock : Socket := { sock with
    addr := addr
    addrLen := if ipVer = .ipv6 then sizeofSockaddrIn6 else sizeofSockaddrIn
    host := copyHost peerName }
  let (ret, sock) := sock.keepId sockId
  (ret, sock, [.socket addr.saFamily sockStream ipprotoTcp sockId])

/-- `Socket::close`. The object stays initialized. -/
def close (sock : Socket) : RetCode × Socket × List NetCall :=
  if !sock.initialized then (.notInitialized, sock, [])
  else if 0 ≤ sock.sockId then (.ok, { sock with sockId := -1 }, [.close sock.sockId])
  else (.ok, sock, [])

/-- The object before `init`, with the address and host in the memory that it is created in. -/
def created (addr : SockAddr) (host : Buffer UInt8 domainNameMaxLen) : Socket where
  initialized := false
  sockId := -1
  addr := addr
  addrLen := 0
  host := host

end Socket

end CrownstoneRouter
