import CrownstoneRouter.Sockets.WebSocket

/-!
# The two ways of opening a socket

A socket is initialized for a domain name, whose address the resolver finds, or for the text of a
peer address. Both forms of `init` fill in the address that `WebSocket::connect` passes on, but only
the second one sets its length, and only the first one notices that it has not got an address.
-/

namespace CrownstoneRouter

open CheckedMemory

/-! ## Addresses -/

def SocketIp.family : SocketIp → AddressFamily
  | .ipv4 => afInet
  | .ipv6 => afInet6

def SocketIp.addressLen : SocketIp → ℕ
  | .ipv4 => 4
  | .ipv6 => 16

def SocketIp.sockaddrLen : SocketIp → ℕ
  | .ipv4 => sizeofSockaddrIn
  | .ipv6 => sizeofSockaddrIn6

/-- The fields of a socket address that belong to its family: `sockaddr_in6` has a scope besides
its sixteen bytes of address, `sockaddr_in` only the first four bytes. -/
def SockAddr.fields (addr : SockAddr) : AddressFamily × UInt16 × List UInt8 × Option UInt8 :=
  if addr.saFamily = afInet6 then
    (addr.saFamily, addr.port, addr.address.cells, some addr.scopeId)
  else (addr.saFamily, addr.port, addr.address.slice 0 4, none)

/-- What the resolver returns for a name with this address. -/
structure Resolves (res : AddrInfo) (ipVer : SocketIp) (address : Buffer UInt8 ipVer.addressLen)
    (port : UInt16) : Prop where
  family : res.aiAddr.saFamily = ipVer.family
  port : res.aiAddr.port = port
  address : res.aiAddr.address.slice 0 ipVer.addressLen = address.cells
  addrlen : res.aiAddrlen = ipVer.sockaddrLen

/-- What `zsock_inet_pton` does with the text of this address. -/
structure Parses (parsed : InetPton) {ipVer : SocketIp}
    (address : Buffer UInt8 ipVer.addressLen) : Prop where
  ret : parsed.ret = 1
  written : parsed.written = address.cells

/-! ## What is passed to `zsock_connect` -/

namespace WebSocket

/-- The object after `init` for a domain name. -/
def afterDomain (ws : WebSocket) (domainName : List UInt8) (port : UInt16)
    (resolved : Option AddrInfo) (sockId : ℤ) : WebSocket :=
  { ws with toSocket := (ws.toSocket.initDomain domainName port resolved sockId).2.1 }

/-- The object after `init` for a peer address. -/
def afterPeer (ws : WebSocket) (peerName : List UInt8) (ipVer : SocketIp) (port : UInt16)
    (parsed : InetPton) (sockId : ℤ) : WebSocket :=
  { ws with toSocket := (ws.toSocket.initPeer peerName ipVer port parsed sockId).2.1 }

/-- The socket addresses and their lengths that `connect` passes to `zsock_connect`. -/
def passed (ws : WebSocket) (url : Option (List UInt8)) (connected websockId : ℤ) :
    List ((AddressFamily × UInt16 × List UInt8 × Option UInt8) × ℕ) :=
  (ws.connect url connected websockId).2.2.filterMap fun call ↦
    match call with
    | .connect _ addr addrLen => some (addr.fields, addrLen)
    | _ => none

/-- An initialized object passes on what it has stored. -/
theorem passed_of_initialized {ws : WebSocket} (hinit : ws.initialized = true)
    (url : Option (List UInt8)) (connected websockId : ℤ) :
    ws.passed url connected websockId = [(ws.addr.fields, ws.addrLen)] := by
  unfold passed connect close Socket.close
  simp only [hinit]
  by_cases hconnected : connected < 0
  · simp [hconnected]
  · by_cases hwebsock : websockId < 0
    · by_cases hsock : 0 ≤ ws.sockId
      · simp [hconnected, hwebsock, hsock]
      · simp [hconnected, hwebsock, hsock]
    · simp [hconnected, hwebsock]

variable {ws : WebSocket} {ipVer : SocketIp} {port : UInt16}

/-- What is passed on after `init` for a domain name: the address found, with the length that the
object has had before. -/
theorem passed_afterDomain (hinit : ws.initialized = false) (domainName : List UInt8)
    (res : AddrInfo) {sockId : ℤ} (hsock : 0 ≤ sockId) (url : Option (List UInt8))
    (connected websockId : ℤ) :
    (ws.afterDomain domainName port (some res) sockId).passed url connected websockId =
      [(res.aiAddr.fields, ws.addrLen)] := by
  have hafter : ws.afterDomain domainName port (some res) sockId =
      { ws with
        addr := res.aiAddr
        host := Socket.copyHost domainName
        sockId := sockId
        initialized := true } := by
    simp [afterDomain, Socket.initDomain, Socket.keepId, hinit, Int.not_lt.mpr hsock]
  rw [hafter, passed_of_initialized rfl]

/-- What is passed on after `init` for a peer address: the address written over the old one, with
the length of its family. -/
theorem passed_afterPeer (peerName : List UInt8) (parsed : InetPton) {sockId : ℤ}
    (hsock : 0 ≤ sockId) (url : Option (List UInt8)) (connected websockId : ℤ) :
    (ws.afterPeer peerName ipVer port parsed sockId).passed url connected websockId =
      [((Socket.peerAddr ws.addr ipVer port parsed).fields, ipVer.sockaddrLen)] := by
  have hafter : ws.afterPeer peerName ipVer port parsed sockId =
      { ws with
        addr := Socket.peerAddr ws.addr ipVer port parsed
        addrLen := ipVer.sockaddrLen
        host := Socket.copyHost peerName
        sockId := sockId
        initialized := true } := by
    cases ipVer <;>
    · simp [afterPeer, Socket.initPeer, Socket.keepId, Int.not_lt.mpr hsock, SocketIp.sockaddrLen]
  rw [hafter, passed_of_initialized rfl]

/-- Two objects pass the same address with the same length to `zsock_connect`. -/
def PassSame (left right : WebSocket) : Prop :=
  ∀ url connected websockId url' connected' websockId',
    left.passed url connected websockId = right.passed url' connected' websockId'

end WebSocket

open WebSocket

variable {ws : WebSocket} {ipVer : SocketIp} {port : UInt16}

/-- The fields of an address that the resolver has found and of the same one written over another
differ at most in the scope. -/
theorem fields_eq_iff {res : AddrInfo} {parsed : InetPton} {addr : SockAddr}
    {address : Buffer UInt8 ipVer.addressLen} (hresolves : Resolves res ipVer address port)
    (hparses : Parses parsed address) :
    res.aiAddr.fields = (Socket.peerAddr addr ipVer port parsed).fields ↔
      (ipVer = .ipv6 → addr.scopeId = res.aiAddr.scopeId) := by
  obtain ⟨hfamily, hport, haddress, -⟩ := hresolves
  obtain ⟨-, hwritten⟩ := hparses
  have hlength : address.cells.length = ipVer.addressLen := address.length_cells
  have hsame : (addr.address.overlay address.cells).slice 0 ipVer.addressLen = address.cells := by
    have hfits : address.cells.length ≤ 16 := by
      rw [hlength]
      cases ipVer <;> decide
    have hslice := addr.address.slice_overlay hfits
    rwa [hlength] at hslice
  cases ipVer with
  | ipv4 =>
    have hother : afInet ≠ afInet6 := by decide
    simp only [SocketIp.family, SocketIp.addressLen] at hfamily haddress hsame
    simp [SockAddr.fields, Socket.peerAddr, hfamily, hother, hport, haddress, hwritten, hsame]
  | ipv6 =>
    simp only [SocketIp.family, SocketIp.addressLen] at hfamily haddress hsame
    rw [Buffer.slice_all] at haddress hsame
    simp [SockAddr.fields, Socket.peerAddr, hfamily, hport, haddress, hwritten, hsame, eq_comm]

/-- An initialization fails without leaving anything behind: it returns an error, the object is not
initialized, and no socket has been opened. -/
def FailsCleanly (result : RetCode × Socket × List NetCall) : Prop :=
  result.1 ≠ .ok ∧ result.2.1.initialized = false ∧
    ∀ family type proto sockId, .socket family type proto sockId ∈ result.2.2 → sockId < 0

/-- The two forms of `init` lead to the same address exactly if the object has the length of this
address from before, and for IPv6 also its scope. Without an address, `init` for a domain name fails
cleanly, and `init` for a peer address exactly if no socket can be opened. -/
theorem openings_agree_iff (hinit : ws.initialized = false) (port : UInt16) :
    (∀ (ipVer : SocketIp) (address : Buffer UInt8 ipVer.addressLen) (res : AddrInfo)
      (parsed : InetPton) (domainName peerName : List UInt8) (domainSock peerSock : ℤ),
      Resolves res ipVer address port → Parses parsed address → 0 ≤ domainSock → 0 ≤ peerSock →
      (PassSame (ws.afterDomain domainName port (some res) domainSock)
          (ws.afterPeer peerName ipVer port parsed peerSock) ↔
        ws.addrLen = ipVer.sockaddrLen ∧
          (ipVer = .ipv6 → ws.addr.scopeId = res.aiAddr.scopeId))) ∧
    (∀ (domainName : List UInt8) (sockId : ℤ),
      FailsCleanly (ws.toSocket.initDomain domainName port none sockId)) ∧
    (∀ (peerName : List UInt8) (ipVer : SocketIp) (parsed : InetPton) (sockId : ℤ),
      parsed.ret ≠ 1 →
      (FailsCleanly (ws.toSocket.initPeer peerName ipVer port parsed sockId) ↔ sockId < 0)) := by
  refine ⟨?_, ?_, ?_⟩
  · intro ipVer address res parsed domainName peerName domainSock peerSock hresolves hparses hdomain
      hpeer
    simp only [PassSame, passed_afterDomain hinit domainName res hdomain,
      passed_afterPeer peerName parsed hpeer, List.cons.injEq, Prod.mk.injEq, and_true,
      forall_const, fields_eq_iff hresolves hparses]
    exact and_comm
  · intro domainName sockId
    rw [Socket.initDomain, if_neg (by simp [hinit])]
    refine ⟨(by decide : RetCode.socketUnableToResolveHost ≠ .ok), hinit,
      fun family type proto sockId hcall ↦ ?_⟩
    simp at hcall
  · intro peerName ipVer parsed sockId _
    constructor
    · rintro ⟨hret, -⟩
      by_contra hsock
      exact hret (by simp [Socket.initPeer, Socket.keepId, hsock])
    · intro hsock
      refine ⟨?_, ?_, fun family type proto opened hcall ↦ ?_⟩
      · simp [Socket.initPeer, Socket.keepId, hsock]
        decide
      · simp [Socket.initPeer, hinit, Int.not_le.mpr hsock]
      · simp only [Socket.initPeer, List.mem_singleton] at hcall
        cases hcall
        exact hsock

/-- A peer at an IPv4 address, as the resolver finds it. -/
def resolvedPeer : AddrInfo where
  aiFamily := afInet
  aiSocktype := sockStream
  aiProtocol := ipprotoTcp
  aiAddr := {
    saFamily := afInet
    port := 80
    address := (Buffer.fill 16 0).overlay [10, 0, 0, 1]
    scopeId := 0 }
  aiAddrlen := sizeofSockaddrIn

/-- The same address as `zsock_inet_pton` reads it. -/
def parsedPeer : InetPton where
  ret := 1
  written := [10, 0, 0, 1]

def newWebSocket : WebSocket :=
  .created { saFamily := 0, port := 0, address := Buffer.fill 16 0, scopeId := 0 }
    (Buffer.fill domainNameMaxLen 0)

/-- An object whose `init` for another peer has got no socket passes on the right length; without an
address it is left alone by the resolver, and by a text if there is no socket again. -/
theorem openings_agree_after_failure :
    PassSame
      ((newWebSocket.afterPeer [0x31] .ipv4 8080 { ret := 0, written := [] } (-1)).afterDomain
        [0x61] 80 (some resolvedPeer) 3)
      ((newWebSocket.afterPeer [0x31] .ipv4 8080 { ret := 0, written := [] } (-1)).afterPeer
        [0x31, 0x30] .ipv4 80 parsedPeer 4) ∧
    FailsCleanly
      ((newWebSocket.afterPeer [0x31] .ipv4 8080 { ret := 0, written := [] } (-1)).initPeer
        [0x31] .ipv4 80 { ret := 0, written := [] } (-1)) :=
  ⟨((openings_agree_iff (by decide) 80).1 .ipv4 ⟨[10, 0, 0, 1], rfl⟩ resolvedPeer parsedPeer _ _ 3 4
      ⟨rfl, rfl, by decide, rfl⟩ ⟨rfl, rfl⟩ (by decide) (by decide)).mpr ⟨by decide, by decide⟩,
    ((openings_agree_iff (by decide) 80).2.2 _ _ _ _ (by decide)).mpr (by decide)⟩

/-- A new object passes on no length after `init` for a domain name, and takes a text that is no
address. -/
theorem openings_differ :
    ¬ PassSame (newWebSocket.afterDomain [0x61] 80 (some resolvedPeer) 3)
      (newWebSocket.afterPeer [0x31, 0x30] .ipv4 80 parsedPeer 4) ∧
    ¬ FailsCleanly (newWebSocket.initPeer [0x78] .ipv4 80 { ret := 0, written := [] } 3) := by
  constructor
  · intro hsame
    exact absurd (hsame none 0 0 none 0 0) (by decide)
  · intro hfails
    exact absurd hfails.1 (by decide)

end CrownstoneRouter
