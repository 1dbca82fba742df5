import Mathlib.Data.Finset.Basic
import CrownstoneRouter.Foundation.Transition
import CrownstoneRouter.Sockets.WebSocket

/-!
# Who owns the ids of a websocket

The system hands out the ids of sockets and websockets and takes them back when they are closed; it
may hand out an id again that has been closed. An object that owns its ids uses none that is not
open and forgets none that is.

A websocket object that is used carefully is in one of three states: it is closed, bound to a socket
or connected over it. Careful use is made exact by `ids_owned_iff`: what `init` for a peer, `close`
and a failed or repeated `connect` do to an object in use leads out of these states.
-/

namespace CrownstoneRouter

open CheckedMemory CheckedRun

/-! ## Open ids -/

/-- The ids that the system has handed out and not got back. -/
structure OpenIds where
  sockets : Finset ℤ
  websockets : Finset ℤ
  deriving DecidableEq

namespace OpenIds

/-- What a call opens or closes. An id below zero is an error. -/
def after (ids : OpenIds) : NetCall → OpenIds
  | .socket _ _ _ sockId =>
      if 0 ≤ sockId then { ids with sockets := insert sockId ids.sockets } else ids
  | .close sockId => { ids with sockets := ids.sockets.erase sockId }
  | .websocketConnect _ _ _ websockId =>
      if 0 ≤ websockId then { ids with websockets := insert websockId ids.websockets } else ids
  | .websocketDisconnect websockId => { ids with websockets := ids.websockets.erase websockId }
  | .getaddrinfo _ _ | .connect _ _ _ | .websocketSendMsg _ _ => ids

/-- A call uses an id only while it is open. -/
def Allows (ids : OpenIds) : NetCall → Prop
  | .connect sockId _ _ | .close sockId | .websocketConnect sockId _ _ _ => sockId ∈ ids.sockets
  | .websocketSendMsg websockId _ | .websocketDisconnect websockId => websockId ∈ ids.websockets
  | .getaddrinfo _ _ | .socket _ _ _ _ => True

instance (ids : OpenIds) : ∀ call, Decidable (ids.Allows call)
  | .connect sockId _ _ | .close sockId | .websocketConnect sockId _ _ _ =>
      inferInstanceAs (Decidable (sockId ∈ ids.sockets))
  | .websocketSendMsg websockId _ | .websocketDisconnect websockId =>
      inferInstanceAs (Decidable (websockId ∈ ids.websockets))
  | .getaddrinfo _ _ | .socket _ _ _ _ => inferInstanceAs (Decidable True)

/-- The system hands out only ids that are not open. -/
def Unused (ids : OpenIds) : NetCall → Prop
  | .socket _ _ _ id | .websocketConnect _ _ _ id => id ∉ ids.sockets ∧ id ∉ ids.websockets
  | .getaddrinfo _ _ | .connect _ _ _ | .close _ | .websocketSendMsg _ _
  | .websocketDisconnect _ => True

instance (ids : OpenIds) : ∀ call, Decidable (ids.Unused call)
  | .socket _ _ _ id | .websocketConnect _ _ _ id =>
      inferInstanceAs (Decidable (id ∉ ids.sockets ∧ id ∉ ids.websockets))
  | .getaddrinfo _ _ | .connect _ _ _ | .close _ | .websocketSendMsg _ _
  | .websocketDisconnect _ => inferInstanceAs (Decidable True)

def step (ids : OpenIds) (call : NetCall) : Checked OpenIds :=
  .ok (ids.after call)

end OpenIds

/-! ## Operations -/

/-- An operation on a websocket object, with what the system answers. -/
inductive SocketOp
  | initDomain (domainName : List UInt8) (port : UInt16) (resolved : Option AddrInfo) (sockId : ℤ)
  | initPeer (peerName : List UInt8) (ipVer : SocketIp) (port : UInt16) (parsed : InetPton)
      (sockId : ℤ)
  | connect (url : Option (List UInt8)) (connected websockId : ℤ)
  | sendMessage (hdlr : Handler)
  | close
  | closeSocket

/-- The object after an operation, and the calls that the operation makes. A message that waits for
a connection is sent by the operation that finds one. -/
def SocketOp.perform (ws : WebSocket) : SocketOp → WebSocket × List NetCall
  | .initDomain domainName port resolved sockId =>
      let (_, sock, calls) := ws.toSocket.initDomain domainName port resolved sockId
      ({ ws with toSocket := sock }, calls)
  | .initPeer peerName ipVer port parsed sockId =>
      let (_, sock, calls) := ws.toSocket.initPeer peerName ipVer port parsed sockId
      ({ ws with toSocket := sock }, calls)
  | .connect url connected websockId => (ws.connect url connected websockId).2
  | .sendMessage hdlr => (ws, (ws.sendMessage hdlr).elim [] Prod.snd)
  | .close => ws.close.2
  | .closeSocket =>
      let (_, sock, calls) := ws.toSocket.close
      ({ ws with toSocket := sock }, calls)

section Perform

variable {ws : WebSocket}

theorem perform_initDomain_of_initialized (hinit : ws.initialized = true)
    (domainName : List UInt8) (port : UInt16) (resolved : Option AddrInfo) (sockId : ℤ) :
    SocketOp.perform ws (.initDomain domainName port resolved sockId) = (ws, []) := by
  simp [SocketOp.perform, Socket.initDomain, hinit]

theorem perform_initDomain_none (hinit : ws.initialized = false) (domainName : List UInt8)
    (port : UInt16) (sockId : ℤ) :
    SocketOp.perform ws (.initDomain domainName port none sockId) =
      (ws, [.getaddrinfo domainName (Socket.portStr port)]) := by
  simp [SocketOp.perform, Socket.initDomain, hinit]

theorem perform_initDomain_some (hinit : ws.initialized = false) (domainName : List UInt8)
    (port : UInt16) (res : AddrInfo) (sockId : ℤ) :
    ∃ sock : Socket, sock.initialized = false ∧
      SocketOp.perform ws (.initDomain domainName port (some res) sockId) =
        ({ ws with toSocket := (sock.keepId sockId).2 },
          [.getaddrinfo domainName (Socket.portStr port),
            .socket res.aiFamily res.aiSocktype res.aiProtocol sockId]) := by
  refine ⟨{ ws.toSocket with addr := res.aiAddr, host := Socket.copyHost domainName }, hinit, ?_⟩
  simp [SocketOp.perform, Socket.initDomain, hinit]

theorem perform_initPeer (ws : WebSocket) (peerName : List UInt8) (ipVer : SocketIp)
    (port : UInt16) (parsed : InetPton) (sockId : ℤ) :
    ∃ (sock : Socket) (family : AddressFamily), sock.initialized = ws.initialized ∧
      SocketOp.perform ws (.initPeer peerName ipVer port parsed sockId) =
        ({ ws with toSocket := (sock.keepId sockId).2 },
          [.socket family sockStream ipprotoTcp sockId]) :=
  ⟨{ ws.toSocket with
      addr := Socket.peerAddr ws.addr ipVer port parsed
      addrLen := if ipVer = .ipv6 then sizeofSockaddrIn6 else sizeofSockaddrIn
      host := Socket.copyHost peerName }, _, rfl, rfl⟩

theorem perform_connect_of_not_initialized (hinit : ws.initialized = false)
    (url : Option (List UInt8)) (connected websockId : ℤ) :
    SocketOp.perform ws (.connect url connected websockId) = (ws, []) := by
  simp [SocketOp.perform, WebSocket.connect, hinit]

theorem perform_connect_of_refused (hinit : ws.initialized = true) (url : Option (List UInt8))
    {connected : ℤ} (hrefused : connected < 0) (websockId : ℤ) :
    SocketOp.perform ws (.connect url connected websockId) =
      ({ ws with connectedEvent := false }, [.connect ws.sockId ws.addr ws.addrLen]) := by
  simp [SocketOp.perform, WebSocket.connect, hinit, hrefused]

theorem perform_connect_of_established (hinit : ws.initialized = true) (url : Option (List UInt8))
    {connected websockId : ℤ} (hconnected : 0 ≤ connected) (hwebsock : 0 ≤ websockId) :
    SocketOp.perform ws (.connect url connected websockId) =
      ({ ws with websockId := websockId, connectedEvent := true },
        [.connect ws.sockId ws.addr ws.addrLen,
          .websocketConnect ws.sockId ws.host (WebSocket.urlBuf url) websockId]) := by
  simp [SocketOp.perform, WebSocket.connect, hinit, Int.not_lt.mpr hconnected,
    Int.not_lt.mpr hwebsock]

theorem perform_sendMessage_of_waiting (hevent : ws.connectedEvent = false) (hdlr : Handler) :
    SocketOp.perform ws (.sendMessage hdlr) = (ws, []) := by
  cases hinit : ws.initialized <;> simp [SocketOp.perform, WebSocket.sendMessage, hinit, hevent]

theorem perform_sendMessage_of_connected (hinit : ws.initialized = true)
    (hevent : ws.connectedEvent = true) (hdlr : Handler) :
    SocketOp.perform ws (.sendMessage hdlr) = (ws, [.websocketSendMsg ws.websockId hdlr.msg]) := by
  simp [SocketOp.perform, WebSocket.sendMessage, hinit, hevent, Handler.lockWork]

theorem perform_close_of_not_initialized (hinit : ws.initialized = false) :
    SocketOp.perform ws .close = (ws, []) ∧ SocketOp.perform ws .closeSocket = (ws, []) := by
  simp [SocketOp.perform, WebSocket.close, Socket.close, hinit]

theorem perform_connect_of_failed (hinit : ws.initialized = true) (hsock : 0 ≤ ws.sockId)
    (url : Option (List UInt8)) {connected websockId : ℤ} (hconnected : 0 ≤ connected)
    (hfailed : websockId < 0) :
    SocketOp.perform ws (.connect url connected websockId) =
      ({ ws with sockId := -1, websockId := websockId, connectedEvent := false },
        [.connect ws.sockId ws.addr ws.addrLen,
          .websocketConnect ws.sockId ws.host (WebSocket.urlBuf url) websockId,
          .close ws.sockId]) := by
  simp [SocketOp.perform, WebSocket.connect, WebSocket.close, Socket.close, hinit, hsock,
    Int.not_lt.mpr hconnected, hfailed]

theorem perform_close_of_initialized (hinit : ws.initialized = true) (hsock : 0 ≤ ws.sockId) :
    SocketOp.perform ws .close =
        ({ ws with sockId := -1 },
          (if 0 ≤ ws.websockId then [.websocketDisconnect ws.websockId] else []) ++
            [.close ws.sockId]) ∧
      SocketOp.perform ws .closeSocket = ({ ws with sockId := -1 }, [.close ws.sockId]) := by
  simp [SocketOp.perform, WebSocket.close, Socket.close, hinit, hsock]

end Perform

/-- A websocket object and the ids that are open. -/
structure SocketRun where
  ws : WebSocket
  ids : OpenIds

namespace SocketRun

def calls (run : SocketRun) (op : SocketOp) : List NetCall :=
  (op.perform run.ws).2

def next (run : SocketRun) (op : SocketOp) : SocketRun where
  ws := (op.perform run.ws).1
  ids := (run.calls op).foldl OpenIds.after run.ids

def step (run : SocketRun) (op : SocketOp) : Checked SocketRun :=
  .ok (run.next op)

def start (addr : SockAddr) (host : Buffer UInt8 domainNameMaxLen) : SocketRun where
  ws := .created addr host
  ids := { sockets := ∅, websockets := ∅ }

/-- No id that the system hands out is open. -/
def IdsUnused (run : SocketRun) (op : SocketOp) : Prop :=
  Along OpenIds.step OpenIds.Unused run.ids (run.calls op)

instance (run : SocketRun) (op : SocketOp) : Decidable (run.IdsUnused op) :=
  decidableAlong _ _

/-- Every open id is known to the object, and an initialized object has an open socket. -/
structure Owned (run : SocketRun) : Prop where
  initialized : run.ws.initialized = true → run.ws.sockId ∈ run.ids.sockets
  sockets : ∀ id ∈ run.ids.sockets, id = run.ws.sockId
  websockets : ∀ id ∈ run.ids.websockets, id = run.ws.websockId

/-- An operation uses only open ids, and afterwards none has been forgotten. -/
def Lawful (run : SocketRun) (op : SocketOp) : Prop :=
  Along OpenIds.step OpenIds.Allows run.ids (run.calls op) ∧ (run.next op).Owned

/-- An object in use is neither initialized for a peer again nor closed, and it opens a websocket
once, which does not fail after the socket has been connected. -/
def Careful (run : SocketRun) : SocketOp → Prop
  | .initDomain _ _ _ _ | .sendMessage _ => True
  | .initPeer _ _ _ _ _ | .close | .closeSocket => run.ws.initialized = false
  | .connect _ connected websockId => run.ws.initialized = true →
      connected < 0 ∨ 0 ≤ websockId ∧ run.ws.websockId < 0

instance (run : SocketRun) : ∀ op, Decidable (run.Careful op)
  | .initDomain _ _ _ _ | .sendMessage _ => inferInstanceAs (Decidable True)
  | .initPeer _ _ _ _ _ | .close | .closeSocket => inferInstanceAs (Decidable (_ = _))
  | .connect _ _ _ => inferInstanceAs (Decidable (_ = _ → _))

/-- The states of an object that is used carefully. -/
inductive Tidy (run : SocketRun) : Prop
  | closed (hinit : run.ws.initialized = false) (hwebsock : run.ws.websockId < 0)
      (hevent : run.ws.connectedEvent = false)
      (hids : run.ids = { sockets := ∅, websockets := ∅ })
  | bound (hinit : run.ws.initialized = true) (hsock : 0 ≤ run.ws.sockId)
      (hwebsock : run.ws.websockId < 0) (hevent : run.ws.connectedEvent = false)
      (hids : run.ids = { sockets := {run.ws.sockId}, websockets := ∅ })
  | connected (hinit : run.ws.initialized = true) (hsock : 0 ≤ run.ws.sockId)
      (hwebsock : 0 ≤ run.ws.websockId)
      (hids : run.ids = { sockets := {run.ws.sockId}, websockets := {run.ws.websockId} })

variable {run : SocketRun} {op : SocketOp}

theorem Tidy.of_not_initialized (h : Tidy run) (hinit : run.ws.initialized = false) :
    run.ws.websockId < 0 ∧ run.ws.connectedEvent = false ∧
      run.ids = { sockets := ∅, websockets := ∅ } := by
  cases h with
  | closed _ hwebsock hevent hids => exact ⟨hwebsock, hevent, hids⟩
  | bound hinit' _ _ _ _ => cases hinit.symm.trans hinit'
  | connected hinit' _ _ _ => cases hinit.symm.trans hinit'

theorem Tidy.of_initialized (h : Tidy run) (hinit : run.ws.initialized = true) :
    0 ≤ run.ws.sockId ∧ run.ids.sockets = {run.ws.sockId} ∧
      (0 ≤ run.ws.websockId → run.ids.websockets = {run.ws.websockId}) := by
  cases h with
  | closed hinit' _ _ _ => cases hinit.symm.trans hinit'
  | bound _ hsock hwebsock _ hids => exact ⟨hsock, by rw [hids], fun h ↦ by omega⟩
  | connected _ hsock _ hids => exact ⟨hsock, by rw [hids], fun _ ↦ by rw [hids]⟩

theorem Tidy.owned (h : Tidy run) : run.Owned := by
  cases h with
  | closed hinit _ _ hids => constructor <;> simp [hinit, hids]
  | bound _ _ _ _ hids => constructor <;> simp [hids]
  | connected _ _ _ hids => constructor <;> simp [hids]

theorem along_calls (condition : OpenIds → NetCall → Prop) (ids : OpenIds) (call : NetCall)
    (rest : List NetCall) :
    Along OpenIds.step condition ids (call :: rest) ↔
      condition ids call ∧ Along OpenIds.step condition (ids.after call) rest := by
  simp [along_cons, OpenIds.step]

theorem next_of_perform {ws : WebSocket} {calls : List NetCall}
    (h : op.perform run.ws = (ws, calls)) :
    run.calls op = calls ∧ run.next op = { ws, ids := calls.foldl OpenIds.after run.ids } := by
  simp [SocketRun.calls, SocketRun.next, h]

theorem tidy_of_keepId {ws : WebSocket} {ids : OpenIds} {sock : Socket} (family type proto : ℕ)
    (sockId : ℤ) (hinit : sock.initialized = false) (hwebsock : ws.websockId < 0)
    (hevent : ws.connectedEvent = false) (hids : ids = { sockets := ∅, websockets := ∅ }) :
    Tidy { ws := { ws with toSocket := (sock.keepId sockId).2 },
           ids := ids.after (.socket family type proto sockId) } := by
  subst hids
  by_cases hsock : 0 ≤ sockId
  · apply Tidy.bound <;> simp [hsock, hwebsock, hevent, OpenIds.after]
  · apply Tidy.closed <;> simp [hsock, hinit, hwebsock, hevent, OpenIds.after]

/-- An operation makes allowed calls only and ends in one of the three states. -/
structure StaysTidy (run : SocketRun) (op : SocketOp) : Prop where
  allows : Along OpenIds.step OpenIds.Allows run.ids (run.calls op)
  next : Tidy (run.next op)

theorem StaysTidy.of_perform {ws : WebSocket} {calls : List NetCall}
    (hperform : op.perform run.ws = (ws, calls))
    (hallowed : Along OpenIds.step OpenIds.Allows run.ids calls)
    (htidy : Tidy { ws, ids := calls.foldl OpenIds.after run.ids }) : run.StaysTidy op := by
  obtain ⟨hcalls, hnext⟩ := next_of_perform hperform
  exact ⟨by rwa [hcalls], by rwa [hnext]⟩

theorem Tidy.idle (h : Tidy run) (hperform : op.perform run.ws = (run.ws, [])) :
    run.StaysTidy op :=
  .of_perform hperform along_nil h

/-- An initialization by domain name. -/
theorem Tidy.initDomain (h : Tidy run) (domainName : List UInt8) (port : UInt16)
    (resolved : Option AddrInfo) (sockId : ℤ) :
    run.StaysTidy (.initDomain domainName port resolved sockId) := by
  cases hinit : run.ws.initialized with
  | true => exact h.idle (perform_initDomain_of_initialized hinit domainName port resolved sockId)
  | false =>
    obtain ⟨hwebsock, hevent, hids⟩ := h.of_not_initialized hinit
    cases resolved with
    | none =>
      exact .of_perform (perform_initDomain_none hinit domainName port sockId)
        (by simp [along_calls, OpenIds.Allows]) h
    | some res =>
      obtain ⟨sock, hsock, hperform⟩ := perform_initDomain_some hinit domainName port res sockId
      exact .of_perform hperform (by simp [along_calls, OpenIds.Allows])
        (tidy_of_keepId res.aiFamily res.aiSocktype res.aiProtocol sockId hsock hwebsock hevent hids)

/-- A connection of an initialized object, which is refused or has a websocket in the end. -/
theorem Tidy.connect (h : Tidy run) (hinit : run.ws.initialized = true)
    (url : Option (List UInt8)) {connected websockId : ℤ}
    (hcareful : connected < 0 ∨ 0 ≤ websockId ∧ run.ws.websockId < 0) :
    run.StaysTidy (.connect url connected websockId) := by
  have hopen : run.ws.sockId ∈ run.ids.sockets := h.owned.initialized hinit
  by_cases hrefused : connected < 0
  · apply StaysTidy.of_perform (perform_connect_of_refused hinit url hrefused websockId)
    · simp [along_calls, OpenIds.Allows, hopen]
    · cases h with
      | closed hinit' _ _ _ => cases hinit.symm.trans hinit'
      | bound _ hsock hwebsock _ hids => exact .bound hinit hsock hwebsock rfl hids
      | connected _ hsock hwebsock hids => exact .connected hinit hsock hwebsock hids
  · obtain ⟨hestablished, hfirst⟩ := hcareful.resolve_left hrefused
    apply StaysTidy.of_perform
      (perform_connect_of_established hinit url (Int.not_lt.mp hrefused) hestablished)
    · simp [along_calls, OpenIds.Allows, OpenIds.after, hopen]
    · cases h with
      | closed hinit' _ _ _ => cases hinit.symm.trans hinit'
      | bound _ hsock _ _ hids =>
        refine .connected hinit hsock hestablished ?_
        simp [OpenIds.after, hids, hestablished]
      | connected _ _ hwebsock _ => omega

/-- A message, which is sent over a websocket only. -/
theorem Tidy.sendMessage (h : Tidy run) (hdlr : Handler) :
    run.StaysTidy (.sendMessage hdlr) := by
  cases hevent : run.ws.connectedEvent with
  | false => exact h.idle (perform_sendMessage_of_waiting hevent hdlr)
  | true =>
    cases h with
    | closed _ _ hevent' _ => cases hevent.symm.trans hevent'
    | bound _ _ _ hevent' _ => cases hevent.symm.trans hevent'
    | connected hinit hsock hwebsock hids =>
      exact .of_perform (perform_sendMessage_of_connected hinit hevent hdlr)
        (by simp [along_calls, OpenIds.Allows, hids]) (.connected hinit hsock hwebsock hids)

/-- Careful use makes allowed calls only and keeps to the three states. -/
theorem Tidy.next (h : Tidy run) (hcareful : run.Careful op) : run.StaysTidy op := by
  cases op with
  | initDomain domainName port resolved sockId => exact h.initDomain domainName port resolved sockId
  | initPeer peerName ipVer port parsed sockId =>
    obtain ⟨hwebsock, hevent, hids⟩ := h.of_not_initialized hcareful
    obtain ⟨sock, family, hsock, hperform⟩ :=
      perform_initPeer run.ws peerName ipVer port parsed sockId
    exact .of_perform hperform (by simp [along_calls, OpenIds.Allows])
      (tidy_of_keepId family sockStream ipprotoTcp sockId (hsock.trans hcareful) hwebsock hevent
        hids)
  | connect url connected websockId =>
    cases hinit : run.ws.initialized with
    | false => exact h.idle (perform_connect_of_not_initialized hinit url connected websockId)
    | true => exact h.connect hinit url (hcareful hinit)
  | sendMessage hdlr => exact h.sendMessage hdlr
  | close => exact h.idle (perform_close_of_not_initialized hcareful).1
  | closeSocket => exact h.idle (perform_close_of_not_initialized hcareful).2

theorem not_owned_of_closed (hinit : run.ws.initialized = true) (hclosed : run.ids.sockets = ∅) :
    ¬ run.Owned := by
  intro howned
  have hopen := howned.initialized hinit
  rw [hclosed] at hopen
  exact Finset.notMem_empty _ hopen

/-- Careless use loses an id, or leaves the object initialized without a socket. -/
theorem Tidy.not_owned (h : Tidy run) (hunused : run.IdsUnused op) (hcareless : ¬ run.Careful op) :
    ¬ (run.next op).Owned := by
  cases op with
  | initDomain | sendMessage => exact absurd trivial hcareless
  | initPeer peerName ipVer port parsed sockId =>
    obtain ⟨hsock, hsockets, -⟩ := h.of_initialized (Bool.eq_true_of_not_eq_false hcareless)
    obtain ⟨sock, family, -, hperform⟩ := perform_initPeer run.ws peerName ipVer port parsed sockId
    obtain ⟨hcalls, hnext⟩ := next_of_perform hperform
    rw [IdsUnused, hcalls, along_calls, OpenIds.Unused, hsockets] at hunused
    have hnew : sockId ≠ run.ws.sockId := by simpa using hunused.1.1
    rw [hnext]
    intro howned
    have hold : run.ws.sockId = sockId := by
      have hforgotten := howned.sockets run.ws.sockId
      simp only [OpenIds.after, List.foldl, hsockets, Socket.sockId_keepId] at hforgotten
      exact hforgotten (by split_ifs <;> simp [hsockets])
    exact hnew hold.symm
  | connect url connected websockId =>
    obtain ⟨hinit, hconnected, hrepeated⟩ : run.ws.initialized = true ∧ 0 ≤ connected ∧
        (0 ≤ websockId → 0 ≤ run.ws.websockId) := by
      simpa [Careful] using hcareless
    obtain ⟨hsock, hsockets, hwebsockets⟩ := h.of_initialized hinit
    by_cases hfailed : websockId < 0
    · obtain ⟨-, hnext⟩ := next_of_perform
        (perform_connect_of_failed hinit hsock url hconnected hfailed)
      rw [hnext]
      exact not_owned_of_closed hinit
        (by simp [OpenIds.after, hsockets, Int.not_le.mpr hfailed])
    · have hestablished := Int.not_lt.mp hfailed
      obtain ⟨hcalls, hnext⟩ := next_of_perform
        (perform_connect_of_established hinit url hconnected hestablished)
      have hopen := hwebsockets (hrepeated hestablished)
      rw [IdsUnused, hcalls, along_calls, along_calls] at hunused
      have hnew : websockId ≠ run.ws.websockId := by
        simpa [OpenIds.Unused, OpenIds.after, hopen] using hunused.2.1.2
      rw [hnext]
      intro howned
      have hold : run.ws.websockId = websockId :=
        howned.websockets run.ws.websockId (by simp [OpenIds.after, hopen, hestablished])
      exact hnew hold.symm
  | close =>
    have hinit := Bool.eq_true_of_not_eq_false hcareless
    obtain ⟨hsock, hsockets, -⟩ := h.of_initialized hinit
    obtain ⟨-, hnext⟩ := next_of_perform (perform_close_of_initialized hinit hsock).1
    rw [hnext]
    refine not_owned_of_closed ?_ ?_
    · exact hinit
    split_ifs <;> simp [OpenIds.after, hsockets]
  | closeSocket =>
    have hinit := Bool.eq_true_of_not_eq_false hcareless
    obtain ⟨hsock, hsockets, -⟩ := h.of_initialized hinit
    obtain ⟨-, hnext⟩ := next_of_perform (perform_close_of_initialized hinit hsock).2
    rw [hnext]
    exact not_owned_of_closed hinit (by simp [OpenIds.after, hsockets])

/-- The ids of a websocket object are owned exactly once over a run exactly if the object is used
carefully: it is neither initialized for a peer nor closed while it is in use, and it opens one
websocket, which does not fail after the socket has been connected. -/
theorem ids_owned_iff (addr : SockAddr) (host : Buffer UInt8 domainNameMaxLen)
    {ops : List SocketOp} (hunused : Along SocketRun.step IdsUnused (.start addr host) ops) :
    Along SocketRun.step Lawful (.start addr host) ops ↔
      Along SocketRun.step Careful (.start addr host) ops := by
  have hstart : Tidy (.start addr host) :=
    .closed rfl (by simp [start, WebSocket.created]) rfl rfl
  have hiff {run : SocketRun} {op : SocketOp} (h : Tidy run) (hunused : run.IdsUnused op) :
      run.Lawful op ↔ run.Careful op := by
    constructor
    · intro hlawful
      by_contra hcareless
      exact h.not_owned hunused hcareless hlawful.2
    · intro hcareful
      obtain ⟨hallowed, hnext⟩ := h.next hcareful
      exact ⟨hallowed, hnext.owned⟩
  refine along_congr hiff (fun h hunused hlawful hnext ↦ ?_) hstart hunused
  cases hnext
  exact (h.next ((hiff h hunused).mp hlawful)).next

end SocketRun

open SocketRun

def zeroedSocketRun : SocketRun :=
  .start { saFamily := 0, port := 0, address := Buffer.fill 16 0, scopeId := 0 }
    (Buffer.fill domainNameMaxLen 0)

def initRouterSocket : SocketOp :=
  .initPeer [0x31, 0x2E, 0x32, 0x2E, 0x33, 0x2E, 0x34] .ipv4 80
    { ret := 0, written := [1, 2, 3, 4] } 3

/-- The ids are owned while the router starts, connects and is asked to initialize again. -/
theorem ids_owned_of_start :
    Along SocketRun.step Lawful zeroedSocketRun
      [initRouterSocket, .connect none (-1) 0, .connect none 0 4, .sendMessage
        (PacketHandler.newHandler instanceIdCloud 0 0), .initDomain [] 80 none 0] := by
  have hunused : Along SocketRun.step IdsUnused zeroedSocketRun
      [initRouterSocket, .connect none (-1) 0, .connect none 0 4, .sendMessage
        (PacketHandler.newHandler instanceIdCloud 0 0), .initDomain [] 80 none 0] := by
    decide +kernel
  exact (ids_owned_iff _ _ hunused).mpr (by decide +kernel)

/-- A closed object stays initialized, and connects with the id of no socket. -/
theorem closed_socket_is_used :
    ∃ last, run SocketRun.step zeroedSocketRun [initRouterSocket, .close] = .ok last ∧
      last.ws.initialized = true ∧ last.ws.sockId = -1 ∧
      ¬ Along OpenIds.step OpenIds.Allows last.ids (last.calls (.connect none (-1) 0)) ∧
      ¬ Along SocketRun.step Lawful zeroedSocketRun [initRouterSocket, .close] := by
  refine ⟨_, rfl, rfl, rfl, by decide +kernel, fun hlawful ↦ ?_⟩
  exact absurd ((hlawful.2 _ rfl).1.2.initialized rfl) (by decide +kernel)

end CrownstoneRouter
