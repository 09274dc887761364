import Balancer.Core.LoadBalancer
import Balancer.Foundation.Run

/-! The registry of connections on its own: who owns which descriptor, what the
budget and the node counters hold, and the moves by which connections come, are
paired, exchange bytes and go. A connection that a running call has in its hands,
and is in no table, is in `hand`. -/

namespace Balancer.Registry
open Foundation Http Net Core

/-- The registered descriptors and the callback table. -/
@[ext] structure Watch where
  armed : Finset Fd
  callbacks : FiniteMap Fd Callback

namespace Watch

def addFd (watch : Watch) (fd : Fd) (callback : Callback) : Watch :=
  if fd ∈ watch.armed then watch else ⟨insert fd watch.armed, watch.callbacks.insert fd callback⟩

def delFd (watch : Watch) (fd : Fd) : Watch :=
  if fd ∈ watch.armed then ⟨watch.armed.erase fd, watch.callbacks.erase fd⟩ else watch

def forget (watch : Watch) (fd : Fd) : Watch := { watch with armed := watch.armed.erase fd }

theorem forget_of_notMem (watch : Watch) {fd : Fd} (absent : fd ∉ watch.armed) : watch.forget fd = watch := by
  simp [forget, absent]

theorem armed_delFd (watch : Watch) (fd : Fd) : (watch.delFd fd).armed = watch.armed.erase fd := by
  unfold delFd
  split
  · rfl
  case isFalse absent => simp [absent]

theorem callbacks_delFd (watch : Watch) {fd other : Fd} (different : other ≠ fd) :
    (watch.delFd fd).callbacks.find other = watch.callbacks.find other := by
  unfold delFd
  split <;> simp [different]

theorem delFd_forget (watch : Watch) (fd : Fd) : (watch.delFd fd).forget fd = watch.delFd fd :=
  forget_of_notMem _ (by simp [armed_delFd])

theorem delFd_comm (watch : Watch) (first second : Fd) :
    (watch.delFd first).delFd second = (watch.delFd second).delFd first := by
  by_cases same : first = second
  · rw [same]
  · have other : second ≠ first := fun equal => same equal.symm
    by_cases one : first ∈ watch.armed <;> by_cases two : second ∈ watch.armed <;>
      simp [delFd, one, two, same, other, Finset.erase_right_comm, FiniteMap.erase_comm _ first second]

theorem delFd_delFd_forget (watch : Watch) (first second : Fd) :
    ((watch.delFd first).delFd second).forget first = (watch.delFd first).delFd second :=
  forget_of_notMem _ (by simp [armed_delFd])

theorem forget_comm (watch : Watch) (first second : Fd) :
    (watch.forget first).forget second = (watch.forget second).forget first := by
  simp only [forget, Finset.erase_right_comm]

theorem armed_addFd (watch : Watch) (fd : Fd) (callback : Callback) :
    (watch.addFd fd callback).armed = insert fd watch.armed := by
  unfold addFd
  split
  case isTrue present => exact (Finset.insert_eq_of_mem present).symm
  case isFalse => rfl

theorem callbacks_addFd (watch : Watch) {fd other : Fd} (callback : Callback) (different : other ≠ fd) :
    (watch.addFd fd callback).callbacks.find other = watch.callbacks.find other := by
  unfold addFd
  split <;> simp [different]

theorem callbacks_addFd_self (watch : Watch) {fd : Fd} (callback : Callback)
    (kept : fd ∈ watch.armed → watch.callbacks.find fd = some callback) :
    (watch.addFd fd callback).callbacks.find fd = some callback := by
  unfold addFd
  split
  case isTrue present => exact kept present
  case isFalse => simp

end Watch

/-- The counter of a live node, and whether it was ever taken from at zero. -/
@[ext] structure Load where
  active : Nat
  clamped : Bool

namespace Load

def up (load : Load) : Load := { load with active := (load.active + 1) % 2 ^ 32 }

def down (load : Load) : Load :=
  if 0 < load.active then { load with active := load.active - 1 } else { load with clamped := true }

end Load

structure Ledger where
  http : Bool
  splice : Bool
  connections : FiniteMap Fd Connection
  backends : FiniteMap Fd NodeId
  clients : FiniteMap Fd Fd
  loads : NodeId → Option Load
  budget : MemoryBudget
  sockets : FiniteMap Fd Socket
  watch : Watch
  idle : Multiset Connection
  waiting : Multiset Fd
  pipes : Multiset Fd
  hand : Multiset Connection
  httpStates : FiniteMap Fd HttpState
  sessionKeys : FiniteMap Fd Bytes
  diary : Diary
  endings : List Ending
  releases : List Release
  handouts : List Handout

namespace Ledger

/-- The descriptors that something owns. -/
def owners (ledger : Ledger) : Multiset Fd :=
  ledger.connections.keys.val + ledger.idle.map Connection.fd + ledger.waiting + ledger.pipes +
    ledger.hand.map Connection.fd

/-- Add one to the counter of a live node. -/
def countUp (loads : NodeId → Option Load) (id : NodeId) : NodeId → Option Load :=
  fun other => if other = id then (loads other).map Load.up else loads other

/-- Take one from the counter of a live node, not below zero. -/
def countDown (loads : NodeId → Option Load) (id : NodeId) : NodeId → Option Load :=
  fun other => if other = id then (loads other).map Load.down else loads other

/-- Close a connection that is in no table. -/
def close (ledger : Ledger) (conn : Connection) : Ledger :=
  { ledger with
    budget := Endpoint.releaseBytes conn ledger.budget (conn.readBuf.length + conn.writeBuf.length)
    sockets := ledger.sockets.erase conn.fd
    watch := ledger.watch.forget conn.fd }

/-- Take a backend out of the registry; its client stays without a peer. -/
def unlink (ledger : Ledger) (backend client : Connection) (id : NodeId) : Ledger :=
  { ledger with
    connections := (ledger.connections.erase backend.fd).insert client.fd { client with peer := none }
    backends := ledger.backends.erase backend.fd
    clients := ledger.clients.erase backend.fd
    watch := ledger.watch.delFd backend.fd
    loads := if backend.state = .established then countDown ledger.loads id else ledger.loads }

/-- Two connections that point at each other, with the entry of the backend. -/
structure Linked (ledger : Ledger) (backend client : Connection) (id : NodeId) : Prop where
  backendFound : ledger.connections.find backend.fd = some backend
  clientFound : ledger.connections.find client.fd = some client
  entry : ledger.clients.find backend.fd = some client.fd
  node : ledger.backends.find backend.fd = some id

/-- The budget took up `count` bytes without a refusal. -/
def Grown (before after : MemoryBudget) (count : Nat) : Prop :=
  after.limit = before.limit ∧
    (before.limit ≠ 0 → after.used = before.used + count ∧ after.clamped = before.clamped ∧
      (before.used ≤ before.limit → after.used ≤ after.limit)) ∧
    (before.limit = 0 → after.used ≤ before.used)

/-- How the accounting of a connection takes up `count` bytes. -/
def Charged (conn : Connection) (before after : MemoryBudget) (count : Nat) : Prop :=
  if conn.accounted then Grown before after count else after = before

/-- A connection as `clear_buffers` and the release callback leave it. -/
def cleared (conn : Connection) : Connection :=
  { conn with
    readBuf := [], writeBuf := [], memoryBlocked := false, bufferFull := false, peer := none,
    state := .established }

/-- The socket of a released connection, with the exchange that has ended. -/
def closedExchange (conn : Connection) (socket : Socket) : Socket :=
  { socket with past := socket.past ++ [(socket.sent ++ conn.writeBuf, socket.sent)] }

/-- The socket of a connection that is handed out again. -/
def openExchange (socket : Socket) : Socket :=
  { socket with exchange := socket.exchange + 1, taken := [], sent := [], arrived := [] }

end Ledger

open Ledger

/-- What one operation of the balancer can do to the registry without a new entry. -/
inductive Move : Ledger → Ledger → Prop
  /-- Flags that no invariant is about. -/
  | touch {ledger fd conn} (blocked tls : Bool) (found : ledger.connections.find fd = some conn) :
      Move ledger { ledger with
        connections := ledger.connections.insert fd { conn with memoryBlocked := blocked, tls := tls } }
  /-- A read that moved bytes. -/
  | read {ledger fd conn socket} (data rest : Bytes) (budget : MemoryBudget)
      (found : ledger.connections.find fd = some conn) (isOpen : ledger.sockets.find fd = some socket)
      (queue : socket.rx = data ++ rest) (fits : conn.readBuf.length + data.length ≤ maxBufferSize)
      (charged : Charged conn ledger.budget budget data.length) :
      Move ledger { ledger with
        connections := ledger.connections.insert fd { conn with
          readBuf := conn.readBuf ++ data
          bytesRead := conn.bytesRead + data.length
          memoryBlocked := false
          bufferFull := decide (maxBufferSize ≤ (conn.readBuf ++ data).length) }
        sockets := ledger.sockets.insert fd { socket with rx := rest, taken := socket.taken ++ data }
        budget := budget }
  /-- A read that moved nothing. -/
  | miss {ledger fd conn} (blocked : Bool) (budget : MemoryBudget)
      (found : ledger.connections.find fd = some conn) (charged : Charged conn ledger.budget budget 0) :
      Move ledger { ledger with
        connections := ledger.connections.insert fd { conn with
          memoryBlocked := blocked, bufferFull := decide (maxBufferSize ≤ conn.readBuf.length) }
        budget := budget }
  | write {ledger fd conn socket} (count : Nat)
      (found : ledger.connections.find fd = some conn) (isOpen : ledger.sockets.find fd = some socket)
      (most : count ≤ conn.writeBuf.length) :
      Move ledger { ledger with
        connections := ledger.connections.insert fd { conn with
          writeBuf := conn.writeBuf.drop count
          bytesWritten := conn.bytesWritten + count
          memoryBlocked := false }
        sockets := ledger.sockets.insert fd { socket with sent := socket.sent ++ conn.writeBuf.take count }
        budget := Endpoint.releaseBytes conn ledger.budget count }
  /-- Bytes go from the read buffer of one established connection to the write
  buffer of its peer. -/
  | transfer {ledger source target} {sender receiver : Connection} (count : Nat) (full : Bool)
      (sending : ledger.connections.find source = some sender)
      (receiving : ledger.connections.find target = some receiver) (peers : sender.peer = some target)
      (senderUp : sender.state = .established) (receiverUp : receiver.state = .established)
      (most : count ≤ sender.readBuf.length) (room : receiver.writeBuf.length + count ≤ maxBufferSize)
      (flag : ledger.splice = false →
        full = (sender.bufferFull && decide (maxBufferSize ≤ (sender.readBuf.drop count).length))) :
      Move ledger { ledger with
        connections := (ledger.connections.insert target
          { receiver with writeBuf := receiver.writeBuf ++ sender.readBuf.take count }).insert source
          { sender with readBuf := sender.readBuf.drop count, bufferFull := full } }
  /-- A message is rewritten in the read buffer. -/
  | rewrite {ledger fd conn} (message : Bytes) (blocked : Bool) (budget : MemoryBudget)
      (http : ledger.http = true) (found : ledger.connections.find fd = some conn)
      (charged : (conn.readBuf.length ≤ message.length ∧
          Charged conn ledger.budget budget (message.length - conn.readBuf.length)) ∨
        (message.length ≤ conn.readBuf.length ∧
          budget = Endpoint.releaseBytes conn ledger.budget (conn.readBuf.length - message.length))) :
      Move ledger { ledger with
        connections := ledger.connections.insert fd { conn with readBuf := message, memoryBlocked := blocked }
        budget := budget }
  | shutdown {ledger fd conn socket} (found : ledger.connections.find fd = some conn)
      (isOpen : ledger.sockets.find fd = some socket) :
      Move ledger { ledger with sockets := ledger.sockets.insert fd { socket with writeShut := true } }
  /-- A connect completes; the node of the connection counts it. -/
  | establish {ledger} {backend client : Connection} {id} (linked : Linked ledger backend client id)
      (connecting : backend.state = .connecting) :
      Move ledger { ledger with
        connections := ledger.connections.insert backend.fd { backend with state := .established }
        loads := countUp ledger.loads id }
  /-- The backend of a pair is closed. -/
  | closeBackend {ledger backend client id} (linked : Linked ledger backend client id) :
      Move ledger ((ledger.unlink backend client id).close backend)
  /-- The backend of a pair goes to a pool. -/
  | poolBackend {ledger backend client id socket} (linked : Linked ledger backend client id)
      (isOpen : ledger.sockets.find backend.fd = some socket) :
      Move ledger { ledger.unlink backend client id with
        budget := Endpoint.releaseBytes backend ledger.budget
          (backend.readBuf.length + backend.writeBuf.length)
        sockets := ledger.sockets.insert backend.fd (closedExchange backend socket)
        idle := cleared backend ::ₘ ledger.idle
        releases := ledger.releases ++ [⟨{ backend with peer := none }, socket⟩] }
  /-- A connection without a peer is closed. -/
  | closeAlone {ledger conn} (found : ledger.connections.find conn.fd = some conn) (alone : conn.peer = none)
      (noBackend : ledger.backends.find conn.fd = none) :
      Move ledger (close { ledger with
        connections := ledger.connections.erase conn.fd
        watch := ledger.watch.delFd conn.fd } conn)
  /-- A backend that never connected is closed and its client taken for another try. -/
  | takeBack {ledger backend client id} (linked : Linked ledger backend client id)
      (connecting : backend.state = .connecting) :
      Move ledger (close { ledger.unlink backend client id with
        connections := (ledger.connections.erase backend.fd).erase client.fd
        hand := { client with peer := none } ::ₘ ledger.hand } backend)
  /-- A client whose handshake is complete is taken to be connected. -/
  | reclaim {ledger conn} (found : ledger.connections.find conn.fd = some conn)
      (shaking : conn.state = .handshake) :
      Move ledger { ledger with
        connections := ledger.connections.erase conn.fd
        hand := { conn with state := .established } ::ₘ ledger.hand }
  /-- A connection in hand is closed. -/
  | drop {ledger conn rest} (held : ledger.hand = conn ::ₘ rest) :
      Move ledger (close { ledger with hand := rest } conn)
  /-- A new socket to a backend. -/
  | create {ledger fd} (state : ConnectionState) (connected : Bool) (new : ledger.sockets.find fd = none)
      (bound : fd < maxFd) (ready : state = .connecting ∨ state = .established) :
      Move ledger { ledger with
        sockets := ledger.sockets.insert fd { connected := connected }
        hand := { fd := fd, state := state, accounted := true } ::ₘ ledger.hand }
  /-- An idle connection is handed out. -/
  | borrow {ledger conn rest socket} (resting : ledger.idle = conn ::ₘ rest)
      (isOpen : ledger.sockets.find conn.fd = some socket) :
      Move ledger { ledger with
        idle := rest
        sockets := ledger.sockets.insert conn.fd (openExchange socket)
        hand := conn ::ₘ ledger.hand
        handouts := ledger.handouts ++ [⟨conn.fd, socket⟩] }
  /-- An idle connection is closed. -/
  | evict {ledger conn rest} (resting : ledger.idle = conn ::ₘ rest) :
      Move ledger (close { ledger with idle := rest } conn)
  /-- A client is accepted. -/
  | accept {ledger fd} (address : Bytes) (new : ledger.sockets.find fd = none) (bound : fd < maxFd) :
      Move ledger { ledger with
        sockets := ledger.sockets.insert fd { address := address, connected := true }
        waiting := fd ::ₘ ledger.waiting }
  /-- An accepted client is closed; bytes may have been sent to it. -/
  | turnAway {ledger fd rest} (queued : ledger.waiting = fd ::ₘ rest) :
      Move ledger { ledger with
        sockets := ledger.sockets.erase fd
        watch := ledger.watch.forget fd
        waiting := rest }
  /-- A client that is to be connected. -/
  | enlist {ledger fd rest} (queued : ledger.waiting = fd ::ₘ rest) :
      Move ledger { ledger with
        waiting := rest
        hand := { fd := fd, accounted := true } ::ₘ ledger.hand }
  /-- Bytes go through a pipe. -/
  | splice {ledger fd conn socket} (taken sent rest : Bytes) (spliced : ledger.splice = true)
      (found : ledger.connections.find fd = some conn) (isOpen : ledger.sockets.find fd = some socket)
      (queue : socket.rx = taken ++ rest) :
      Move ledger { ledger with
        sockets := ledger.sockets.insert fd
          { socket with rx := rest, taken := socket.taken ++ taken, sent := socket.sent ++ sent } }
  | openPipe {ledger first second} (new : ledger.sockets.find first = none)
      (other : ledger.sockets.find second = none) (different : first ≠ second)
      (bound : first < maxFd) (otherBound : second < maxFd) :
      Move ledger { ledger with
        sockets := (ledger.sockets.insert first {}).insert second {}
        pipes := first ::ₘ second ::ₘ ledger.pipes }
  | closePipes {ledger rest} (gone : Multiset Fd) (split : ledger.pipes = gone + rest) :
      Move ledger { ledger with
        sockets := ledger.sockets.filter fun fd _ => fd ∉ gone
        pipes := rest }
  | addNode {ledger id} (new : ledger.loads id = none) (unused : ∀ fd, ledger.backends.find fd ≠ some id) :
      Move ledger { ledger with loads := fun other => if other = id then some ⟨0, false⟩ else ledger.loads other }
  | expireNode {ledger} (id : NodeId) :
      Move ledger { ledger with loads := fun other => if other = id then none else ledger.loads other }
  /-- The per-client state of the HTTP forwarder changes. -/
  | parsed {ledger fd} (state : HttpState)
      (sane : state.requestParsed = true → state.parser.hasError = false) :
      Move ledger { ledger with httpStates := ledger.httpStates.insert fd state }
  | unparsed {ledger} (fd : Fd) : Move ledger { ledger with httpStates := ledger.httpStates.erase fd }
  /-- A client sent its session cookie. -/
  | cookie {ledger fd} (value : Bytes) (nonempty : value ≠ []) (changed : Diary)
      (recorded : changed = match ledger.diary.visits.find fd with
        | none => ledger.diary
        | some visit => { ledger.diary with
            visits := ledger.diary.visits.insert fd { visit with cookies := visit.cookies ++ [value] } }) :
      Move ledger { ledger with sessionKeys := ledger.sessionKeys.insert fd value, diary := changed }
  /-- A session key is made for a client that has none. -/
  | generate {ledger fd} (made : Bytes) (unset : (ledger.sessionKeys.find fd).getD [] = []) (changed : Diary)
      (recorded : changed = match ledger.diary.visits.find fd with
        | none => ledger.diary
        | some visit => { ledger.diary with
            visits := ledger.diary.visits.insert fd { visit with generated := some made } }) :
      Move ledger { ledger with sessionKeys := ledger.sessionKeys.insert fd made, diary := changed }
  /-- The session key is sent to its client. -/
  | inject {ledger fd visit} (known : ledger.diary.visits.find fd = some visit) :
      Move ledger { ledger with diary := { ledger.diary with
        injections := ledger.diary.injections ++
          [⟨(ledger.sessionKeys.find fd).getD [], visit.ownKey⟩] } }
  /-- A client begins; with TLS its session key is left as it is. -/
  | greet {ledger fd} (tls : Bool) (clientIp sessionKey own : Bytes)
      (given : sessionKey = own ∨ ((ledger.sessionKeys.find fd).getD [] ≠ [] ∧
        (ledger.sessionKeys.find fd).getD [] ≠ clientIp))
      (unset : tls = true → sessionKey = [] ∧ own = []) :
      Move ledger { ledger with
        sessionKeys := if tls then ledger.sessionKeys else ledger.sessionKeys.insert fd sessionKey
        diary := { ledger.diary with
          visits := ledger.diary.visits.insert fd { initial := own }
          admissions := ledger.diary.admissions ++
            [⟨tls, clientIp, (ledger.sessionKeys.find fd).getD [], sessionKey, own⟩] } }

/-- Moves, the three ways in which a connection enters the tables, and the note of
the end of a stream. -/
inductive Act : Ledger → Ledger → Prop
  | move {ledger next} (step : Move ledger next) : Act ledger next
  /-- Two connections in hand become a pair. -/
  | install {ledger} {backend client : Connection} {rest} (id : NodeId)
      (held : ledger.hand = client ::ₘ backend ::ₘ rest) (clientUp : client.state = .established)
      (ready : backend.state = .connecting ∨ backend.state = .established) (fresh : backend.readBuf = [])
      (unarmed : backend.fd ∉ ledger.watch.armed) :
      Act ledger { ledger with
        connections := (ledger.connections.insert client.fd { client with peer := some backend.fd }).insert
          backend.fd { backend with peer := some client.fd }
        backends := ledger.backends.insert backend.fd id
        clients := ledger.clients.insert backend.fd client.fd
        loads := if backend.state = .established then countUp ledger.loads id else ledger.loads
        watch := (ledger.watch.addFd client.fd .client).addFd backend.fd .backend
        hand := rest }
  /-- The rest of an error response is left to a connection without accounting. -/
  | seatError {ledger fd rest} (socket : Socket) (left : Bytes) (queued : ledger.waiting = fd ::ₘ rest) :
      Act ledger { ledger with
        connections := ledger.connections.insert fd { fd := fd, state := .established, writeBuf := left }
        sockets := ledger.sockets.insert fd socket
        watch := ledger.watch.addFd fd .errorResponse
        waiting := rest }
  /-- A client that begins its handshake. -/
  | seatHandshake {ledger fd rest} (queued : ledger.waiting = fd ::ₘ rest) :
      Act ledger { ledger with
        connections := ledger.connections.insert fd
          { fd := fd, state := .handshake, tls := true, accounted := true }
        watch := ledger.watch.addFd fd .client
        waiting := rest }
  | note {ledger} (ending : Ending) : Act ledger { ledger with endings := ledger.endings ++ [ending] }

end Balancer.Registry
