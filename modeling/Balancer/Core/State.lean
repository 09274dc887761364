import Balancer.Core.ConnectionPool
import Balancer.Http.Handler
import Balancer.Net.Reactor

/-! The state of `LoadBalancer` and of the managers it owns, which share its
maps. All work happens on the reactor thread, so the state is passed through. -/

namespace Balancer.Core
open Foundation Http Net

inductive Mode where
  | tcp | http
  deriving DecidableEq, Repr

inductive StickyMethod where
  | ip | cookie
  deriving DecidableEq, Repr

/-- The fields of the live configuration that `get_config` hands to the accept
and queue code. -/
structure Config where
  mode : Mode
  ipWhitelist : List Bytes := []
  ipBlacklist : List Bytes := []
  rateLimitEnabled : Bool := false
  rateLimitMaxConnections : Nat := 100
  rateLimitWindowSeconds : Nat := 60
  queueEnabled : Bool := false
  queueMaxSize : Nat := 0
  queueMaxWaitMs : Nat := 0
  stickySessionsEnabled : Bool := false
  stickySessionsMethod : StickyMethod := .cookie
  deriving DecidableEq

/-- The settings the balancer and its managers copied from the configuration.
`cookie` holds the cookie name and its lifetime when the cookie callbacks are
installed, and `useSplice` is false outside TCP mode. -/
structure Settings where
  mode : Mode
  useSplice : Bool := false
  tls : Bool := false
  isHttps : Bool := false
  maxGlobalConnections : Nat := 1000
  maxConnectionsPerBackend : Nat := 100
  backpressureTimeoutMs : Nat := 10000
  connectionTimeoutSeconds : Nat := 5
  requestTimeoutMs : Nat := 0
  tlsHandshakeTimeoutMs : Nat := 10000
  gracefulShutdownTimeoutSeconds : Nat := 30
  stickySessionsEnabled : Bool := false
  stickySessionsTtlSeconds : Nat := 3600
  cookie : Option (Bytes × Nat) := none
  requestRules : Option HeaderRules := none
  responseRules : Option HeaderRules := none

structure RequestInfo where
  method : Bytes := []
  path : Bytes := []
  clientIp : Bytes := []
  startTime : Nat := 0
  responseCompleteTime : Nat := 0
  statusCode : Nat := 0
  backend : Bytes := []
  responseComplete : Bool := false
  bytesSent : Nat := 0
  bytesReceived : Nat := 0
  deriving DecidableEq

/-- Per-client state of `HttpDataForwarder`. -/
structure HttpState where
  parser : HttpRequestParser := .initial
  requestParsed : Bool := false
  responseParser : HttpResponseParser := .initial
  responseParsed : Bool := false
  requestInfo : RequestInfo := {}

structure AccessLogEntry where
  clientIp : Bytes
  method : Bytes
  path : Bytes
  statusCode : Nat
  bytesSent : Nat
  bytesReceived : Nat
  /-- Microseconds. -/
  latency : Nat
  backend : Bytes
  timestamp : Nat
  deriving DecidableEq

structure SessionInfo where
  backendHost : Bytes
  backendPort : Nat
  expiresAt : Nat
  deriving DecidableEq

/-- An entry of `BackendConnector::pooled_connections_`. -/
structure BackendInfo where
  host : Bytes
  port : Nat
  isPooled : Bool
  deriving DecidableEq

/-- A splice pipe; `pending` holds the bytes in it, whose number the source counts. -/
structure PipePair where
  readFd : Fd
  writeFd : Fd
  pending : Bytes := []
  deriving DecidableEq

structure QueuedClient where
  fd : Fd
  clientIp : Bytes
  enqueueTime : Nat
  deriving DecidableEq

structure Metrics where
  connectionsTotal : Nat := 0
  connectionsActive : Nat := 0
  backendRouted : FiniteMap Bytes Nat := ∅
  backendFailures : FiniteMap Bytes Nat := ∅
  backendRoutesFailed : Nat := 0
  overloadDrops : Nat := 0
  requestTimeouts : Nat := 0
  rateLimitDrops : Nat := 0
  queueDrops : Nat := 0
  memoryBudgetDrops : Nat := 0
  badRequests : Nat := 0
  backpressureEvents : Nat := 0
  backpressureTimeouts : Nat := 0
  backpressureActive : Nat := 0
  memoryBudgetUsed : Nat := 0
  memoryBudgetLimit : Nat := 0
  bytesIn : Nat := 0
  bytesOut : Nat := 0
  /-- Recorded latencies in microseconds. -/
  latencies : List Nat := []

namespace Metrics

def countRouted (metrics : Metrics) (backend : Bytes) : Metrics :=
  { metrics with
    backendRouted := metrics.backendRouted.insert backend ((metrics.backendRouted.find backend).getD 0 + 1) }

def countFailure (metrics : Metrics) (backend : Bytes) : Metrics :=
  { metrics with
    backendFailures :=
      metrics.backendFailures.insert backend ((metrics.backendFailures.find backend).getD 0 + 1) }

def incrementConnectionsActive (metrics : Metrics) : Metrics :=
  { metrics with connectionsActive := (metrics.connectionsActive + 1) % 2 ^ 64 }

/-- The gauge is unsigned and wraps. -/
def decrementConnectionsActive (metrics : Metrics) : Metrics :=
  { metrics with connectionsActive := (metrics.connectionsActive + (2 ^ 64 - 1)) % 2 ^ 64 }

def decrementBackpressureActive (metrics : Metrics) : Metrics :=
  { metrics with backpressureActive := metrics.backpressureActive - 1 }

end Metrics

/-- History: the buffers when a side was shut down or closed because the other
had ended, the source's read buffer and the peer's write buffer. -/
structure Ending where
  readBuf : Bytes
  writeBuf : Bytes
  deriving DecidableEq

/-- History: a backend connection when it was given to the pool, before its
buffers were cleared. -/
structure Release where
  conn : Connection
  socket : Socket
  deriving DecidableEq

/-- History: the socket of an idle connection when it was handed out again. -/
structure Handout where
  fd : Fd
  socket : Socket
  deriving DecidableEq

/-- History: what a client itself contributed to its session key: the key it gets
when none is stored, the cookies it sent and the key made for it. -/
structure Visit where
  initial : Bytes
  cookies : List Bytes := []
  generated : Option Bytes := none
  deriving DecidableEq

/-- The session key as a function of the client's own contributions. -/
def Visit.ownKey (visit : Visit) : Bytes :=
  match visit.cookies.getLast? with
  | some cookie => cookie
  | none => visit.generated.getD visit.initial

/-- History: the key that was stored under a client's descriptor when the client
was admitted, the key it was given, and the one it would get if none were stored. -/
structure Admission where
  tls : Bool
  clientIp : Bytes
  leftover : Bytes
  sessionKey : Bytes
  own : Bytes
  deriving DecidableEq

/-- History: the session key a client was sent, and its own. -/
structure Injection where
  sessionKey : Bytes
  own : Bytes
  deriving DecidableEq

/-- The part of the history that is about session keys. -/
structure Diary where
  visits : FiniteMap Fd Visit := ∅
  admissions : List Admission := []
  injections : List Injection := []

/-- What the run did so far, for statements only. `dangling` records that a
handler went on with a connection it had already destroyed, and `overrun` that a
pool iterator passed the end of the deque; either ends the operation here. -/
structure History where
  dangling : Bool := false
  overrun : Bool := false
  endings : List Ending := []
  releases : List Release := []
  handouts : List Handout := []
  diary : Diary := {}

structure LoadBalancer where
  kernel : Kernel
  reactor : Reactor
  budget : MemoryBudget
  connections : FiniteMap Fd Connection
  backendConnections : FiniteMap Fd NodeId
  backendToClientMap : FiniteMap Fd Fd
  connectionTimes : FiniteMap Fd Nat
  handshakeStartTimes : FiniteMap Fd Nat
  backpressureStartTimes : FiniteMap Fd Nat
  clientRetryCounts : FiniteMap Fd Nat
  clientSessionKeys : FiniteMap Fd Bytes
  sessions : FiniteMap Bytes SessionInfo
  nodes : FiniteMap NodeId BackendNode
  backendPool : BackendPool
  /-- `none` when pooling is disabled. -/
  poolManager : Option ConnectionPoolManager
  pooledConnections : FiniteMap Fd BackendInfo
  httpStates : FiniteMap Fd HttpState
  pipes : FiniteMap (Fd × Fd) PipePair
  pendingClients : List QueuedClient
  rateLimitTracker : FiniteMap Bytes (List Nat)
  settings : Settings
  /-- `none` without a configuration manager. -/
  config : Option Config
  order : HeaderOrder
  metrics : Metrics
  accessLog : List AccessLogEntry
  draining : Bool
  shutdownRequested : Bool
  shutdownDeadline : Nat
  running : Bool
  history : History

namespace LoadBalancer
variable (lb : LoadBalancer)

def now : Nat := lb.kernel.clock

def getConnection (fd : Fd) : Option Connection := lb.connections.find fd

def setConnection (fd : Fd) (conn : Connection) : LoadBalancer :=
  { lb with connections := lb.connections.insert fd conn }

/-- Change a connection in place. -/
def modify (fd : Fd) (change : Connection → Connection) : LoadBalancer :=
  match lb.connections.find fd with
  | some conn => lb.setConnection fd (change conn)
  | none => lb

def endpoint (conn : Connection) : Endpoint := ⟨conn, lb.budget, lb.kernel⟩

/-- Store what a method did to the connection at `fd`. -/
def setEndpoint (fd : Fd) (endpoint : Endpoint) : LoadBalancer :=
  { lb with
    connections := lb.connections.insert fd endpoint.conn
    budget := endpoint.budget
    kernel := endpoint.kernel }

def modFd (fd : Fd) (events : Interest) : LoadBalancer :=
  { lb with reactor := lb.reactor.modFd fd events }

def delFd (fd : Fd) : LoadBalancer := { lb with reactor := lb.reactor.delFd fd }

def addFd (fd : Fd) (events : Interest) (callback : Callback) : LoadBalancer :=
  { lb with reactor := lb.reactor.addFd fd events callback }

/-- `::close` of a descriptor no object owns. -/
def closeFd (fd : Fd) : LoadBalancer :=
  { lb with kernel := lb.kernel.close fd, reactor := lb.reactor.forget fd }

def setPeer (fd : Fd) (peer : Option Fd) : LoadBalancer := lb.modify fd fun conn => { conn with peer := peer }

/-- `Connection::close` of an object that is in no map, with the peer's pointer. -/
def closeObject (conn : Connection) : LoadBalancer × Connection :=
  let closed := (lb.endpoint conn).close
  let released := { lb with
    budget := closed.budget
    kernel := closed.kernel
    reactor := if conn.isOpen then lb.reactor.forget conn.fd else lb.reactor }
  match conn.peer with
  | some peer => (released.setPeer peer none, closed.conn)
  | none => (released, closed.conn)

/-- An explicit `close` followed by the destructor. -/
def discard (conn : Connection) : LoadBalancer :=
  let closed := lb.closeObject conn
  (closed.1.closeObject closed.2).1

def readFromFd (fd : Fd) : Bool × LoadBalancer :=
  match lb.connections.find fd with
  | none => (false, lb)
  | some conn =>
      let result := (lb.endpoint conn).readFromFd
      (result.1, lb.setEndpoint fd result.2)

def writeToFd (fd : Fd) : Bool × LoadBalancer :=
  match lb.connections.find fd with
  | none => (false, lb)
  | some conn =>
      let result := (lb.endpoint conn).writeToFd
      (result.1, lb.setEndpoint fd result.2)

/-- `has_pending_send`; the `ioctl` is made only when the write buffer is empty. -/
def hasPendingSend (fd : Fd) : Bool × LoadBalancer :=
  match lb.connections.find fd with
  | none => (false, lb)
  | some conn =>
      if conn.writeBuf ≠ [] then (true, lb)
      else
        let result := lb.kernel.pending
        (0 < result.1, { lb with kernel := result.2 })

/-- `start_tracking` with the metrics of its callers. -/
def startBackpressure (fd : Fd) : LoadBalancer :=
  match lb.backpressureStartTimes.find fd with
  | some _ => lb
  | none =>
      { lb with
        backpressureStartTimes := lb.backpressureStartTimes.insert fd lb.now
        metrics := { lb.metrics with
          backpressureEvents := lb.metrics.backpressureEvents + 1
          backpressureActive := lb.metrics.backpressureActive + 1 } }

/-- Erase the tracking entry; the gauge counts it down when there was one. -/
def clearBackpressure (fd : Fd) : LoadBalancer :=
  match lb.backpressureStartTimes.find fd with
  | some _ =>
      { lb with
        backpressureStartTimes := lb.backpressureStartTimes.erase fd
        metrics := lb.metrics.decrementBackpressureActive }
  | none => lb

/-- The established peer of a connection, as the handlers test for it. -/
def establishedPeer (fd : Fd) : Option Fd := do
  let conn ← lb.connections.find fd
  let peer ← conn.peer
  let other ← lb.connections.find peer
  if other.state = .established then some peer else none

/-- A handler used a connection after it was destroyed. -/
def dangle : LoadBalancer := { lb with history := { lb.history with dangling := true } }

def changeNode (id : NodeId) (change : BackendNode → BackendNode) : LoadBalancer :=
  match lb.nodes.find id with
  | some node => { lb with nodes := lb.nodes.insert id (change node) }
  | none => lb

/-- `attach_memory_accounting`. -/
def attachMemoryAccounting (conn : Connection) : Connection := { conn with accounted := true }

end LoadBalancer

end Balancer.Core
