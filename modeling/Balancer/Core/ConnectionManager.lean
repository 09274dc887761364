import Balancer.Core.State

/-! `ConnectionManager`: how connections leave the registry, and the callback by
which a backend connection goes back to its pool. -/

namespace Balancer.Core
open Foundation Http Net

namespace LoadBalancer

/-- Connections of clients that are not closed; backends are told by their entry
in `backend_connections_`. -/
def countActiveClientConnections (lb : LoadBalancer) : Nat :=
  lb.connections.total fun fd conn =>
    if lb.backendConnections.find fd = none ∧ conn.state ≠ .closed then 1 else 0

/-- The counter of the node goes down if the connection was established, and the
entry of `backend_connections_` goes. -/
def dropBackendEntry (lb : LoadBalancer) (fd : Fd) (wasEstablished : Bool) : LoadBalancer :=
  match lb.backendConnections.find fd with
  | none => lb
  | some id =>
      let counted := if wasEstablished then lb.changeNode id BackendNode.decrementConnections else lb
      { counted with backendConnections := counted.backendConnections.erase fd }

/-- Erase the tables that are keyed by any connection. -/
def forgetConnection (lb : LoadBalancer) (fd : Fd) : LoadBalancer :=
  let lb := { lb with connectionTimes := lb.connectionTimes.erase fd }
  let lb := lb.clearBackpressure fd
  { lb with backendToClientMap := lb.backendToClientMap.erase fd }

def forgetRetries (lb : LoadBalancer) (fd : Fd) : LoadBalancer :=
  { lb with clientRetryCounts := lb.clientRetryCounts.erase fd }

/-- Latency in microseconds of a request that ends now, if it has not completed. -/
def requestLatency (lb : LoadBalancer) (info : RequestInfo) : Nat :=
  let ended := if info.responseComplete ∧ 0 < info.responseCompleteTime then info.responseCompleteTime else lb.now
  (ended - info.startTime) / 1000

def recordLatency (metrics : Metrics) (latency : Nat) : Metrics :=
  if 0 < latency then { metrics with latencies := metrics.latencies ++ [latency] } else metrics

/-- `get_request_info`: only in HTTP mode, and only with a method. -/
def getRequestInfo (lb : LoadBalancer) (fd : Fd) : Option RequestInfo :=
  if lb.settings.mode = .http then
    ((lb.httpStates.find fd).map HttpState.requestInfo).filter fun info => info.method ≠ []
  else none

/-- The access log entry of a client that leaves before its response is complete. -/
def logUnfinished (lb : LoadBalancer) (fd : Fd) (conn : Connection) : LoadBalancer :=
  match lb.getRequestInfo fd with
  | none => lb
  | some info =>
    if info.responseComplete then lb
    else
      let latency := lb.requestLatency info
      let entry : AccessLogEntry :=
        { clientIp := info.clientIp, method := info.method, path := info.path, statusCode := info.statusCode,
          bytesSent := conn.bytesWritten, bytesReceived := conn.bytesRead, latency := latency,
          backend := info.backend, timestamp := info.startTime }
      { lb with
        accessLog := lb.accessLog ++ [entry]
        metrics := recordLatency lb.metrics latency
        httpStates := lb.httpStates.erase fd }

/-- History of a connection that went to a pool, with its buffers before they
were cleared. -/
def noteRelease (lb : LoadBalancer) (conn : Connection) : LoadBalancer :=
  match lb.kernel.sockets.find conn.fd with
  | none => lb
  | some socket =>
      let past := socket.past ++ [(socket.sent ++ conn.writeBuf, socket.sent)]
      { lb with
        kernel := lb.kernel.setSocket conn.fd { socket with past := past }
        history := { lb.history with releases := lb.history.releases ++ [⟨conn, socket⟩] } }

/-- `ConnectionPoolManager::release`; a connection of an unknown pool is destroyed. -/
def poolRelease (lb : LoadBalancer) (manager : ConnectionPoolManager) (info : BackendInfo)
    (before cleared : Connection) : LoadBalancer :=
  let key := backendKey info.host info.port
  match manager.pools.find key with
  | none => (lb.closeObject cleared).1
  | some pool =>
      let result := ConnectionPool.release cleared lb.now ⟨pool, lb.budget, lb.kernel, false⟩
      let lb := { lb with
        poolManager := some { manager with pools := manager.pools.insert key result.2.pool }
        budget := result.2.budget
        kernel := result.2.kernel }
      if result.1 then lb.noteRelease before else lb

/-- `pool_release_callback`: the buffers are cleared and the state is overwritten,
whatever it was. A connection that is not released is destroyed here. -/
def poolReleaseCallback (lb : LoadBalancer) (manager : ConnectionPoolManager) (fd : Fd) (conn : Connection) :
    LoadBalancer :=
  match lb.pooledConnections.find fd with
  | none => (lb.closeObject conn).1
  | some info =>
    if info.host = [] then (lb.closeObject conn).1
    else
      let cleared := (lb.endpoint conn).clearBuffers
      { lb with budget := cleared.budget }.poolRelease manager info conn
        { cleared.conn with state := .established }

/-- The part of `close_connection` for the peer. -/
def closePeer (lb : LoadBalancer) (isClient : Bool) (peerFd : Fd) : LoadBalancer :=
  match lb.connections.find peerFd with
  | none => lb
  | some peer =>
    if peer.state = .closed then ({ lb with connections := lb.connections.erase peerFd }.closeObject peer).1
    else
      let isPeerBackend := (lb.backendConnections.find peerFd).isSome
      let lb := lb.setPeer peerFd none
      let lb := lb.dropBackendEntry peerFd (peer.state = .established)
      let lb := ((lb.forgetConnection peerFd).forgetRetries peerFd).delFd peerFd
      let alone := { peer with peer := none }
      let lb := { lb with connections := lb.connections.erase peerFd }
      match lb.poolManager with
      | some manager =>
          if isClient && isPeerBackend then lb.poolReleaseCallback manager peerFd alone else lb.discard alone
      | none => lb.discard alone

/-- `close_connection`. -/
def closeConnection (lb : LoadBalancer) (fd : Fd) : LoadBalancer :=
  match lb.connections.find fd with
  | none => lb
  | some conn =>
    if conn.state = .closed then
      let lb := { lb with backendConnections := lb.backendConnections.erase fd }
      let lb := (lb.forgetConnection fd).forgetRetries fd
      ({ lb with connections := lb.connections.erase fd }.closeObject conn).1
    else
      let isClient := (lb.backendConnections.find fd).isNone
      let lb := lb.dropBackendEntry fd (conn.state = .established)
      let lb := lb.modify fd fun conn => { conn with state := .closed }
      let lb := { lb with metrics := { lb.metrics with
        bytesIn := lb.metrics.bytesIn + conn.bytesRead, bytesOut := lb.metrics.bytesOut + conn.bytesWritten } }
      let lb :=
        if isClient then
          let lb := lb.logUnfinished fd conn
          { lb with metrics := lb.metrics.decrementConnectionsActive }
        else lb
      let lb := (lb.forgetConnection fd).forgetRetries fd
      let lb := { lb with backendToClientMap := lb.backendToClientMap.filter fun _ client => client ≠ fd }
      let lb :=
        match conn.peer with
        | some peerFd => (lb.setPeer fd none).closePeer isClient peerFd
        | none => lb
      let lb := lb.delFd fd
      let lb := { lb with connections := lb.connections.erase fd }
      lb.discard { conn with state := .closed, peer := none }

/-- `close_backend_connection_only`: the client keeps its entry and loses its peer. -/
def closeBackendConnectionOnly (lb : LoadBalancer) (fd : Fd) : LoadBalancer :=
  match lb.connections.find fd with
  | none => lb
  | some conn =>
    let lb :=
      match conn.peer with
      | some peer => lb.setPeer peer none
      | none => lb
    let lb := lb.modify fd fun conn => { conn with state := .closed }
    let lb := lb.dropBackendEntry fd (conn.state = .established)
    let lb := (lb.forgetConnection fd).delFd fd
    let lb := { lb with connections := lb.connections.erase fd }
    lb.discard { conn with state := .closed }

/-- `check_timeout` with the close callback of the event handlers. -/
def checkBackpressure (lb : LoadBalancer) (fd : Fd) : LoadBalancer :=
  match lb.backpressureStartTimes.find fd with
  | none => lb
  | some start =>
    if lb.settings.backpressureTimeoutMs ≤ (lb.now - start) / 1000000 then
      { lb with metrics := { lb.metrics with
        backpressureTimeouts := lb.metrics.backpressureTimeouts + 1 } }.closeConnection fd
    else lb

/-- `cleanup` of the splice forwarder: both ends of every pipe of the descriptor. -/
def cleanupPipes (lb : LoadBalancer) (fd : Fd) : LoadBalancer :=
  let gone := lb.pipes.filter fun key _ => key.1 = fd ∨ key.2 = fd
  let kept := lb.pipes.filter fun key _ => ¬(key.1 = fd ∨ key.2 = fd)
  let closed := gone.total fun _ pipe => ({pipe.readFd, pipe.writeFd} : Multiset Fd)
  { lb with
    pipes := kept
    kernel := { lb.kernel with sockets := lb.kernel.sockets.filter fun other _ => other ∉ closed } }

/-- The close callback of the event handlers: it also frees the TLS object, the
pipes and the handshake entry. -/
def eventClose (lb : LoadBalancer) (fd : Fd) : LoadBalancer :=
  let lb := lb.modify fd fun conn => { conn with tls := false }
  let lb := if lb.settings.useSplice then lb.cleanupPipes fd else lb
  let lb := { lb with handshakeStartTimes := lb.handshakeStartTimes.erase fd }
  lb.closeConnection fd

end LoadBalancer

end Balancer.Core
