import Balancer.Core.ConnectionManager

/-! `BackendConnector`, `RetryHandler` and `SessionManager`: how a client gets a
backend. While `connect` runs it owns the client's connection, which is in no map. -/

namespace Balancer.Core
open Foundation Http Net

namespace LoadBalancer

/-- `get_session`. -/
def getSession (lb : LoadBalancer) (key : Bytes) : Option SessionInfo :=
  (lb.sessions.find key).filter fun session => lb.now < session.expiresAt

def setSession (lb : LoadBalancer) (key host : Bytes) (port : Nat) : LoadBalancer :=
  let expiresAt := lb.now + lb.settings.stickySessionsTtlSeconds * 1000000000
  { lb with sessions := lb.sessions.insert key ⟨host, port, expiresAt⟩ }

def sticky (lb : LoadBalancer) (sessionKey : Bytes) : Bool :=
  lb.settings.stickySessionsEnabled && sessionKey ≠ []

/-- The pinned backend, or an empty host. -/
def stickyBackend (lb : LoadBalancer) (sessionKey : Bytes) : Bytes × Nat :=
  if lb.sticky sessionKey then
    match lb.getSession sessionKey with
    | some session => (session.backendHost, session.backendPort)
    | none => ([], 0)
  else ([], 0)

/-- Select a backend and bind the session to it. -/
def selectBackend (lb : LoadBalancer) (sessionKey : Bytes) : Option (NodeId × BackendNode) × LoadBalancer :=
  let pinned := lb.stickyBackend sessionKey
  let selected := lb.backendPool.selectBackend lb.nodes lb.settings.maxConnectionsPerBackend pinned.1 pinned.2
  let lb := { lb with backendPool := selected.2 }
  match selected.1 with
  | none => (none, lb)
  | some id =>
    match lb.nodes.find id with
    | none => (none, lb)
    | some node => (some (id, node), if lb.sticky sessionKey then lb.setSession sessionKey node.host node.port else lb)

/-- History of an idle connection that is handed out: its next exchange begins. -/
def noteHandout (lb : LoadBalancer) (fd : Fd) : LoadBalancer :=
  match lb.kernel.sockets.find fd with
  | none => lb
  | some socket =>
      { lb with
        kernel := lb.kernel.setSocket fd
          { socket with exchange := socket.exchange + 1, taken := [], sent := [], arrived := [] }
        history := { lb.history with handouts := lb.history.handouts ++ [⟨fd, socket⟩] } }

/-- `ConnectionPoolManager::borrow`; the pool of a backend is made on first use. -/
def borrow (lb : LoadBalancer) (manager : ConnectionPoolManager) (host : Bytes) (port : Nat) :
    Option Connection × LoadBalancer :=
  let key := backendKey host port
  let pool := (manager.pools.find key).getD { host := host, port := port }
  let result := ConnectionPool.borrow manager.config ⟨pool, lb.budget, lb.kernel, false⟩
  let lb := { lb with
    poolManager := some { manager with pools := manager.pools.insert key result.2.pool }
    budget := result.2.budget
    kernel := result.2.kernel
    history := { lb.history with overrun := lb.history.overrun || result.2.overrun } }
  match result.1 with
  | some (conn, wasIdle) => (some conn, if wasIdle then lb.noteHandout conn.fd else lb)
  | none => (none, lb)

/-- `set_backend_for_request`, in HTTP mode. -/
def setBackendForRequest (lb : LoadBalancer) (clientFd : Fd) (backend : Bytes) : LoadBalancer :=
  if lb.settings.mode = .http then
    match lb.httpStates.find clientFd with
    | some state =>
        let routed := { state with requestInfo := { state.requestInfo with backend := backend } }
        { lb with httpStates := lb.httpStates.insert clientFd routed }
    | none => lb
  else lb

/-- The counters of a connection that is established. -/
def countEstablished (lb : LoadBalancer) (id : NodeId) (key : Bytes) : LoadBalancer :=
  let lb := lb.changeNode id BackendNode.incrementConnections
  { lb with metrics := (lb.metrics.countRouted key).incrementConnectionsActive }

/-- The counters of a failed connect. -/
def countFailure (lb : LoadBalancer) (id : NodeId) : LoadBalancer :=
  match lb.nodes.find id with
  | some node =>
      let lb := lb.changeNode id BackendNode.incrementFailures
      { lb with metrics := lb.metrics.countFailure (backendKey node.host node.port) }
  | none => lb

/-- Link the two connections, enter them in every table and register them. -/
def installPair (lb : LoadBalancer) (client backend : Connection) (id : NodeId) (node : BackendNode)
    (isPooled : Bool) (retryCount : Nat) : LoadBalancer :=
  let established := isPooled || backend.state = .established
  let lb := { lb with
    pooledConnections := lb.pooledConnections.insert backend.fd ⟨node.host, node.port, isPooled⟩ }
  let lb := if established then lb.countEstablished id (backendKey node.host node.port) else lb
  let lb := lb.setConnection client.fd { client with peer := some backend.fd }
  let lb := lb.setConnection backend.fd { backend with peer := some client.fd }
  let lb := { lb with
    backendConnections := lb.backendConnections.insert backend.fd id
    connectionTimes := lb.connectionTimes.insert backend.fd lb.now
    backendToClientMap := lb.backendToClientMap.insert backend.fd client.fd
    clientRetryCounts := lb.clientRetryCounts.insert client.fd retryCount }
  let lb := lb.setBackendForRequest client.fd (backendKey node.host node.port)
  (lb.addFd client.fd .both .client).addFd backend.fd ⟨established, true⟩ .backend

/-- The connect outside the pool. The client comes back when a retry is due. The
answers are those of `socket`, `getaddrinfo` and `connect`. -/
def connectDirect (lb : LoadBalancer) (client : Connection) (id : NodeId) (node : BackendNode)
    (retryCount : Nat) : LoadBalancer × Option Connection :=
  match lb.kernel.ask with
  | (.ok backendFd, kernel) =>
    match kernel.openFd backendFd {} with
    | none => ({ lb with kernel := kernel }.discard client, none)
    | some kernel =>
      let backend := attachMemoryAccounting { fd := backendFd }
      match kernel.ask with
      | (.ok _, kernel) =>
        match kernel.ask with
        | (.ok _, kernel) =>
            let kernel := kernel.setSocket backendFd { connected := true }
            ({ lb with kernel := kernel }.installPair client { backend with state := .established } id node false
              retryCount, none)
        | (.fail, kernel) =>
            let lb := { lb with kernel := kernel }.countFailure id
            -- `backend_conn->close()` and then `::close` of the same number
            ((lb.discard backend).closeFd backendFd, some client)
        | (_, kernel) =>
            ({ lb with kernel := kernel }.installPair client { backend with state := .connecting } id node false
              retryCount, none)
      | (_, kernel) =>
          let lb := { lb with kernel := kernel }.countFailure id
          ((lb.discard client).closeFd backendFd, none)
  | (_, kernel) => ({ lb with kernel := kernel }.discard client, none)

/-- One pass of `connect`: the client comes back when a retry is due. -/
def tryConnect (lb : LoadBalancer) (client : Connection) (retryCount : Nat) (sessionKey : Bytes) :
    LoadBalancer × Option Connection :=
  let client := attachMemoryAccounting client
  match lb.selectBackend sessionKey with
  | (none, lb) =>
      ({ lb with metrics := { lb.metrics with
        backendRoutesFailed := lb.metrics.backendRoutesFailed + 1 } }.discard client, none)
  | (some (id, node), lb) =>
    match lb.poolManager with
    | some manager =>
      match lb.borrow manager node.host node.port with
      | (some backend, lb) =>
          (lb.installPair client (attachMemoryAccounting backend) id node true retryCount, none)
      | (none, lb) => lb.connectDirect client id node retryCount
    | none => lb.connectDirect client id node retryCount

def maxRetryAttempts : Nat := 3

/-- `RetryHandler::retry` when no attempt is left. -/
def giveUp (lb : LoadBalancer) (client : Connection) : LoadBalancer :=
  { lb with metrics := { lb.metrics with
    backendRoutesFailed := lb.metrics.backendRoutesFailed + 1 } }.discard client

/-- The session key a retry connects with. -/
def storedSessionKey (lb : LoadBalancer) (fd : Fd) : Bytes := (lb.clientSessionKeys.find fd).getD []

/-- `BackendConnector::connect` with the retries nested in it. -/
def connect (lb : LoadBalancer) (client : Connection) (retryCount : Nat) (sessionKey : Bytes) : LoadBalancer :=
  match lb.tryConnect client retryCount sessionKey with
  | (lb, none) => lb
  | (lb, some client) =>
      if retryCount < maxRetryAttempts then
        lb.connect client (retryCount + 1) (lb.storedSessionKey client.fd)
      else lb.giveUp client
termination_by maxRetryAttempts - retryCount

/-- `RetryHandler::retry`. -/
def retry (lb : LoadBalancer) (client : Connection) (retryCount : Nat) : LoadBalancer :=
  if retryCount < maxRetryAttempts then
    lb.connect client (retryCount + 1) (lb.storedSessionKey client.fd)
  else lb.giveUp client

end LoadBalancer

end Balancer.Core
