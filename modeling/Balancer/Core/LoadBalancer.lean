import Balancer.Core.EventHandlers

/-! `LoadBalancer`: admission, the waiting queue, the periodic tasks, shutdown,
and the steps of the whole process. -/

namespace Balancer.Core
open Foundation Http Net

/-- The client has waited for as long as a configuration allows. -/
def Outstays (config : Config) (now : Nat) (client : QueuedClient) : Prop :=
  0 < config.queueMaxWaitMs ∧ config.queueMaxWaitMs ≤ (now - client.enqueueTime) / 1000000

instance decidableOutstays (config : Config) (now : Nat) : DecidablePred (Outstays config now) :=
  fun client => inferInstanceAs (Decidable (0 < config.queueMaxWaitMs ∧
    config.queueMaxWaitMs ≤ (now - client.enqueueTime) / 1000000))

/-- Clients are queued and served under this configuration. -/
abbrev Queues (config : Config) : Prop := config.queueEnabled ∧ config.queueMaxSize ≠ 0

namespace LoadBalancer

def isIpAllowed (lb : LoadBalancer) (clientIp : Bytes) : Bool :=
  match lb.config with
  | none => true
  | some config =>
      clientIp = [] || (clientIp ∉ config.ipBlacklist &&
        (config.ipWhitelist = [] || clientIp ∈ config.ipWhitelist))

def recent (now window : Nat) (timestamps : List Nat) : List Nat :=
  timestamps.filter fun time => now ≤ time + window * 1000000000

def checkRateLimit (lb : LoadBalancer) (clientIp : Bytes) : Bool × LoadBalancer :=
  match lb.config with
  | none => (true, lb)
  | some config =>
    if !config.rateLimitEnabled || clientIp = [] || clientIp = ascii "unknown" then (true, lb)
    else
      let timestamps := recent lb.now config.rateLimitWindowSeconds ((lb.rateLimitTracker.find clientIp).getD [])
      if config.rateLimitMaxConnections ≤ timestamps.length then
        (false, { lb with rateLimitTracker := lb.rateLimitTracker.insert clientIp timestamps })
      else
        (true, { lb with rateLimitTracker := lb.rateLimitTracker.insert clientIp (timestamps ++ [lb.now]) })

def cleanupRateLimitEntries (lb : LoadBalancer) : LoadBalancer :=
  match lb.config with
  | none => lb
  | some config =>
    if config.rateLimitEnabled then
      let trimmed := fun ip => recent lb.now config.rateLimitWindowSeconds ((lb.rateLimitTracker.find ip).getD [])
      { lb with rateLimitTracker :=
          { find := fun ip => if trimmed ip = [] then none else some (trimmed ip)
            keys := lb.rateLimitTracker.keys.filter fun ip => trimmed ip ≠ []
            mem_keys := by
              intro ip
              cases found : lb.rateLimitTracker.find ip <;>
                simp [FiniteMap.mem_keys, found, trimmed, recent, Option.isSome_ite'] } }
    else lb

/-- The loop of `send_http_error_and_close`: the bytes left, or `none` on an error. -/
def sendAll (kernel : Kernel) (fd : Fd) (bytes : Bytes) : Option Bytes × Kernel :=
  if bytes = [] then (some [], kernel)
  else
    match kernel.write fd bytes with
    | (.wrote count, kernel) =>
        if 0 < count then sendAll kernel fd (bytes.drop count) else (some bytes, kernel)
    | (.again, kernel) => (some bytes, kernel)
    | (.error, kernel) => (none, kernel)
termination_by bytes.length
decreasing_by
  have nonempty : 0 < bytes.length := List.length_pos_iff.mpr (by assumption)
  simp only [List.length_drop]
  omega

/-- `send_http_error_and_close`. What cannot be sent at once is left to a
connection without accounting, which only flushes it. -/
def sendHttpErrorAndClose (lb : LoadBalancer) (fd : Fd) (status : ErrorStatus) (message : Bytes) : LoadBalancer :=
  let result := sendAll lb.kernel fd (errorResponse lb.order status message)
  let lb := { lb with kernel := result.2 }
  match result.1 with
  | none => lb.closeFd fd
  | some [] => lb.closeFd fd
  | some left =>
      let lb := lb.setConnection fd { fd := fd, state := .established, writeBuf := left }
      let lb := { lb with connectionTimes := lb.connectionTimes.insert fd lb.now }
      lb.addFd fd .out .errorResponse

def turnAway (lb : LoadBalancer) (http : Bool) (fd : Fd) (status : ErrorStatus) (message : Bytes) : LoadBalancer :=
  if http then lb.sendHttpErrorAndClose fd status message else lb.closeFd fd

def configHttp (lb : LoadBalancer) : Bool :=
  match lb.config with
  | some config => config.mode = .http
  | none => false

def tryEnqueue (lb : LoadBalancer) (fd : Fd) (clientIp : Bytes) : Option LoadBalancer :=
  match lb.config with
  | none => none
  | some config =>
    if config.queueEnabled ∧ lb.pendingClients.length < config.queueMaxSize then
      some { lb with pendingClients := lb.pendingClients ++ [⟨fd, clientIp, lb.now⟩] }
    else none

def getSessionKey (lb : LoadBalancer) (fd : Fd) (clientIp : Bytes) : Bytes :=
  match lb.config with
  | none => []
  | some config =>
    if config.stickySessionsEnabled then
      match config.stickySessionsMethod with
      | .ip => clientIp
      | .cookie =>
        match lb.clientSessionKeys.find fd with
        | some key => if key ≠ [] then key else clientIp
        | none => clientIp
    else []

/-- `get_session_key` when no key is stored under the descriptor. -/
def freshSessionKey (lb : LoadBalancer) (clientIp : Bytes) : Bytes :=
  match lb.config with
  | none => []
  | some config => if config.stickySessionsEnabled then clientIp else []

def recordAdmission (lb : LoadBalancer) (fd : Fd) (clientIp sessionKey own : Bytes) : LoadBalancer :=
  let admission : Admission := ⟨lb.settings.tls, clientIp, lb.storedSessionKey fd, sessionKey, own⟩
  let diary := { lb.history.diary with
    visits := lb.history.diary.visits.insert fd { initial := own }
    admissions := lb.history.diary.admissions ++ [admission] }
  { lb with history := { lb.history with diary := diary } }

/-- Admission of a client, from `accept` or from the queue. The answer with TLS is that
of `create_ssl`. -/
def admitClient (lb : LoadBalancer) (fd : Fd) (clientIp : Bytes) : LoadBalancer :=
  let lb := { lb with metrics := { lb.metrics with connectionsTotal := lb.metrics.connectionsTotal + 1 } }
  let client := attachMemoryAccounting { fd := fd }
  if lb.settings.tls then
    let lb := lb.recordAdmission fd clientIp [] []
    match lb.kernel.ask with
    | (.ok _, kernel) =>
        let lb := { lb with kernel := kernel }.setConnection fd { client with tls := true, state := .handshake }
        let lb := { lb with
          connectionTimes := lb.connectionTimes.insert fd lb.now
          handshakeStartTimes := lb.handshakeStartTimes.insert fd lb.now }
        lb.addFd fd .both .client
    | (_, kernel) => ({ lb with kernel := kernel }.closeFd fd).discard client
  else
    let lb := { lb with connectionTimes := lb.connectionTimes.insert fd lb.now }
    let sessionKey := lb.getSessionKey fd clientIp
    let lb := lb.recordAdmission fd clientIp sessionKey (lb.freshSessionKey clientIp)
    let lb := { lb with clientSessionKeys := lb.clientSessionKeys.insert fd sessionKey }
    lb.connect client 0 sessionKey

/-- The body of the loop of `handle_accept`, for one accepted descriptor. -/
def handleAccept (lb : LoadBalancer) (fd : Fd) (clientIp : Bytes) : LoadBalancer :=
  if lb.isIpAllowed clientIp = false then
    { lb with metrics := { lb.metrics with overloadDrops := lb.metrics.overloadDrops + 1 } }.turnAway
      lb.configHttp fd .forbidden (ascii "IP address not allowed")
  else
    let limited := lb.checkRateLimit clientIp
    let lb := limited.2
    if limited.1 = false then
      { lb with metrics := { lb.metrics with rateLimitDrops := lb.metrics.rateLimitDrops + 1 } }.turnAway
        lb.configHttp fd .tooManyRequests (ascii "Rate limit exceeded")
    else if lb.budget.isExceeded then
      (lb.tryEnqueue fd clientIp).getD
        ({ lb with metrics := { lb.metrics with memoryBudgetDrops := lb.metrics.memoryBudgetDrops + 1 } }.turnAway
          lb.configHttp fd .serviceUnavailable (ascii "Service temporarily unavailable"))
    else if lb.settings.maxGlobalConnections ≤ lb.countActiveClientConnections then
      (lb.tryEnqueue fd clientIp).getD
        ({ lb with metrics := { lb.metrics with overloadDrops := lb.metrics.overloadDrops + 1 } }.turnAway
          lb.configHttp fd .serviceUnavailable (ascii "Service temporarily unavailable"))
    else lb.admitClient fd clientIp

/-- `accept` returned a new descriptor for a client at `address`. -/
def accept (lb : LoadBalancer) (fd : Fd) (address : Bytes) : LoadBalancer :=
  match lb.kernel.openFd fd { address := address, connected := true } with
  | none => lb
  | some kernel =>
      { lb with kernel := kernel }.handleAccept fd (if address = [] then ascii "unknown" else address)

def dropExpired (lb : LoadBalancer) (config : Config) : List QueuedClient → LoadBalancer
  | [] => lb
  | client :: rest =>
      if Outstays config lb.now client then
        let lb := { lb with
          pendingClients := lb.pendingClients.erase client
          metrics := { lb.metrics with queueDrops := lb.metrics.queueDrops + 1 } }
        let lb := lb.turnAway (config.mode = .http) client.fd .serviceUnavailable
          (ascii "Request timeout while waiting in queue")
        dropExpired lb config rest
      else dropExpired lb config rest

/-- One more client may be let in from the queue. -/
abbrev HasRoom (lb : LoadBalancer) : Prop :=
  lb.countActiveClientConnections < lb.settings.maxGlobalConnections ∧ lb.budget.isExceeded = false

def admitWaiting (lb : LoadBalancer) : Nat → LoadBalancer
  | 0 => lb
  | fuel + 1 =>
    match lb.pendingClients with
    | [] => lb
    | client :: rest =>
      if lb.HasRoom then
        ({ lb with pendingClients := rest }.admitClient client.fd client.clientIp).admitWaiting fuel
      else lb

/-- `try_dequeue_clients`. The queue only shrinks here, so its length is fuel enough. -/
def tryDequeueClients (lb : LoadBalancer) : LoadBalancer :=
  match lb.config with
  | none => lb
  | some config =>
    if Queues config then
      let lb := lb.dropExpired config lb.pendingClients
      lb.admitWaiting lb.pendingClients.length
    else lb

/-- The members of a set in an order that begins with `order`; every iteration
order of a map is of this kind. -/
def arrange (order : List Fd) (members : Finset Fd) : List Fd :=
  (order.filter fun fd => fd ∈ members).dedup ++ (members.filter fun fd => fd ∉ order).sort

def checkRequestTimeouts (lb : LoadBalancer) (order : List Fd) : LoadBalancer :=
  if lb.settings.requestTimeoutMs = 0 then lb
  else
    let late := lb.connections.keys.filter fun fd =>
      lb.backendConnections.find fd = none ∧
        ((lb.connections.find fd).map Connection.state = some .established) ∧
        ((lb.connectionTimes.find fd).map fun start =>
          decide (lb.settings.requestTimeoutMs ≤ (lb.now - start) / 1000000)) = some true
    (arrange order late).foldl (fun lb fd =>
      { lb with metrics := { lb.metrics with
        requestTimeouts := lb.metrics.requestTimeouts + 1 } }.closeConnection fd) lb

def checkHandshakeTimeouts (lb : LoadBalancer) (order : List Fd) : LoadBalancer :=
  if lb.settings.tlsHandshakeTimeoutMs = 0 then lb
  else
    let late := lb.handshakeStartTimes.keys.filter fun fd =>
      ((lb.handshakeStartTimes.find fd).map fun start =>
        decide (lb.settings.tlsHandshakeTimeoutMs ≤ (lb.now - start) / 1000000)) = some true ∧
      (lb.connections.find fd).map Connection.state = some .handshake
    (arrange order late).foldl (fun lb fd =>
      let lb := lb.closeConnection fd
      { lb with handshakeStartTimes := lb.handshakeStartTimes.erase fd }) lb

def checkBackpressureTimeouts (lb : LoadBalancer) (order : List Fd) : LoadBalancer :=
  if lb.settings.backpressureTimeoutMs = 0 then lb
  else
    let late := lb.backpressureStartTimes.keys.filter fun fd =>
      ((lb.backpressureStartTimes.find fd).map fun start =>
        decide (lb.settings.backpressureTimeoutMs ≤ (lb.now - start) / 1000000)) = some true ∧
      ((lb.connections.find fd).map fun conn => decide (conn.state ≠ .closed)) = some true
    (arrange order late).foldl (fun lb fd =>
      let lb := { lb with metrics := { lb.metrics with
        backpressureTimeouts := lb.metrics.backpressureTimeouts + 1 } }.closeConnection fd
      { lb with backpressureStartTimes := lb.backpressureStartTimes.erase fd }) lb

/-- One backend of `cleanup_drained_backends`; `remove_backend` goes by host and port. -/
def cleanupBackend (lb : LoadBalancer) (id : NodeId) : LoadBalancer :=
  match lb.nodes.find id with
  | none => lb
  | some node =>
    if node.state = .draining ∧ node.activeConnections = 0 then
      let kept := lb.backendPool.backends.filter fun other =>
        match lb.nodes.find other with
        | some entry => !(entry.host == node.host && entry.port == node.port)
        | none => true
      { lb with backendPool := { lb.backendPool with backends := kept } }
    else lb

def cleanupDrainedBackends (lb : LoadBalancer) : LoadBalancer :=
  lb.backendPool.backends.foldl cleanupBackend lb

def evictPool (lb : LoadBalancer) (key : Bytes) : LoadBalancer :=
  match lb.poolManager with
  | none => lb
  | some manager =>
    match manager.pools.find key with
    | none => lb
    | some pool =>
      let state := ConnectionPool.evictExpired manager.config ⟨pool, lb.budget, lb.kernel, false⟩
      { lb with
        poolManager := some { manager with pools := manager.pools.insert key state.pool }
        budget := state.budget
        kernel := state.kernel }

def cleanupExpiredSessions (lb : LoadBalancer) : LoadBalancer :=
  { lb with sessions := lb.sessions.filter fun _ session => lb.now < session.expiresAt }

def forceCloseAllConnections (lb : LoadBalancer) (order : List Fd) : LoadBalancer :=
  let remaining := lb.connections.keys.filter fun fd =>
    ((lb.connections.find fd).map fun conn => decide (conn.state ≠ .closed)) = some true
  (arrange order remaining).foldl closeConnection lb

def finishShutdown (lb : LoadBalancer) (order : List Fd) : LoadBalancer :=
  { lb.forceCloseAllConnections order with running := false, draining := false }

def checkGracefulShutdown (lb : LoadBalancer) (order : List Fd) : LoadBalancer :=
  if lb.countActiveClientConnections = 0 ∨ lb.shutdownDeadline ≤ lb.now then lb.finishShutdown order else lb

/-- `shutdown_gracefully` when nothing comes between its steps; a thread takes them one by one in `Core.Closing`. -/
def shutdownGracefully (lb : LoadBalancer) (order : List Fd) : LoadBalancer :=
  if lb.shutdownRequested then lb
  else
    let lb := { lb with shutdownRequested := true }
    let lb : LoadBalancer := lb.backendPool.backends.foldl
      (fun lb id => lb.changeNode id fun node => { node with state := .draining }) lb
    let lb := { lb with
      draining := true
      shutdownDeadline := lb.now + lb.settings.gracefulShutdownTimeoutSeconds * 1000000000 }
    if lb.countActiveClientConnections = 0 then lb.finishShutdown order else lb

/-- The periodic callback up to `try_dequeue_clients`, without a reload of the configuration. `order` and
`pools` are the orders in which the maps of connections and pools are visited. -/
def maintained (lb : LoadBalancer) (order : List Fd) (pools : List Bytes) : LoadBalancer :=
  let lb := lb.cleanupDrainedBackends
  let lb := pools.foldl evictPool lb
  let lb := lb.checkRequestTimeouts order
  let lb := lb.checkHandshakeTimeouts order
  let lb := lb.checkBackpressureTimeouts order
  lb.cleanupRateLimitEntries

def periodic (lb : LoadBalancer) (order : List Fd) (pools : List Bytes) : LoadBalancer :=
  if lb.draining then lb.checkGracefulShutdown order
  else
    let lb := lb.maintained order pools
    let lb := lb.tryDequeueClients
    let lb := lb.cleanupExpiredSessions
    { lb with metrics := { lb.metrics with
      memoryBudgetUsed := lb.budget.used, memoryBudgetLimit := lb.budget.limit } }

/-- `add_backend`; `id` names the new node, and nothing refers to it yet. -/
def addBackend (lb : LoadBalancer) (id : NodeId) (host : Bytes) (port weight : Nat) : LoadBalancer :=
  match lb.backendPool.findBackend lb.nodes host port with
  | some _ => lb
  | none =>
    if lb.nodes.find id = none ∧ ∀ fd ∈ lb.backendConnections.keys, lb.backendConnections.find fd ≠ some id then
      { lb with
        nodes := lb.nodes.insert id (.create host port weight)
        backendPool := { lb.backendPool with backends := lb.backendPool.backends ++ [id] } }
    else lb

def expireNode (lb : LoadBalancer) (id : NodeId) : LoadBalancer :=
  if id ∈ lb.backendPool.backends then lb else { lb with nodes := lb.nodes.erase id }

/-- Bytes of the answer to an exchange arrive on a socket. -/
def arrive (lb : LoadBalancer) (fd : Fd) (exchange : Nat) (bytes : Bytes) : LoadBalancer :=
  match lb.kernel.sockets.find fd with
  | none => lb
  | some socket =>
    if socket.connected ∧ socket.fin = false then
      let arrived := if exchange = socket.exchange then socket.arrived ++ bytes else socket.arrived
      { lb with kernel := lb.kernel.setSocket fd { socket with rx := socket.rx ++ bytes, arrived := arrived } }
    else lb

def finish (lb : LoadBalancer) (fd : Fd) : LoadBalancer :=
  match lb.kernel.sockets.find fd with
  | none => lb
  | some socket => { lb with kernel := lb.kernel.setSocket fd { socket with fin := true } }

def completeConnect (lb : LoadBalancer) (fd : Fd) : LoadBalancer :=
  match lb.kernel.sockets.find fd with
  | none => lb
  | some socket => { lb with kernel := lb.kernel.setSocket fd { socket with connected := true } }

end LoadBalancer

/-- What can happen next: a call of the reactor, a change made by another thread,
or something the network does. -/
inductive Event where
  | accept (fd : Fd) (address : Bytes)
  | io (fd : Fd) (type : EventType)
  | periodic (order : List Fd) (pools : List Bytes)
  | shutdown (order : List Fd)
  | addBackend (id : NodeId) (host : Bytes) (port weight : Nat)
  | expireNode (id : NodeId)
  | health (id : NodeId) (state : BackendState)
  | advance (elapsed : Nat)
  | arrive (fd : Fd) (exchange : Nat) (bytes : Bytes)
  | finish (fd : Fd)
  | completeConnect (fd : Fd)
  deriving DecidableEq

structure Input where
  event : Event
  answers : List Answer := []
  deriving DecidableEq

namespace LoadBalancer

/-- The reactor runs and the listener is open. -/
abbrev accepting (lb : LoadBalancer) : Bool := lb.running && !lb.shutdownRequested

/-- Handle an event; a stopped reactor calls nothing. `handle_accept` tests no flag, but the listener is closed as soon as
a shutdown is requested. -/
def handle (lb : LoadBalancer) : Event → LoadBalancer
  | .accept fd address => if lb.accepting then lb.accept fd address else lb
  | .io fd type => if lb.running then lb.dispatch fd type else lb
  | .periodic order pools => if lb.running then lb.periodic order pools else lb
  | .shutdown order => lb.shutdownGracefully order
  | .addBackend id host port weight => lb.addBackend id host port weight
  | .expireNode id => lb.expireNode id
  | .health id state => lb.changeNode id fun node => { node with state := state }
  | .advance elapsed => { lb with kernel := { lb.kernel with clock := lb.kernel.clock + elapsed } }
  | .arrive fd exchange bytes => lb.arrive fd exchange bytes
  | .finish fd => lb.finish fd
  | .completeConnect fd => lb.completeConnect fd

def step (lb : LoadBalancer) (input : Input) : LoadBalancer :=
  { lb with kernel := { lb.kernel with answers := input.answers } }.handle input.event

/-- A process that has just been initialised, without backends. -/
def initial (settings : Settings) (config : Option Config) (pool : Option PoolConfig)
    (algorithm : RoutingAlgorithm) (limit : Nat) (order : HeaderOrder) : LoadBalancer where
  kernel := ⟨∅, 0, []⟩
  reactor := ⟨∅, ∅⟩
  budget := { used := 0, limit := limit }
  connections := ∅
  backendConnections := ∅
  backendToClientMap := ∅
  connectionTimes := ∅
  handshakeStartTimes := ∅
  backpressureStartTimes := ∅
  clientRetryCounts := ∅
  clientSessionKeys := ∅
  sessions := ∅
  nodes := ∅
  backendPool := { backends := [], algorithm := algorithm }
  poolManager := pool.map fun config => ⟨config, ∅⟩
  pooledConnections := ∅
  httpStates := ∅
  pipes := ∅
  pendingClients := []
  rateLimitTracker := ∅
  settings := settings
  config := config
  order := order
  metrics := {}
  accessLog := []
  draining := false
  shutdownRequested := false
  shutdownDeadline := 0
  running := true
  history := {}

end LoadBalancer

end Balancer.Core
