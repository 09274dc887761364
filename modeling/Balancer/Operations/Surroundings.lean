import Balancer.Operations.Parting

/-! What the work on connections leaves alone: the live configuration, the session table, the
start times of TLS handshakes, the queue, what has become of the accepted clients, how streams have
ended and whether the balancer is being shut down. Each of them changes in few places. -/

namespace Balancer.Operations
open Foundation Http Net Core Refinement

@[ext] structure Ambient where
  config : Option Config
  sessions : FiniteMap Bytes SessionInfo
  handshakes : FiniteMap Fd Nat
  queue : List QueuedClient
  settings : Settings
  now : Nat
  keys : FiniteMap Fd Bytes

/-- The keys of the clients count only where no cookie replaces them. -/
def ambient (lb : LoadBalancer) : Ambient where
  config := lb.config
  sessions := lb.sessions
  handshakes := lb.handshakeStartTimes
  queue := lb.pendingClients
  settings := lb.settings
  now := lb.now
  keys := if lb.settings.cookie = none then lb.clientSessionKeys else ∅

/-- All of it but the handshake of one connection. -/
def Ambient.beside (around : Ambient) (fd : Fd) : Ambient := { around with handshakes := around.handshakes.erase fd }

/-- All of it but the handshakes. -/
def Ambient.unshaken (around : Ambient) : Ambient := { around with handshakes := ∅ }

/-- All of it but the sessions. -/
def Ambient.sessionless (around : Ambient) : Ambient := { around with sessions := ∅ }

/-- How far a shutdown has come. -/
@[ext] structure Stage where
  running : Bool
  requested : Bool
  draining : Bool
  deadline : Nat

def stage (lb : LoadBalancer) : Stage where
  running := lb.running
  requested := lb.shutdownRequested
  draining := lb.draining
  deadline := lb.shutdownDeadline

@[ext] structure Surroundings where
  ambient : Ambient
  door : Door
  endings : List Ending
  stage : Stage

def surroundings (lb : LoadBalancer) : Surroundings where
  ambient := ambient lb
  door := door lb.metrics
  endings := lb.history.endings
  stage := stage lb

/-- All of it but the ends of streams. -/
def Surroundings.unended (around : Surroundings) : Surroundings := { around with endings := [] }

/-- All of it but the ends of streams and the handshake of one connection. -/
def Surroundings.aside (around : Surroundings) (fd : Fd) : Surroundings :=
  { around.unended with ambient := around.ambient.beside fd }

/-- All of it but the handshakes. -/
def Surroundings.unshaken (around : Surroundings) : Surroundings := { around with ambient := around.ambient.unshaken }

/-- All of it but the shutdown. -/
def Surroundings.unstaged (around : Surroundings) : Surroundings := { around with stage := ⟨true, false, false, 0⟩ }

/-- All of it but the sessions. -/
def Surroundings.sessionless (around : Surroundings) : Surroundings :=
  { around with ambient := around.ambient.sessionless }

section Clocks
variable (kernel : Kernel) (fd : Fd) (endpoint : Endpoint)

theorem asked_clock {kernel after : Kernel} {answer : Answer} (asked : kernel.ask = (answer, after)) :
    after.clock = kernel.clock := by
  have same := kernel.ask_clock
  rwa [asked] at same

theorem openFd_clock {kernel after : Kernel} {fd : Fd} {socket : Socket} (opened : kernel.openFd fd socket = some after) :
    after.clock = kernel.clock := by
  unfold Kernel.openFd at opened
  split at opened
  · cases opened
    rfl
  · cases opened

@[simp] theorem read_clock (limit : Nat) : (kernel.read fd limit).2.clock = kernel.clock := by
  have same := kernel.ask_clock
  unfold Kernel.read
  split
  case h_5 answered _ =>
    rw [answered] at same
    split <;> exact same
  all_goals
    rename_i answered
    simp_all

@[simp] theorem write_clock (bytes : Bytes) : (kernel.write fd bytes).2.clock = kernel.clock := by
  have same := kernel.ask_clock
  unfold Kernel.write
  split
  case h_5 answered _ =>
    rw [answered] at same
    split <;> exact same
  all_goals
    rename_i answered
    simp_all

@[simp] theorem pending_clock : kernel.pending.2.clock = kernel.clock := by
  have same := kernel.ask_clock
  unfold Kernel.pending
  split <;> simp_all

@[simp] theorem readFromFd_clock : endpoint.readFromFd.2.kernel.clock = endpoint.kernel.clock := by
  unfold Endpoint.readFromFd
  dsimp only
  split
  · rfl
  · split
    · rfl
    · have same := read_clock endpoint.kernel endpoint.conn.fd (maxBufferSize - endpoint.conn.readBuf.length)
      split <;> simp_all

@[simp] theorem writeToFd_clock : endpoint.writeToFd.2.kernel.clock = endpoint.kernel.clock := by
  unfold Endpoint.writeToFd
  dsimp only
  split
  · rfl
  · have same := write_clock endpoint.kernel endpoint.conn.fd endpoint.conn.writeBuf
    split <;> simp_all

@[simp] theorem tryReserve_clock (bytes : Nat) :
    (endpoint.tryReserveAdditionalBytes bytes).2.kernel.clock = endpoint.kernel.clock := by
  unfold Endpoint.tryReserveAdditionalBytes
  dsimp only
  split
  · rfl
  · split <;> rfl

@[simp] theorem release_bytes_clock (bytes : Nat) :
    (endpoint.releaseAccountedBytes bytes).kernel.clock = endpoint.kernel.clock := by
  unfold Endpoint.releaseAccountedBytes
  split <;> rfl

end Clocks

theorem surroundings_detached : Detached surroundings where
  connections _ _ := rfl
  backends _ _ := rfl
  reactor _ _ := rfl
  resources _ _ _ clock := Surroundings.ext (Ambient.ext rfl rfl rfl rfl rfl clock rfl) rfl rfl rfl
  releases _ _ := rfl
  nodes _ _ := rfl
  times _ _ := rfl
  tracking _ _ _ := rfl
  clients _ _ := rfl
  retries _ _ := rfl

theorem surroundings_apart : Apart surroundings where
  toDetached := surroundings_detached
  pools _ _ := rfl
  records _ _ _ _ same := Surroundings.ext rfl same rfl rfl

section Frames
variable (lb : LoadBalancer) (fd : Fd)

@[simp] theorem surroundings_modify (change : Connection → Connection) : surroundings (lb.modify fd change) = surroundings lb :=
  surroundings_detached.modify lb fd change

@[simp] theorem surroundings_setPeer (peer : Option Fd) : surroundings (lb.setPeer fd peer) = surroundings lb := surroundings_modify lb fd _

@[simp] theorem surroundings_modFd (events : Interest) : surroundings (lb.modFd fd events) = surroundings lb := rfl

@[simp] theorem surroundings_closeFd : surroundings (lb.closeFd fd) = surroundings lb := rfl

theorem surroundings_setEndpoint {endpoint : Endpoint} (clock : endpoint.kernel.clock = lb.kernel.clock) :
    surroundings (lb.setEndpoint fd endpoint) = surroundings lb := surroundings_detached.setEndpoint lb fd clock

theorem surroundings_kernel {kernel : Kernel} (clock : kernel.clock = lb.kernel.clock) :
    surroundings { lb with kernel := kernel } = surroundings lb := Surroundings.ext (Ambient.ext rfl rfl rfl rfl rfl clock rfl) rfl rfl rfl

theorem surroundings_metrics (metrics : Metrics) (same : door metrics = door lb.metrics) :
    surroundings { lb with metrics := metrics } = surroundings lb := Surroundings.ext rfl same rfl rfl

@[simp] theorem surroundings_dangle : surroundings lb.dangle = surroundings lb := rfl

@[simp] theorem surroundings_startBackpressure : surroundings (lb.startBackpressure fd) = surroundings lb := by
  unfold LoadBalancer.startBackpressure
  split <;> rfl

@[simp] theorem surroundings_clearBackpressure : surroundings (lb.clearBackpressure fd) = surroundings lb :=
  surroundings_detached.clearBackpressure lb fd

@[simp] theorem surroundings_changeNode (id : NodeId) (change : BackendNode → BackendNode) :
    surroundings (lb.changeNode id change) = surroundings lb := surroundings_detached.changeNode lb id change

@[simp] theorem surroundings_hasPendingSend : surroundings (lb.hasPendingSend fd).2 = surroundings lb := by
  unfold LoadBalancer.hasPendingSend
  split
  · rfl
  · split
    · rfl
    · exact surroundings_kernel lb (pending_clock lb.kernel)

@[simp] theorem surroundings_readFromFd : surroundings (lb.readFromFd fd).2 = surroundings lb := by
  unfold LoadBalancer.readFromFd
  split
  · rfl
  case h_2 conn _ => exact surroundings_setEndpoint lb fd (readFromFd_clock (lb.endpoint conn))

@[simp] theorem surroundings_writeToFd : surroundings (lb.writeToFd fd).2 = surroundings lb := by
  unfold LoadBalancer.writeToFd
  split
  · rfl
  case h_2 conn _ => exact surroundings_setEndpoint lb fd (writeToFd_clock (lb.endpoint conn))

@[simp] theorem surroundings_discard (conn : Connection) : surroundings (lb.discard conn) = surroundings lb :=
  surroundings_detached.discard lb conn

end Frames

section Closing
variable (lb : LoadBalancer) (fd : Fd)

@[simp] theorem surroundings_dropBackendEntry (wasEstablished : Bool) :
    surroundings (lb.dropBackendEntry fd wasEstablished) = surroundings lb := surroundings_detached.dropBackendEntry lb fd wasEstablished

@[simp] theorem surroundings_forgetConnection : surroundings (lb.forgetConnection fd) = surroundings lb :=
  surroundings_detached.forgetConnection lb fd

@[simp] theorem surroundings_closeConnection : surroundings (lb.closeConnection fd) = surroundings lb :=
  surroundings_apart.closeConnection lb fd

@[simp] theorem surroundings_closeBackendConnectionOnly : surroundings (lb.closeBackendConnectionOnly fd) = surroundings lb := by
  unfold LoadBalancer.closeBackendConnectionOnly
  split
  · rfl
  case h_2 conn _ =>
    dsimp only
    refine (surroundings_discard _ _).trans ((surroundings_forgetConnection _ fd).trans ?_)
    rw [surroundings_dropBackendEntry, surroundings_modify]
    split <;> simp

@[simp] theorem surroundings_checkBackpressure : surroundings (lb.checkBackpressure fd) = surroundings lb := by
  unfold LoadBalancer.checkBackpressure
  split
  · rfl
  · split
    · exact surroundings_closeConnection _ fd
    · rfl

@[simp] theorem surroundings_cleanupPipes : surroundings (lb.cleanupPipes fd) = surroundings lb := rfl

/-- The close of the event handlers ends the handshake of its connection. -/
theorem surroundings_eventClose : surroundings (lb.eventClose fd) =
    { surroundings lb with ambient := { ambient lb with handshakes := lb.handshakeStartTimes.erase fd } } := by
  have freed : surroundings (if (lb.modify fd fun conn => { conn with tls := false }).settings.useSplice then
      (lb.modify fd fun conn => { conn with tls := false }).cleanupPipes fd
      else lb.modify fd fun conn => { conn with tls := false }) = surroundings lb := by
    split <;> simp
  unfold LoadBalancer.eventClose
  dsimp only
  generalize (if (lb.modify fd fun conn => { conn with tls := false }).settings.useSplice then
      (lb.modify fd fun conn => { conn with tls := false }).cleanupPipes fd
      else lb.modify fd fun conn => { conn with tls := false }) = rest at freed
  refine (surroundings_closeConnection _ fd).trans ?_
  have handshakes : rest.handshakeStartTimes = lb.handshakeStartTimes := congrArg (fun around => around.ambient.handshakes) freed
  have around : ambient rest = ambient lb := congrArg Surroundings.ambient freed
  change { surroundings rest with ambient := { ambient rest with handshakes := rest.handshakeStartTimes.erase fd } } = _
  rw [freed, around, handshakes]

end Closing

section Forwarding
variable (lb : LoadBalancer) (source target : Fd)

@[simp] theorem surroundings_copyBytes (count : Nat) : surroundings (lb.copyBytes source target count) = surroundings lb := by
  unfold LoadBalancer.copyBytes
  split
  · rfl
  · simp

@[simp] theorem surroundings_copyAndArm (count : Nat) : surroundings (lb.copyAndArm source target count) = surroundings lb := by
  unfold LoadBalancer.copyAndArm LoadBalancer.armAfterCopy LoadBalancer.clearBufferFull
  dsimp only
  split <;> simp

@[simp] theorem surroundings_trackPending : surroundings (lb.trackPending source target) = surroundings lb := by
  unfold LoadBalancer.trackPending
  dsimp only
  split <;> simp

@[simp] theorem surroundings_stall : surroundings (lb.stall source) = surroundings lb := by
  simp [LoadBalancer.stall]

@[simp] theorem surroundings_forward : surroundings (lb.forward source target) = surroundings lb := by
  unfold LoadBalancer.forward
  split
  · split
    · rfl
    · split
      · rfl
      · dsimp only
        split
        · simp
        · split <;> simp
  · rfl

@[simp] theorem surroundings_getOrCreatePipe : surroundings (lb.getOrCreatePipe source target).2 = surroundings lb := by
  unfold LoadBalancer.getOrCreatePipe
  split
  · rfl
  · split
    case h_1 first asked =>
      have once := asked_clock asked
      split
      case h_1 second again =>
        have twice := (asked_clock again).trans once
        split
        case h_1 opened success =>
          obtain ⟨between, one, other⟩ := Option.bind_eq_some_iff.mp success
          exact Surroundings.ext (Ambient.ext rfl rfl rfl rfl rfl ((openFd_clock other).trans ((openFd_clock one).trans twice)) rfl) rfl rfl rfl
        case h_2 => exact surroundings_kernel lb twice
      case h_2 again => exact surroundings_kernel lb ((asked_clock again).trans once)
    case h_2 asked => exact surroundings_kernel lb (asked_clock asked)

@[simp] theorem surroundings_setPipe (pipe : PipePair) : surroundings (lb.setPipe source target pipe) = surroundings lb := rfl

@[simp] theorem surroundings_spliceOut (pipe : PipePair) : surroundings (lb.spliceOut pipe target).2 = surroundings lb := by
  unfold LoadBalancer.spliceOut
  split
  · rfl
  · have same := write_clock lb.kernel target (pipe.pending.take LoadBalancer.spliceChunkSize)
    split
    all_goals
      rename_i result
      rw [result] at same
      exact surroundings_kernel lb same

@[simp] theorem surroundings_spliceIn (pipe : PipePair) : surroundings (lb.spliceIn source pipe).2 = surroundings lb := by
  unfold LoadBalancer.spliceIn
  split
  · rfl
  · exact surroundings_kernel lb (read_clock lb.kernel source _)

@[simp] theorem surroundings_spliceThrough (pipe : PipePair) : surroundings (lb.spliceThrough source target pipe) = surroundings lb := by
  have taken := surroundings_spliceIn lb source pipe
  unfold LoadBalancer.spliceThrough
  split
  case h_1 after result =>
    rw [result] at taken
    simpa using taken
  case h_2 after result =>
    rw [result] at taken
    exact taken
  case h_3 after result =>
    rw [result] at taken
    simpa using taken
  case h_4 bytes after result =>
    rw [result] at taken
    dsimp only
    have given := surroundings_spliceOut (after.setPipe source target { pipe with pending := pipe.pending ++ bytes }) target
      { pipe with pending := pipe.pending ++ bytes }
    split
    case h_1 left result =>
      rw [result] at given
      simpa using given.trans taken
    case h_2 count left result =>
      rw [result] at given
      split
      · simpa using given.trans taken
      · simpa using given.trans taken

@[simp] theorem surroundings_forwardWithBuffers : surroundings (lb.forwardWithBuffers source target) = surroundings lb := by
  unfold LoadBalancer.forwardWithBuffers
  split
  · split
    · rfl
    · dsimp only
      split
      · simp
      · split
        · split
          · split <;> simp
          · simp
        · simp
  · rfl

@[simp] theorem surroundings_spliceForward : surroundings (lb.spliceForward source target) = surroundings lb := by
  unfold LoadBalancer.spliceForward
  split
  · split
    · rfl
    · have piped := surroundings_getOrCreatePipe lb source target
      split
      case h_1 after result =>
        rw [result] at piped
        simpa using piped
      case h_2 pipe after result =>
        rw [result] at piped
        split
        · simpa using piped
        · have given := surroundings_spliceOut after target pipe
          split
          case h_1 left result =>
            rw [result] at given
            simpa using given.trans piped
          case h_2 left result =>
            rw [result] at given
            simpa using given.trans piped
          case h_3 count left _ result =>
            rw [result] at given
            simpa using given.trans piped
  · rfl

end Forwarding

section HttpForwarding
variable (lb : LoadBalancer) (fd : Fd)

@[simp] theorem surroundings_setHttpState (state : HttpState) : surroundings (lb.setHttpState fd state) = surroundings lb := rfl

@[simp] theorem surroundings_recordVisit (change : Visit → Visit) : surroundings (lb.recordVisit fd change) = surroundings lb := by
  unfold LoadBalancer.recordVisit
  split <;> rfl

/-- A session key is stored only where cookies replace the keys. -/
theorem surroundings_storeKey {name : Bytes × Nat} (cookie : lb.settings.cookie = some name) (keys : FiniteMap Fd Bytes) :
    surroundings { lb with clientSessionKeys := keys } = surroundings lb := by
  have same : ambient { lb with clientSessionKeys := keys } = ambient lb := by
    unfold ambient
    simp [cookie, LoadBalancer.now]
  exact Surroundings.ext same rfl rfl rfl

@[simp] theorem surroundings_updateSessionKey (request : HttpRequest) :
    surroundings (lb.updateSessionKey fd request) = surroundings lb := by
  unfold LoadBalancer.updateSessionKey
  split
  · rfl
  case h_2 cookie =>
    dsimp only
    split
    · rfl
    · exact (surroundings_recordVisit _ fd _).trans (surroundings_storeKey lb cookie _)

@[simp] theorem surroundings_injectCookie (response : ParsedHttpResponse) :
    surroundings (lb.injectCookie fd response).2 = surroundings lb := by
  unfold LoadBalancer.injectCookie
  split
  · rfl
  case h_2 cookie =>
    have keyed : surroundings (lb.sessionKeyForCookie fd).2 = surroundings lb := by
      unfold LoadBalancer.sessionKeyForCookie
      dsimp only
      split
      · rfl
      · exact (surroundings_recordVisit _ fd _).trans (surroundings_storeKey lb cookie _)
    unfold LoadBalancer.recordInjection
    dsimp only
    split <;> exact keyed

@[simp] theorem surroundings_replaceReadBuffer (message : Bytes) : surroundings (lb.replaceReadBuffer fd message).2 = surroundings lb := by
  unfold LoadBalancer.replaceReadBuffer
  split
  · rfl
  case h_2 conn _ =>
    have reserved := surroundings_setEndpoint lb fd
      (tryReserve_clock (lb.endpoint conn) (message.length - conn.readBuf.length))
    have released := surroundings_setEndpoint lb fd
      (release_bytes_clock (lb.endpoint conn) (conn.readBuf.length - message.length))
    dsimp only
    split
    · split
      · exact (surroundings_modify _ fd _).trans reserved
      · exact (surroundings_stall _ fd).trans reserved
    · exact (surroundings_modify _ fd _).trans released

@[simp] theorem surroundings_parseAndModifyHttpRequest : surroundings (lb.parseAndModifyHttpRequest fd).2 = surroundings lb := by
  unfold LoadBalancer.parseAndModifyHttpRequest
  split
  · rfl
  · split
    · dsimp only
      split
      · rw [surroundings_replaceReadBuffer, surroundings_updateSessionKey, surroundings_setHttpState]
      · rfl
    · rfl

@[simp] theorem surroundings_parseAndModifyHttpResponse (clientFd : Fd) :
    surroundings (lb.parseAndModifyHttpResponse fd clientFd).2 = surroundings lb := by
  unfold LoadBalancer.parseAndModifyHttpResponse
  split
  · rfl
  · dsimp only
    split
    · rw [surroundings_replaceReadBuffer, surroundings_setHttpState, surroundings_injectCookie]
    · rfl

@[simp] theorem surroundings_parseResponseStatus (data : Bytes) : surroundings (lb.parseResponseStatus fd data) = surroundings lb := by
  unfold LoadBalancer.parseResponseStatus
  split
  · rfl
  · split
    · rfl
    · split <;> rfl

@[simp] theorem surroundings_answerBadRequest (target : Fd) : surroundings (lb.answerBadRequest fd target) = surroundings lb := by
  unfold LoadBalancer.answerBadRequest
  split
  · rfl
  case h_2 conn _ =>
    have answers (start : LoadBalancer) (same : surroundings start = surroundings lb) (reserved : Bool × Endpoint)
        (clock : reserved.2.kernel.clock = start.kernel.clock) :
        surroundings (start.setEndpoint fd reserved.2) = surroundings lb := (surroundings_setEndpoint start fd clock).trans same
    dsimp only
    generalize began : (if conn.writeBuf.length < _ then _ else _ : Bool × Endpoint) = reserved
    have clock : reserved.2.kernel.clock = lb.kernel.clock := by
      rw [← began]
      split
      · exact tryReserve_clock _ _
      · exact release_bytes_clock _ _
    split
    · rw [surroundings_closeConnection, surroundings_setHttpState, surroundings_modify, surroundings_modFd, surroundings_modify]
      exact answers _ rfl reserved clock
    · rw [surroundings_closeConnection, surroundings_closeConnection]
      exact answers _ rfl reserved clock

@[simp] theorem surroundings_countCopied (isRequest : Bool) (count : Nat) :
    surroundings (lb.countCopied isRequest fd count) = surroundings lb := by
  unfold LoadBalancer.countCopied
  split
  · split <;> rfl
  · split
    · split <;> rfl
    · rfl

@[simp] theorem surroundings_completeResponse : surroundings (lb.completeResponse fd) = surroundings lb := by
  unfold LoadBalancer.completeResponse
  dsimp only
  split
  · split
    · rw [surroundings_setHttpState]
      unfold LoadBalancer.logCompleted
      split
      · rfl
      · exact surroundings_apart.records lb _ lb.httpStates _ (door_recordLatency _ _)
    · rfl
  · rfl

@[simp] theorem surroundings_prepareRequest (target : Fd) : surroundings (lb.prepareRequest fd target).2 = surroundings lb := by
  have ends (parsed : Bool × LoadBalancer) (kept : surroundings parsed.2 = surroundings lb) :
      surroundings (if parsed.1 then
        if (parsed.2.httpState fd).parser.hasError then (false, parsed.2.answerBadRequest fd target) else parsed
        else parsed).2 = surroundings lb := by
    split
    · split
      · exact (surroundings_answerBadRequest _ fd target).trans kept
      · exact kept
    · exact kept
  unfold LoadBalancer.prepareRequest
  dsimp only
  apply ends
  split
  · rfl
  · split <;> simp

@[simp] theorem surroundings_prepareResponse : surroundings (lb.prepareResponse fd).2 = surroundings lb := by
  unfold LoadBalancer.prepareResponse
  dsimp only
  split
  · have stored : surroundings (lb.setHttpState (lb.clientOf fd) (lb.httpState (lb.clientOf fd))) = surroundings lb := rfl
    generalize lb.setHttpState (lb.clientOf fd) (lb.httpState (lb.clientOf fd)) = kept at stored
    generalize lb.clientOf fd = clientFd
    have parsed : surroundings (if (kept.httpState clientFd).responseParsed then (true, kept)
        else if (kept.parseAndModifyHttpResponse fd clientFd).1 then
          (true, (kept.parseAndModifyHttpResponse fd clientFd).2.setHttpState clientFd
            { (kept.parseAndModifyHttpResponse fd clientFd).2.httpState clientFd with responseParsed := true })
        else (false, (kept.parseAndModifyHttpResponse fd clientFd).2)).2 = surroundings lb := by
      split
      · exact stored
      · split <;> simp [stored]
    generalize (if (kept.httpState clientFd).responseParsed then (true, kept) else _) = result at parsed
    split
    · split
      · split
        · exact (surroundings_parseResponseStatus _ _ _).trans parsed
        · exact parsed
      · exact parsed
    · exact parsed
  · rfl

@[simp] theorem surroundings_httpCopy (isRequest : Bool) (target : Fd) :
    surroundings (lb.httpCopy isRequest fd target) = surroundings lb := by
  unfold LoadBalancer.httpCopy
  split
  · dsimp only
    split
    · simp
    · split
      · split <;> simp
      · simp
  · rfl

@[simp] theorem surroundings_httpForward (target : Fd) : surroundings (lb.httpForward fd target) = surroundings lb := by
  unfold LoadBalancer.httpForward
  split
  · split
    · rfl
    · split
      · rfl
      · have ends (isRequest : Bool) (prepared : Bool × LoadBalancer) (kept : surroundings prepared.2 = surroundings lb) :
            surroundings (if prepared.1 then prepared.2.httpCopy isRequest fd target else prepared.2) = surroundings lb := by
          split
          · simpa using kept
          · exact kept
        apply ends
        split <;> simp
  · rfl

@[simp] theorem surroundings_forwardData (target : Fd) : surroundings (lb.forwardData fd target) = surroundings lb := by
  unfold LoadBalancer.forwardData
  split
  · simp
  · split <;> simp

end HttpForwarding

section Handlers
variable (lb : LoadBalancer) (fd : Fd)

theorem aside_of_unended {before after : LoadBalancer}
    (same : (surroundings after).unended = (surroundings before).unended) :
    (surroundings after).aside fd = (surroundings before).aside fd :=
  congrArg (fun around : Surroundings => { around with ambient := around.ambient.beside fd }) same

@[simp] theorem unended_noteEnding : (surroundings (lb.noteEnding fd)).unended = (surroundings lb).unended := by
  unfold LoadBalancer.noteEnding
  split <;> rfl

@[simp] theorem aside_noteEnding : (surroundings (lb.noteEnding fd)).aside fd = (surroundings lb).aside fd :=
  aside_of_unended fd (unended_noteEnding lb fd)

@[simp] theorem surroundings_shutdownWrite : surroundings (lb.shutdownWrite fd) = surroundings lb := by
  refine surroundings_kernel lb ?_
  unfold Kernel.shutdown
  split <;> rfl

@[simp] theorem surroundings_trackIfPending : surroundings (lb.trackIfPending fd) = surroundings lb := by
  have asked := surroundings_hasPendingSend lb fd
  unfold LoadBalancer.trackIfPending
  dsimp only
  split
  · exact ((surroundings_startBackpressure _ fd).trans asked)
  · exact asked

@[simp] theorem surroundings_forwardInput : surroundings (lb.forwardInput fd) = surroundings lb := by
  unfold LoadBalancer.forwardInput
  split
  · split <;> simp
  · rfl

@[simp] theorem surroundings_countFailure (id : NodeId) : surroundings (lb.countFailure id) = surroundings lb := by
  unfold LoadBalancer.countFailure
  split
  · exact surroundings_changeNode lb id _
  · rfl

@[simp] theorem surroundings_countConnectFailure : surroundings (lb.countConnectFailure fd) = surroundings lb := by
  unfold LoadBalancer.countConnectFailure
  split <;> simp

@[simp] theorem surroundings_afterRead : surroundings (lb.afterRead fd).2 = surroundings lb := by
  unfold LoadBalancer.afterRead
  split
  · rfl
  · split
    · simp
    · split <;> simp

@[simp] theorem unended_backendEof : (surroundings (lb.backendEof fd)).unended = (surroundings lb).unended := by
  unfold LoadBalancer.backendEof
  split
  · rfl
  · split
    · simp
    · dsimp only
      split <;> simp

@[simp] theorem unended_backendRead : (surroundings (lb.backendRead fd)).unended = (surroundings lb).unended := by
  unfold LoadBalancer.backendRead
  split
  · simp
  · dsimp only
    split <;> simp

@[simp] theorem aside_backendRead : (surroundings (lb.backendRead fd)).aside fd = (surroundings lb).aside fd :=
  aside_of_unended fd (unended_backendRead lb fd)

@[simp] theorem unended_backendHup : (surroundings (lb.backendHup fd)).unended = (surroundings lb).unended := by
  unfold LoadBalancer.backendHup
  dsimp only
  split
  · simp
  · split <;> simp

@[simp] theorem surroundings_forwardWaiting : surroundings (lb.forwardWaiting fd) = surroundings lb := by
  unfold LoadBalancer.forwardWaiting
  split
  · split <;> simp
  · rfl

@[simp] theorem surroundings_countEstablished (id : NodeId) (key : Bytes) : surroundings (lb.countEstablished id key) = surroundings lb :=
  (surroundings_metrics _ _ (door_increment _)).trans (surroundings_changeNode lb id _)

@[simp] theorem surroundings_establishBackend : surroundings (lb.establishBackend fd) = surroundings lb := by
  unfold LoadBalancer.establishBackend
  dsimp only
  split
  · simp
  · split <;> simp

@[simp] theorem surroundings_handleErrorResponse (type : EventType) : surroundings (lb.handleErrorResponse fd type) = surroundings lb := by
  unfold LoadBalancer.handleErrorResponse
  split
  · rfl
  · split
    · dsimp only
      split
      · split
        · split <;> simp
        · simp
      · simp
    · rfl
    · simp

@[simp] theorem aside_eventClose : (surroundings (lb.eventClose fd)).aside fd = (surroundings lb).aside fd := by
  rw [surroundings_eventClose]
  refine Surroundings.ext (Ambient.ext rfl rfl (FiniteMap.ext fun other => ?_) rfl rfl rfl rfl) rfl rfl rfl
  change ((lb.handshakeStartTimes.erase fd).erase fd).find other = (lb.handshakeStartTimes.erase fd).find other
  simp only [FiniteMap.find_erase]
  split <;> rfl

@[simp] theorem aside_clientEof : (surroundings (lb.clientEof fd)).aside fd = (surroundings lb).aside fd := by
  unfold LoadBalancer.clientEof
  split
  · rfl
  · split
    · simp
    · dsimp only
      split <;> simp

@[simp] theorem aside_clientRead : (surroundings (lb.clientRead fd)).aside fd = (surroundings lb).aside fd := by
  unfold LoadBalancer.clientRead
  split
  · simp
  · dsimp only
    split <;> simp

@[simp] theorem aside_clientWrite : (surroundings (lb.clientWrite fd)).aside fd = (surroundings lb).aside fd := by
  unfold LoadBalancer.clientWrite
  dsimp only
  split
  · split
    · simp
    case h_2 conn _ =>
      cases conn.peer with
      | none =>
        dsimp only
        split
        · split <;> simp
        · split <;> simp
      | some peer =>
        dsimp only
        rw [surroundings_trackIfPending]
        split
        · split <;> simp
        · split <;> simp
  · simp

@[simp] theorem aside_backendWrite : (surroundings (lb.backendWrite fd)).aside fd = (surroundings lb).aside fd := by
  unfold LoadBalancer.backendWrite
  dsimp only
  split
  · split
    · simp
    · split <;> simp
  · simp

@[simp] theorem aside_backendReady (type : EventType) : (surroundings (lb.backendReady fd type)).aside fd = (surroundings lb).aside fd := by
  unfold LoadBalancer.backendReady
  split
  · rfl
  · split
    · split <;> simp
    · rfl

end Handlers

section Pools

theorem closePooled_clock (conn : Connection) (budget : MemoryBudget) (kernel : Kernel) :
    (closePooled conn budget kernel).2.clock = kernel.clock := by
  unfold closePooled
  rw [Endpoint.close_close]
  exact close_clock ⟨conn, budget, kernel⟩

theorem validateConnection_clock (kernel : Kernel) (conn : Connection) :
    (validateConnection kernel conn).2.clock = kernel.clock := by
  have same := kernel.ask_clock
  unfold validateConnection
  split
  · unfold Kernel.peek
    split <;> simp_all
  · rfl

theorem scanIdle_clock (config : PoolConfig) (budget : MemoryBudget) (kernel : Kernel) (entries : List PooledConnection) :
    (scanIdle config budget kernel entries).kernel.clock = kernel.clock := by
  have checks (kernel : Kernel) (conn : Connection) :
      (if config.validateOnBorrow then validateConnection kernel conn else (true, kernel)).2.clock = kernel.clock := by
    split
    · exact validateConnection_clock kernel conn
    · rfl
  induction entries using List.twoStepInduction generalizing budget kernel with
  | nil => rfl
  | singleton entry =>
    have checked := checks kernel entry.connection
    unfold scanIdle
    dsimp only
    generalize (if config.validateOnBorrow then validateConnection kernel entry.connection else (true, kernel)) =
      result at checked ⊢
    split
    · exact checked
    · exact (closePooled_clock entry.connection budget result.2).trans checked
  | cons_cons entry skipped later ih _ =>
    have checked := checks kernel entry.connection
    unfold scanIdle
    dsimp only
    generalize (if config.validateOnBorrow then validateConnection kernel entry.connection else (true, kernel)) =
      result at checked ⊢
    split
    · exact checked
    · exact (ih _ _).trans ((closePooled_clock entry.connection budget result.2).trans checked)

theorem createConnection_clock (kernel : Kernel) : (createConnection kernel).2.clock = kernel.clock := by
  unfold createConnection
  split
  case h_2 asked => exact asked_clock asked
  case h_1 asked =>
    have first := asked_clock asked
    split
    case h_1 => exact first
    case h_2 opened =>
      have second := (openFd_clock opened).trans first
      split
      case h_2 asked => exact (asked_clock asked).trans second
      case h_1 asked =>
        have third := (asked_clock asked).trans second
        split
        case h_1 asked => exact (asked_clock asked).trans third
        case h_2 asked =>
          have fourth := (asked_clock asked).trans third
          split
          case h_2 asked => exact (asked_clock asked).trans fourth
          case h_1 asked =>
            have fifth := (asked_clock asked).trans fourth
            split
            · rename_i asked
              exact (asked_clock asked).trans fifth
            · rename_i asked
              exact (asked_clock asked).trans fifth

theorem borrow_clock (config : PoolConfig) (state : PoolState) :
    (ConnectionPool.borrow config state).2.kernel.clock = state.kernel.clock := by
  have scanned := scanIdle_clock config state.budget state.kernel state.pool.connections
  unfold ConnectionPool.borrow
  dsimp only
  split
  · exact scanned
  · split
    · have created := createConnection_clock (scanIdle config state.budget state.kernel state.pool.connections).kernel
      split
      all_goals
        rename_i result
        rw [result] at created
        exact created.trans scanned
    · exact scanned

theorem evictLoop_clock (config : PoolConfig) (now idle : Nat) (budget : MemoryBudget) (kernel : Kernel)
    (entries : List PooledConnection) : (evictLoop config now idle budget kernel entries).2.2.clock = kernel.clock := by
  induction entries generalizing idle budget kernel with
  | nil => rfl
  | cons entry rest ih =>
    unfold evictLoop
    split
    · exact (ih _ _ _).trans (closePooled_clock _ _ _)
    · exact ih _ _ _

end Pools

section Connects
variable (lb : LoadBalancer)

@[simp] theorem surroundings_borrow (manager : ConnectionPoolManager) (host : Bytes) (port : Nat) :
    surroundings (lb.borrow manager host port).2 = surroundings lb := by
  have noted (start : LoadBalancer) (fd : Fd) : surroundings (start.noteHandout fd) = surroundings start := by
    unfold LoadBalancer.noteHandout
    split <;> rfl
  have lent := borrow_clock manager.config
    ⟨(manager.pools.find (backendKey host port)).getD { host := host, port := port }, lb.budget, lb.kernel, false⟩
  unfold LoadBalancer.borrow
  dsimp only
  split
  · dsimp only
    split
    · exact (noted _ _).trans ((Surroundings.ext (Ambient.ext rfl rfl rfl rfl rfl lent rfl) rfl rfl rfl))
    · exact (Surroundings.ext (Ambient.ext rfl rfl rfl rfl rfl lent rfl) rfl rfl rfl)
  · exact (Surroundings.ext (Ambient.ext rfl rfl rfl rfl rfl lent rfl) rfl rfl rfl)

@[simp] theorem surroundings_installPair (client backend : Connection) (id : NodeId) (node : BackendNode) (isPooled : Bool)
    (retryCount : Nat) : surroundings (lb.installPair client backend id node isPooled retryCount) = surroundings lb := by
  have routed (start : LoadBalancer) (fd : Fd) (key : Bytes) : surroundings (start.setBackendForRequest fd key) = surroundings start := by
    unfold LoadBalancer.setBackendForRequest
    split
    · split <;> rfl
    · rfl
  have counted (start : LoadBalancer) (established : Bool) (key : Bytes) :
      surroundings (if established then start.countEstablished id key else start) = surroundings start := by
    split
    · exact surroundings_countEstablished start id key
    · rfl
  unfold LoadBalancer.installPair
  exact (routed _ _ _).trans (counted _ _ _)

@[simp] theorem surroundings_connectDirect (client : Connection) (id : NodeId) (node : BackendNode) (retryCount : Nat) :
    surroundings (lb.connectDirect client id node retryCount).1 = surroundings lb := by
  unfold LoadBalancer.connectDirect
  split
  case h_2 asked => exact (surroundings_discard _ client).trans (surroundings_kernel lb (asked_clock asked))
  case h_1 asked =>
    have first := asked_clock asked
    split
    case h_1 => exact (surroundings_discard _ client).trans (surroundings_kernel lb first)
    case h_2 opened =>
      have second := (openFd_clock opened).trans first
      dsimp only
      split
      case h_2 asked =>
        have third := surroundings_kernel lb ((asked_clock asked).trans second)
        simpa using third
      case h_1 asked =>
        have third := (asked_clock asked).trans second
        split
        case h_1 asked =>
          have fourth := (asked_clock asked).trans third
          exact (surroundings_installPair _ _ _ id node false retryCount).trans (surroundings_kernel lb fourth)
        case h_2 asked =>
          have fourth := surroundings_kernel lb ((asked_clock asked).trans third)
          simpa using fourth
        case h_3 asked =>
          have fourth := (asked_clock asked).trans third
          exact (surroundings_installPair _ _ _ id node false retryCount).trans (surroundings_kernel lb fourth)

/-- A selection changes only the session table. -/
theorem surroundings_selectBackend (sessionKey : Bytes) :
    surroundings (lb.selectBackend sessionKey).2 =
      { surroundings lb with ambient := { ambient lb with sessions := (lb.selectBackend sessionKey).2.sessions } } := by
  unfold LoadBalancer.selectBackend
  dsimp only
  split
  · rfl
  · split
    · rfl
    · dsimp only
      split <;> rfl

theorem surroundings_tryConnect (client : Connection) (retryCount : Nat) (sessionKey : Bytes) :
    surroundings (lb.tryConnect client retryCount sessionKey).1 =
      { surroundings lb with ambient := { ambient lb with sessions := (lb.selectBackend sessionKey).2.sessions } } := by
  rw [← surroundings_selectBackend]
  unfold LoadBalancer.tryConnect
  dsimp only
  split
  case h_1 after chosen =>
    rw [chosen]
    exact (surroundings_discard _ _).trans (surroundings_metrics after _ rfl)
  case h_2 id node after chosen =>
    rw [chosen]
    split
    case h_1 manager _ =>
      have borrowed := surroundings_borrow after manager node.host node.port
      split
      case h_1 backend left lent =>
        rw [lent] at borrowed
        exact (surroundings_installPair left _ _ id node true retryCount).trans borrowed
      case h_2 left lent =>
        rw [lent] at borrowed
        exact (surroundings_connectDirect left _ id node retryCount).trans borrowed
    case h_2 => exact surroundings_connectDirect after _ id node retryCount

theorem surroundings_giveUp (client : Connection) : surroundings (lb.giveUp client) = surroundings lb :=
  (surroundings_discard _ client).trans (surroundings_metrics lb _ rfl)

/-- The induction follows the retries nested in `connect`. -/
theorem surroundings_connect (client : Connection) (retryCount : Nat) (sessionKey : Bytes) :
    (surroundings (lb.connect client retryCount sessionKey)).sessionless = (surroundings lb).sessionless := by
  induction left : LoadBalancer.maxRetryAttempts - retryCount using Nat.strong_induction_on generalizing
    lb client retryCount sessionKey with
  | _ attempts ih =>
    have tried : (surroundings (lb.tryConnect client retryCount sessionKey).1).sessionless = (surroundings lb).sessionless := by
      rw [surroundings_tryConnect]
      rfl
    rw [LoadBalancer.connect]
    generalize lb.tryConnect client retryCount sessionKey = result at tried
    obtain ⟨after, back⟩ := result
    cases back with
    | none => exact tried
    | some back =>
      dsimp only
      split
      case isTrue more =>
        have fewer : LoadBalancer.maxRetryAttempts - (retryCount + 1) < attempts := by omega
        exact (ih _ fewer after back (retryCount + 1) _ rfl).trans tried
      case isFalse => exact (congrArg Surroundings.sessionless (surroundings_giveUp after back)).trans tried

theorem surroundings_retry (client : Connection) (retryCount : Nat) :
    (surroundings (lb.retry client retryCount)).sessionless = (surroundings lb).sessionless := by
  unfold LoadBalancer.retry
  split
  · exact surroundings_connect lb client _ _
  · exact congrArg Surroundings.sessionless (surroundings_giveUp lb client)

end Connects

end Balancer.Operations
