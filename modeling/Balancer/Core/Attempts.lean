import Balancer.Core.Handling

/-! The calls of `connect` that a step makes, in order, with the admissions of clients and the
backend connections that become established. Each function down to `Handling.marks` follows the one of its name. -/

namespace Balancer.Core
open Foundation Http Net

/-- A call of `connect`, with the state in which it is entered. -/
structure Attempt where
  lb : LoadBalancer
  client : Connection
  retryCount : Nat
  sessionKey : Bytes

/-- The backend that a call of `connect` selects. -/
def Attempt.selected (attempt : Attempt) : Option NodeId :=
  (attempt.lb.selectBackend attempt.sessionKey).1.map Prod.fst

/-- Where that backend is. -/
def Attempt.address (attempt : Attempt) : Option (Bytes × Nat) :=
  (attempt.lb.selectBackend attempt.sessionKey).1.map fun chosen => (chosen.2.host, chosen.2.port)

/-- What happens to a client on its way to a backend. -/
inductive Mark where
  /-- A client is admitted, from `accept` or from the queue. -/
  | admitted (lb : LoadBalancer) (fd : Fd) (clientIp : Bytes)
  | connect (attempt : Attempt)
  /-- A backend connection of the client is established. -/
  | established (fd : Fd)

namespace LoadBalancer

/-- The calls of `connect` and what comes of them. -/
def connectMarks (lb : LoadBalancer) (client : Connection) (retryCount : Nat) (sessionKey : Bytes) : List Mark :=
  .connect ⟨lb, client, retryCount, sessionKey⟩ ::
    match lb.tryConnect client retryCount sessionKey with
    | (lb, none) => if (lb.establishedPeer client.fd).isSome then [.established client.fd] else []
    | (lb, some client) =>
        if retryCount < maxRetryAttempts then
          lb.connectMarks client (retryCount + 1) (lb.storedSessionKey client.fd)
        else []
termination_by maxRetryAttempts - retryCount

def retryMarks (lb : LoadBalancer) (client : Connection) (retryCount : Nat) : List Mark :=
  if retryCount < maxRetryAttempts then
    lb.connectMarks client (retryCount + 1) (lb.storedSessionKey client.fd)
  else []

def tryRetryMarks (lb : LoadBalancer) (backendFd : Fd) : List Mark :=
  match lb.backendToClientMap.find backendFd with
  | none => []
  | some clientFd =>
    match lb.connections.find clientFd with
    | none => []
    | some _ =>
      let retryCount := (lb.clientRetryCounts.find clientFd).getD 0
      let lb := lb.closeBackendConnectionOnly backendFd
      match lb.connections.find clientFd with
      | none => []
      | some client => { lb with connections := lb.connections.erase clientFd }.retryMarks client retryCount

def connectFailedMarks (lb : LoadBalancer) (fd : Fd) : List Mark := (lb.countConnectFailure fd).tryRetryMarks fd

def handshakeCompleteMarks (lb : LoadBalancer) (fd : Fd) : List Mark :=
  let lb := { lb with handshakeStartTimes := lb.handshakeStartTimes.erase fd }
  match lb.connections.find fd with
  | none => []
  | some client => { lb with connections := lb.connections.erase fd }.connectMarks client 0 []

def tlsHandshakeMarks (lb : LoadBalancer) (fd : Fd) (conn : Connection) : List Mark :=
  if conn.tls then
    match lb.kernel.ask with
    | (.ok _, kernel) =>
        let lb := { lb with kernel := kernel }.modify fd fun conn => { conn with state := .established }
        (lb.modFd fd .both).handshakeCompleteMarks fd
    | _ => []
  else []

/-- What `admit_client` does before it comes to `connect`. -/
def welcomed (lb : LoadBalancer) (fd : Fd) (clientIp : Bytes) : LoadBalancer :=
  let lb := { lb with metrics := { lb.metrics with connectionsTotal := lb.metrics.connectionsTotal + 1 } }
  let lb := { lb with connectionTimes := lb.connectionTimes.insert fd lb.now }
  let sessionKey := lb.getSessionKey fd clientIp
  let lb := lb.recordAdmission fd clientIp sessionKey (lb.freshSessionKey clientIp)
  { lb with clientSessionKeys := lb.clientSessionKeys.insert fd sessionKey }

def admitMarks (lb : LoadBalancer) (fd : Fd) (clientIp : Bytes) : List Mark :=
  .admitted lb fd clientIp ::
    if lb.settings.tls then []
    else
      (lb.welcomed fd clientIp).connectMarks (attachMemoryAccounting { fd := fd }) 0 (lb.getSessionKey fd clientIp)

def handleAcceptMarks (lb : LoadBalancer) (fd : Fd) (clientIp : Bytes) : List Mark :=
  match lb.decision fd clientIp with
  | .letIn lb => lb.admitMarks fd clientIp
  | _ => []

def servedMarks (served : QueuedClient × LoadBalancer) : List Mark :=
  served.2.admitMarks served.1.fd served.1.clientIp

def tryDequeueMarks (lb : LoadBalancer) : List Mark := lb.admittedClients.flatMap servedMarks

end LoadBalancer

def Handling.marks : Handling → List Mark
  | .accept lb fd clientIp => lb.handleAcceptMarks fd clientIp
  | .serveQueue lb => lb.tryDequeueMarks
  | .handshake lb fd conn => lb.tlsHandshakeMarks fd conn
  | .fail lb fd => lb.connectFailedMarks fd
  | .complete lb fd _ => (lb.backendToClientMap.find fd).toList.map .established
  | _ => []

namespace LoadBalancer

def stepMarks (lb : LoadBalancer) (input : Input) : List Mark := (lb.stepHandling input).marks

/-- The marks of a run, in order. -/
def marks (lb : LoadBalancer) (inputs : List Input) : List Mark :=
  (inputs.foldl (fun (state : LoadBalancer × List Mark) input =>
    (state.1.step input, state.2 ++ state.1.stepMarks input)) (lb, [])).2

end LoadBalancer

end Balancer.Core
