import Balancer.Operations.Surroundings

/-! The live configuration, the session table, the start times of TLS handshakes and the queue, as the work on
connections leaves them. -/

namespace Balancer.Operations
open Foundation Http Net Core Refinement

section Connections
variable (lb : LoadBalancer) (fd : Fd)

@[simp] theorem ambient_modify (change : Connection → Connection) : ambient (lb.modify fd change) = ambient lb :=
  congrArg Surroundings.ambient (surroundings_modify lb fd change)

@[simp] theorem ambient_modFd (events : Interest) : ambient (lb.modFd fd events) = ambient lb := rfl

theorem ambient_kernel {kernel : Kernel} (clock : kernel.clock = lb.kernel.clock) :
    ambient { lb with kernel := kernel } = ambient lb :=
  congrArg Surroundings.ambient (surroundings_kernel lb clock)

@[simp] theorem ambient_changeNode (id : NodeId) (change : BackendNode → BackendNode) :
    ambient (lb.changeNode id change) = ambient lb :=
  congrArg Surroundings.ambient (surroundings_changeNode lb id change)

@[simp] theorem ambient_discard (conn : Connection) : ambient (lb.discard conn) = ambient lb :=
  congrArg Surroundings.ambient (surroundings_discard lb conn)

@[simp] theorem ambient_closeConnection : ambient (lb.closeConnection fd) = ambient lb :=
  congrArg Surroundings.ambient (surroundings_closeConnection lb fd)

@[simp] theorem ambient_closeBackendConnectionOnly : ambient (lb.closeBackendConnectionOnly fd) = ambient lb :=
  congrArg Surroundings.ambient (surroundings_closeBackendConnectionOnly lb fd)

@[simp] theorem ambient_checkBackpressure : ambient (lb.checkBackpressure fd) = ambient lb :=
  congrArg Surroundings.ambient (surroundings_checkBackpressure lb fd)

@[simp] theorem ambient_noteEnding : ambient (lb.noteEnding fd) = ambient lb :=
  congrArg Surroundings.ambient (unended_noteEnding lb fd)

@[simp] theorem ambient_countConnectFailure : ambient (lb.countConnectFailure fd) = ambient lb :=
  congrArg Surroundings.ambient (surroundings_countConnectFailure lb fd)

@[simp] theorem ambient_backendHup : ambient (lb.backendHup fd) = ambient lb :=
  congrArg Surroundings.ambient (unended_backendHup lb fd)

@[simp] theorem ambient_forwardWaiting : ambient (lb.forwardWaiting fd) = ambient lb :=
  congrArg Surroundings.ambient (surroundings_forwardWaiting lb fd)

@[simp] theorem ambient_establishBackend : ambient (lb.establishBackend fd) = ambient lb :=
  congrArg Surroundings.ambient (surroundings_establishBackend lb fd)

@[simp] theorem ambient_handleErrorResponse (type : EventType) : ambient (lb.handleErrorResponse fd type) = ambient lb :=
  congrArg Surroundings.ambient (surroundings_handleErrorResponse lb fd type)

@[simp] theorem beside_eventClose : (ambient (lb.eventClose fd)).beside fd = (ambient lb).beside fd :=
  congrArg Surroundings.ambient (aside_eventClose lb fd)

@[simp] theorem beside_clientRead : (ambient (lb.clientRead fd)).beside fd = (ambient lb).beside fd :=
  congrArg Surroundings.ambient (aside_clientRead lb fd)

@[simp] theorem beside_clientWrite : (ambient (lb.clientWrite fd)).beside fd = (ambient lb).beside fd :=
  congrArg Surroundings.ambient (aside_clientWrite lb fd)

@[simp] theorem beside_backendReady (type : EventType) :
    (ambient (lb.backendReady fd type)).beside fd = (ambient lb).beside fd :=
  congrArg Surroundings.ambient (aside_backendReady lb fd type)

end Connections

section Connects
variable (lb : LoadBalancer)

theorem ambient_tryConnect (client : Connection) (retryCount : Nat) (sessionKey : Bytes) :
    ambient (lb.tryConnect client retryCount sessionKey).1 =
      { ambient lb with sessions := (lb.selectBackend sessionKey).2.sessions } :=
  congrArg Surroundings.ambient (surroundings_tryConnect lb client retryCount sessionKey)

theorem sessionless_connect (client : Connection) (retryCount : Nat) (sessionKey : Bytes) :
    (ambient (lb.connect client retryCount sessionKey)).sessionless = (ambient lb).sessionless :=
  congrArg Surroundings.ambient (surroundings_connect lb client retryCount sessionKey)

theorem sessionless_retry (client : Connection) (retryCount : Nat) :
    (ambient (lb.retry client retryCount)).sessionless = (ambient lb).sessionless :=
  congrArg Surroundings.ambient (surroundings_retry lb client retryCount)

theorem connect_handshakeStartTimes (client : Connection) (retryCount : Nat) (sessionKey : Bytes) :
    (lb.connect client retryCount sessionKey).handshakeStartTimes = lb.handshakeStartTimes :=
  congrArg Ambient.handshakes (sessionless_connect lb client retryCount sessionKey)

theorem retry_handshakeStartTimes (client : Connection) (retryCount : Nat) :
    (lb.retry client retryCount).handshakeStartTimes = lb.handshakeStartTimes :=
  congrArg Ambient.handshakes (sessionless_retry lb client retryCount)

end Connects

end Balancer.Operations
