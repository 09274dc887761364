import Balancer.Core.Handling

/-! The calls of `forward_data_` that an event makes, in order. Each function down to `Handling.calls` follows the one
of its name; what both handlers do alike is followed once. -/

namespace Balancer.Core
open Foundation Http Net

/-- A call of `forward_data_`, with the state in which it is entered. -/
structure Forwarding where
  lb : LoadBalancer
  source : Fd
  target : Fd

namespace LoadBalancer

def forwardInputCalls (lb : LoadBalancer) (fd : Fd) : List Forwarding :=
  match lb.establishedPeer fd with
  | some peer => if lb.hasInput fd then [⟨lb, fd, peer⟩] else []
  | none => []

/-- Of `client_eof` and `backend_eof`, which forward only to an established peer. -/
def eofCalls (lb : LoadBalancer) (fd : Fd) : List Forwarding :=
  match lb.connections.find fd with
  | none => []
  | some _ => lb.forwardInputCalls fd

def afterReadCalls (lb : LoadBalancer) (fd : Fd) : List Forwarding :=
  match lb.connections.find fd with
  | none => []
  | some conn =>
    if conn.memoryBlocked then []
    else if conn.bufferFull then (lb.modFd fd .out).forwardInputCalls fd
    else lb.forwardInputCalls fd

/-- READ of a client and of a backend. -/
def readCalls (lb : LoadBalancer) (fd : Fd) : List Forwarding :=
  match lb.settings.useSplice, lb.establishedPeer fd with
  | true, some peer => [⟨lb, fd, peer⟩]
  | _, _ =>
    let read := lb.readFromFd fd
    let after := read.2.afterRead fd
    read.2.afterReadCalls fd ++ if after.1 || read.1 then [] else after.2.eofCalls fd

def backendHupCalls (lb : LoadBalancer) (fd : Fd) : List Forwarding := (lb.readFromFd fd).2.forwardInputCalls fd

def backendReadyCalls (lb : LoadBalancer) (fd : Fd) (type : EventType) : List Forwarding :=
  match lb.connections.find fd with
  | none => []
  | some conn => if conn.state = .established ∧ type = .read then lb.readCalls fd else []

def forwardWaitingCalls (lb : LoadBalancer) (fd : Fd) : List Forwarding :=
  match lb.establishedPeer fd with
  | some peer => if lb.hasInput peer then [⟨lb, peer, fd⟩] else []
  | none => []

end LoadBalancer

def Handling.calls : Handling → List Forwarding
  | .complete lb fd type =>
      let lb := (lb.establishBackend fd).modFd fd .both
      lb.forwardWaitingCalls fd ++ (lb.forwardWaiting fd).backendReadyCalls fd type
  | .clientRead lb fd => lb.readCalls fd
  | .backendReady lb fd type => lb.backendReadyCalls fd type
  | .backendHup lb fd => lb.backendHupCalls fd
  | _ => []

def LoadBalancer.stepCalls (lb : LoadBalancer) (input : Input) : List Forwarding := (lb.stepHandling input).calls

end Balancer.Core
