import Balancer.Core.Live

/-! What becomes of the sockets that `handle_accept` accepts, in the order in which it does. -/

namespace Balancer.Core
open Foundation Http Net

inductive Entry where
  /-- A socket is accepted and its fate is decided. -/
  | settled (fate : Fate)
  /-- A socket is accepted and put in the queue. -/
  | queued (client : QueuedClient)
  | left (client : QueuedClient) (fate : Fate)
  deriving DecidableEq

/-- The entry is about a socket that has just been accepted. -/
def Entry.arrives : Entry → Bool
  | .settled _ => true
  | .queued _ => true
  | .left _ _ => false

namespace LoadBalancer

def handleAcceptEntry (lb : LoadBalancer) (fd : Fd) (clientIp : Bytes) : Entry :=
  match lb.decision fd clientIp with
  | .refuse fate _ => .settled fate
  | .queue client _ => .queued client
  | .letIn _ => .settled .admitted

def dropEntry (dropped : QueuedClient × Refusal) : Entry := .left dropped.1 .overdue

def serveEntry (served : QueuedClient × LoadBalancer) : Entry := .left served.1 .dequeued

def tryDequeueEntries (lb : LoadBalancer) : List Entry :=
  lb.overdueClients.map dropEntry ++ lb.admittedClients.map serveEntry

end LoadBalancer

def Handling.entries : Handling → List Entry
  | .accept lb fd clientIp => [lb.handleAcceptEntry fd clientIp]
  | .serveQueue lb => lb.tryDequeueEntries
  | _ => []

/-- The listener accepts a socket in this step. -/
def LoadBalancer.accepts (lb : LoadBalancer) (input : Input) : Bool :=
  match input.event with
  | .accept fd address =>
      lb.accepting && (lb.kernel.openFd fd { address := address, connected := true }).isSome
  | _ => false

namespace Server

def entries (server : Server) : Happening → List Entry
  | .turn (.process input) => (server.lb.stepHandling input).entries
  | _ => []

def accepts (server : Server) : Happening → Bool
  | .turn (.process input) => server.lb.accepts input
  | _ => false

end Server

end Balancer.Core
