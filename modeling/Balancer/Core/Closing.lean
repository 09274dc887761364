import Balancer.Core.Live

/-! `shutdown_gracefully` step by step. The thread that watches for the signal runs it while the reactor goes on, and its
steps fall between the calls the reactor makes. -/

namespace Balancer.Core
open Foundation Http Net

/-- What `shutdown_gracefully` has left to do: close the listener, store DRAINING on the backends, set `draining_` and then
the deadline, and end the shutdown at once if no client is active. -/
inductive ClosingTask where
  | unlisten
  | gather
  | look (id : NodeId)
  | storeDraining (id : NodeId)
  | drain
  | storeDeadline
  | count
  | forceClose
  | stop
  | settle
  deriving DecidableEq

/-- `stopped` says that the thread has told the reactor to stop; `server.lb.running` that the loop of the reactor goes on,
which it does until it has gone round. -/
structure Closing where
  server : Server
  listening : Bool := true
  agenda : List ClosingTask := []
  stopped : Bool := false

inductive ClosingMove where
  | happen (happening : Happening)
  | request
  | advance (order : List Fd)
  | around

namespace Closing
variable (closing : Closing)

def change (change : LoadBalancer → LoadBalancer) : Closing :=
  { closing with server := { closing.server with lb := change closing.server.lb } }

/-- `handle_accept` is called as long as there is a listener, whether or not a shutdown has been asked for. -/
def accept (fd : Fd) (address : Bytes) (answers : List Answer) : Closing :=
  if closing.server.lb.running && closing.listening then
    closing.change fun lb => { lb with kernel := { lb.kernel with answers := answers } }.accept fd address
  else closing

/-- What is not the watching thread's. A tick that ends the shutdown has closed every connection, so that the events left in
its round find no handler. -/
def happen : Happening → Closing
  | .turn (.process ⟨.accept fd address, answers⟩) => closing.accept fd address answers
  | .turn (.process ⟨.shutdown _, _⟩) => closing
  | happening => { closing with server := closing.server.undergo happening }

/-- `shutdown_requested_` is exchanged. -/
def request : Closing :=
  if closing.server.lb.shutdownRequested then closing
  else { closing.change fun lb => { lb with shutdownRequested := true } with
    agenda := [.unlisten, .gather, .drain, .storeDeadline, .count] }

def perform (order : List Fd) : ClosingTask → Closing
  | .unlisten => { closing with listening := false }
  | .gather => { closing with agenda := closing.server.lb.backendPool.backends.map .look ++ closing.agenda }
  | .look id =>
    match closing.server.lb.nodes.find id with
    | none => closing
    | some node =>
        if node.state = .draining then closing else { closing with agenda := .storeDraining id :: closing.agenda }
  | .storeDraining id => { closing with server := closing.server.setState id .draining }
  | .drain => closing.change fun lb => { lb with draining := true }
  | .storeDeadline =>
      closing.change fun lb => { lb with
        shutdownDeadline := lb.now + 1000000000 * lb.settings.gracefulShutdownTimeoutSeconds }
  | .count =>
      if closing.server.lb.countActiveClientConnections = 0 then
        { closing with agenda := .forceClose :: .stop :: .settle :: closing.agenda }
      else closing
  | .forceClose => closing.change fun lb => lb.forceCloseAllConnections order
  | .stop => { closing with stopped := true }
  | .settle => closing.change fun lb => { lb with draining := false }

/-- The next step of `shutdown_gracefully`. -/
def advance (order : List Fd) : Closing :=
  match closing.agenda with
  | [] => closing
  | task :: rest => { closing with agenda := rest }.perform order task

/-- The loop of the reactor has gone round and reads its flag. -/
def around : Closing :=
  if closing.stopped then closing.change fun lb => { lb with running := false } else closing

def move : ClosingMove → Closing
  | .happen happening => closing.happen happening
  | .request => closing.request
  | .advance order => closing.advance order
  | .around => closing.around

end Closing

/-- The balancer that has started, with its listener. -/
def Launch.closing (launch : Launch) : Closing := { server := launch.server }

end Balancer.Core
