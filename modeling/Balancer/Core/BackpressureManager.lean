import Balancer.Core.Live

/-! The `BackpressureManager`, which the event handlers ask about a connection. It has a copy of the
time-out and is made anew when a configuration is put into effect; the periodic task reads the
balancer's own value. -/

namespace Balancer.Core
open Foundation Http Net

/-- The start times are those of the balancer, to which the manager has a reference. -/
structure BackpressureManager where
  timeoutMs : Nat

/-- `check_timeout`, with a callback that works on some state. -/
def BackpressureManager.checkTimeout {σ : Type} (manager : BackpressureManager) (starts : FiniteMap Fd Nat) (now : Nat)
    (fd : Fd) (closeCallback : σ → Fd → σ) (state : σ) : σ :=
  match starts.find fd with
  | none => state
  | some start => if (manager.timeoutMs : Int) ≤ elapsedMs now start then closeCallback state fd else state

/-- The `timed_out_fds` of `check_backpressure_timeouts`. -/
def timedOutFds (timeoutMs : Nat) (starts : FiniteMap Fd Nat) (connections : FiniteMap Fd Connection) (now : Nat) :
    Finset Fd :=
  if timeoutMs = 0 then ∅
  else
    starts.keys.filter fun fd =>
      ((starts.find fd).map fun start => decide ((timeoutMs : Int) ≤ elapsedMs now start)) = some true ∧
      ((connections.find fd).map fun conn => decide (conn.state ≠ .closed)) = some true

/-- A balancer with its `backpressure_manager_`. -/
structure Attended where
  server : Server
  backpressureManager : BackpressureManager

namespace Attended

/-- A new manager takes the value the balancer holds. -/
def attend (server : Server) : Attended := ⟨server, ⟨server.lb.settings.backpressureTimeoutMs⟩⟩

def construct (order : HeaderOrder) (config : Option Config) : Attended := attend (Server.construct order config)

/-- What `initialize_from_config` does after it has made the manager leaves the time-out alone. -/
def initializeFromConfig (attended : Attended) (platform : Platform) (config : Configuration) : Option Attended :=
  (attended.server.initializeFromConfig platform config).map attend

/-- `apply_config` makes the manager once the settings have been copied, before the backends are reconciled. -/
def applyConfig (attended : Attended) (config : Configuration) : Attended where
  server := attended.server.applyConfig config
  backpressureManager :=
    (attend ((attended.server.applyHealth config).applySettings config)).backpressureManager

def undergo (attended : Attended) : Happening → Attended
  | .turn (.reload config) =>
      if attended.server.lb.running ∧ ¬attended.server.lb.draining then attended.applyConfig config else attended
  | happening => { attended with server := attended.server.undergo happening }

/-- The descriptors `check_timeout` calls its callback with. -/
def closes (attended : Attended) (starts : FiniteMap Fd Nat) (now : Nat) (fd : Fd) : List Fd :=
  attended.backpressureManager.checkTimeout starts now fd (fun closed fd => closed ++ [fd]) []

end Attended

/-- The manager of a balancer that has started from a file. -/
def Launch.attended (launch : Launch) : Attended := Attended.attend launch.server

end Balancer.Core
