import Balancer.Core.Attempts
import Balancer.Core.Server

/-! The configuration that is live while the balancer runs. The manager replaces its snapshot
whenever it loads a file, before `apply_config` has seen it, and the code that accepts and
queues clients reads the snapshot. -/

namespace Balancer.Core
open Foundation Http Net

/-- What the accept and queue code reads of a snapshot. -/
def Configuration.live (config : Configuration) : Config where
  mode := if config.mode = ascii "http" then .http else .tcp
  ipWhitelist := config.ipWhitelist
  ipBlacklist := config.ipBlacklist
  rateLimitEnabled := config.rateLimitEnabled
  rateLimitMaxConnections := config.rateLimitMaxConnections
  rateLimitWindowSeconds := config.rateLimitWindowSeconds
  queueEnabled := config.queueEnabled
  queueMaxSize := config.queueMaxSize
  queueMaxWaitMs := config.queueMaxWaitMs
  stickySessionsEnabled := config.stickySessionsEnabled
  stickySessionsMethod := if config.stickySessionsMethod = ascii "ip" then .ip else .cookie

/-- What happens to a running balancer whose manager loads configurations. -/
inductive Happening where
  | turn (turn : Turn)
  | load (config : Configuration)

def Server.undergo (server : Server) : Happening → Server
  | .turn turn => server.turn turn
  | .load config => { server with lb := { server.lb with config := some config.live } }

/-- A balancer that has started from a file. -/
structure Launch where
  order : HeaderOrder
  platform : Platform
  config : Configuration
  server : Server
  started : (Server.construct order (some config.live)).initializeFromConfig platform config = some server

namespace LoadBalancer

/-- Whether and how `handle_accept` turns the client away. -/
def refused (lb : LoadBalancer) (fd : Fd) (clientIp : Bytes) : Option Refusal :=
  match lb.decision fd clientIp with
  | .refuse _ refusal => some refusal
  | _ => none

end LoadBalancer

/-- The clients that are turned away. -/
def Handling.refusals : Handling → List Refusal
  | .accept lb fd clientIp => (lb.refused fd clientIp).toList
  | .serveQueue lb => lb.overdueClients.map Prod.snd
  | _ => []

/-- The clients that are turned away meanwhile. -/
def Server.refusals (server : Server) : Happening → List Refusal
  | .turn (.process input) => (server.lb.stepHandling input).refusals
  | _ => []

end Balancer.Core
