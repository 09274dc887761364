import Balancer.Foundation.FiniteMap
import Balancer.Foundation.Doubles
import Balancer.Http.Text
import Balancer.Http.Parser
import Balancer.Http.HeaderLines
import Balancer.Http.Incremental
import Balancer.Http.Resubmission
import Balancer.Http.Serialize
import Balancer.Http.RoundTrip
import Balancer.Http.Handler
import Balancer.Net.Kernel
import Balancer.Net.Reactor
import Balancer.Net.Connection
import Balancer.Core.Backends
import Balancer.Core.ConnectionPool
import Balancer.Core.State
import Balancer.Core.ConnectionManager
import Balancer.Core.BackendConnector
import Balancer.Core.DataForwarder
import Balancer.Core.HttpForwarder
import Balancer.Core.EventHandlers
import Balancer.Core.LoadBalancer
import Balancer.Core.Admission
import Balancer.Core.Handling
import Balancer.Core.Attempts
import Balancer.Foundation.Run
import Balancer.Foundation.SlidingWindow
import Balancer.Registry.Ledger
import Balancer.Registry.Sound
import Balancer.Registry.Preservation
import Balancer.Refinement.View
import Balancer.Refinement.Bytes
import Balancer.Refinement.Closing
import Balancer.Refinement.Pools
import Balancer.Refinement.Connect
import Balancer.Refinement.Forwarding
import Balancer.Refinement.HttpForwarding
import Balancer.Refinement.Handlers
import Balancer.Refinement.Process
import Balancer.Guarantees.Registry
import Balancer.Guarantees.Counters
import Balancer.Guarantees.Budget
import Balancer.Http.Framing
import Balancer.Traffic.Rewriting
import Balancer.Guarantees.Rewriting
import Balancer.Traffic.Copying
import Balancer.Traffic.Forwarding
import Balancer.Guarantees.Progress
import Balancer.Guarantees.RateLimit
import Balancer.Core.Handling
import Balancer.Core.HealthChecker
import Balancer.Core.Configuration
import Balancer.Core.Server
import Balancer.Reload.Roster
import Balancer.Reload.Effective
import Balancer.Guarantees.Reconciliation
import Balancer.Guarantees.HotReload
import Balancer.Core.Threads
import Balancer.Guarantees.Draining
import Balancer.Traffic.Exchange
import Balancer.Guarantees.Injection
import Balancer.Guarantees.Delivery
import Balancer.Foundation.Trail
import Balancer.Operations.Books
import Balancer.Operations.Frames
import Balancer.Operations.Notes
import Balancer.Operations.Trace
import Balancer.Operations.Deeds
import Balancer.Operations.Forwarding
import Balancer.Operations.HttpForwarding
import Balancer.Operations.Connect
import Balancer.Operations.Handlers
import Balancer.Operations.Parting
import Balancer.Operations.Process
import Balancer.Operations.Arrivals
import Balancer.Operations.Connecting
import Balancer.Operations.Reload
import Balancer.Operations.Effects
import Balancer.Operations.Staff
import Balancer.Guarantees.Caps
import Balancer.Guarantees.Gauge
import Balancer.Guarantees.PoolAccounting
import Balancer.Guarantees.Lifetimes
import Balancer.Guarantees.Residue
import Balancer.Guarantees.InFlight
import Balancer.Foundation.Overlay
import Balancer.Core.ConfigManager
import Balancer.Guarantees.FreshLoad
import Balancer.Core.Watching
import Balancer.Guarantees.Watching
import Balancer.Core.HandOff
import Balancer.Guarantees.HandOff
import Balancer.Operations.Ambient
import Balancer.Core.Live
import Balancer.Core.Closing
import Balancer.Guarantees.Refusals
import Balancer.Foundation.Selection
import Balancer.Guarantees.Redispatch
import Balancer.Guarantees.Retries
import Balancer.Operations.Scene
import Balancer.Guarantees.Affinity
import Balancer.Operations.Lobby
import Balancer.Operations.Reception
import Balancer.Guarantees.Handshakes
import Balancer.Core.Forwards
import Balancer.Guarantees.Cookies
import Balancer.Net.Dispatch
import Balancer.Refinement.Descriptors
import Balancer.Guarantees.Dispatch
import Balancer.Foundation.Streak
import Balancer.Guarantees.Health
import Balancer.Foundation.Rotation
import Balancer.Guarantees.Rotation
import Balancer.Guarantees.Selection
import Balancer.Core.ThreadPool
import Balancer.Guarantees.ThreadPool
import Balancer.Core.BudgetThreads
import Balancer.Guarantees.Reservations
import Balancer.Foundation.Texts
import Balancer.Http.RequestText
import Balancer.Http.RequestRoundTrip
import Balancer.Guarantees.Resumption
import Balancer.Foundation.Tally
import Balancer.Operations.Metering
import Balancer.Guarantees.Backpressure
import Balancer.Core.HealthProbe
import Balancer.Guarantees.Borrowing
import Balancer.Guarantees.HeaderRules
import Balancer.Guarantees.HealthProbe
import Balancer.Guarantees.ResponseHeaders
import Balancer.Guarantees.Spoofing
import Balancer.Http.NameVariants
import Balancer.Http.HeaderText
import Balancer.Http.CookieText
import Balancer.Http.LetterCase
import Balancer.Operations.Calls
import Balancer.Guarantees.Malformed
import Balancer.Guarantees.RepeatedRewriting
import Balancer.Guarantees.RefusedRewriting
import Balancer.Guarantees.PairClosing
import Balancer.Foundation.Culling
import Balancer.Guarantees.Eviction
import Balancer.Core.SpliceForwarder
import Balancer.Guarantees.PipeAccounting
import Balancer.Core.LatencyHistogram
import Balancer.Guarantees.LatencyHistogram
import Balancer.Http.HttpResponse
import Balancer.Guarantees.ErrorResponses
import Balancer.Core.BackpressureManager
import Balancer.Guarantees.BackpressureTimeouts
import Balancer.Operations.Backdrop
import Balancer.Operations.Queue
import Balancer.Guarantees.Queueing
import Balancer.Guarantees.Streams
import Balancer.Guarantees.Stranding
import Balancer.Registry.Sockets
import Balancer.Guarantees.Quiescence
import Balancer.Operations.Surroundings
import Balancer.Foundation.Tickets
import Balancer.Core.Entries
import Balancer.Operations.Entries
import Balancer.Guarantees.Fates
import Balancer.Foundation.Conveyor
import Balancer.Registry.Holdings
import Balancer.Operations.Serving
import Balancer.Guarantees.Descriptors
import Balancer.Guarantees.Shutdown
import Balancer.Guarantees.Tasks
import Balancer.Core.LogQueue
import Balancer.Guarantees.Logging
import Balancer.Guarantees.LogService
import Balancer.Guarantees.Memory
import Balancer.Guarantees.Sessions
import Balancer.Guarantees.Routing
import Balancer.Http.TextFormat
import Balancer.Core.Exposition
import Balancer.Guarantees.Scraping
import Balancer.Core.MetricsServer
import Balancer.Guarantees.MetricsServer
import Balancer.Guarantees.Tenure
import Balancer.Guarantees.Deadlines
import Balancer.Guarantees.GracefulShutdown
