import Balancer.Core.Backends
import Balancer.Net.Connection

/-! `ConnectionPool` and `ConnectionPoolManager`. The deque of a pool holds idle
connections only, since `borrow` takes an entry out. -/

namespace Balancer.Core
open Foundation Http Net

structure PoolConfig where
  minConnections : Nat := 0
  maxConnections : Nat := 10
  maxIdleTimeMs : Nat := 60000
  validateOnBorrow : Bool := true
  deriving DecidableEq, Repr

structure PooledConnection where
  connection : Connection
  lastUsed : Nat
  deriving DecidableEq

structure ConnectionPool where
  host : Bytes
  port : Nat
  connections : List PooledConnection := []
  activeCount : Nat := 0
  deriving DecidableEq

structure ConnectionPoolManager where
  config : PoolConfig
  pools : FiniteMap Bytes ConnectionPool

/-- The part of the process a pool operation works on. `overrun` records an
iterator that was advanced past the end of the deque. -/
structure PoolState where
  pool : ConnectionPool
  budget : MemoryBudget
  kernel : Kernel
  overrun : Bool := false

/-- `validate_connection`. -/
def validateConnection (kernel : Kernel) (conn : Connection) : Bool × Kernel :=
  if conn.isOpen ∧ conn.state = .established then kernel.peek conn.fd else (false, kernel)

/-- Close an idle connection and destroy it. -/
def closePooled (conn : Connection) (budget : MemoryBudget) (kernel : Kernel) : MemoryBudget × Kernel :=
  let closed := (Endpoint.mk conn budget kernel).close.close
  (closed.budget, closed.kernel)

/-- The scan of `borrow` from an iterator on: the entries it keeps, the first
valid one, and whether the iterator left the deque. Erasing an entry leaves the
iterator at the next one, and the loop then steps over that. -/
structure Scan where
  kept : List PooledConnection
  found : Option Connection
  overrun : Bool
  budget : MemoryBudget
  kernel : Kernel

def scanIdle (config : PoolConfig) (budget : MemoryBudget) (kernel : Kernel) :
    List PooledConnection → Scan
  | [] => ⟨[], none, false, budget, kernel⟩
  | entry :: rest =>
      let checked := if config.validateOnBorrow then validateConnection kernel entry.connection else (true, kernel)
      if checked.1 then ⟨rest, some entry.connection, false, budget, checked.2⟩
      else
        let closed := closePooled entry.connection budget checked.2
        match rest with
        | [] => ⟨[], none, true, closed.1, closed.2⟩
        | skipped :: later =>
            let scan := scanIdle config closed.1 closed.2 later
            { scan with kept := skipped :: scan.kept }

/-- `create_connection`: a blocking connect with a time limit. The answers are
those of `socket`, `getaddrinfo`, `connect`, `select` and `getsockopt`. -/
def createConnection (kernel : Kernel) : Option Connection × Kernel :=
  match kernel.ask with
  | (.ok fd, kernel) =>
    match kernel.openFd fd {} with
    | none => (none, kernel)
    | some opened =>
      match opened.ask with
      | (.ok _, kernel) =>
        match kernel.ask with
        | (.fail, kernel) => (none, kernel.close fd)
        | (_, kernel) =>
          match kernel.ask with
          | (.ok _, kernel) =>
            match kernel.ask with
            | (.ok 0, kernel) => (some { fd := fd }, kernel.setSocket fd { connected := true })
            | (_, kernel) => (none, kernel.close fd)
          | (_, kernel) => (none, kernel.close fd)
      | (_, kernel) => (none, kernel.close fd)
  | (_, kernel) => (none, kernel)

/-- `ConnectionPool::borrow`. The flag says whether the connection was idle before. -/
def ConnectionPool.borrow (config : PoolConfig) (state : PoolState) :
    Option (Connection × Bool) × PoolState :=
  let scan := scanIdle config state.budget state.kernel state.pool.connections
  let scanned : PoolState :=
    ⟨{ state.pool with connections := scan.kept }, scan.budget, scan.kernel, state.overrun || scan.overrun⟩
  let counted : ConnectionPool := { scanned.pool with activeCount := scanned.pool.activeCount + 1 }
  match scan.found with
  | some conn => (some (conn, true), { scanned with pool := counted })
  | none =>
    if scanned.pool.activeCount < config.maxConnections then
      match createConnection scanned.kernel with
      | (some conn, kernel) => (some (conn, false), { scanned with pool := counted, kernel := kernel })
      | (none, kernel) => (none, { scanned with kernel := kernel })
    else (none, scanned)

/-- `ConnectionPool::release`: an invalid connection is closed instead. The flag
says whether it was kept. -/
def ConnectionPool.release (conn : Connection) (now : Nat) (state : PoolState) : Bool × PoolState :=
  let pool := { state.pool with activeCount := state.pool.activeCount - 1 }
  match validateConnection state.kernel conn with
  | (true, kernel) =>
      (true, { state with
        pool := { pool with connections := pool.connections ++ [⟨conn, now⟩] }, kernel := kernel })
  | (false, kernel) =>
      let closed := closePooled conn state.budget kernel
      (false, { state with pool := pool, budget := closed.1, kernel := closed.2 })

/-- `duration_cast` to milliseconds of the time since a point of the clock, both in nanoseconds. -/
def elapsedMs (now start : Nat) : Int := ((now : Int) - start).tdiv 1000000

/-- The loop of `evict_expired`, with the number of idle entries left. The steady clock is never behind a `last_used`,
so that the conversion of the idle time to `size_t` keeps its value. -/
def evictLoop (config : PoolConfig) (now : Nat) (idle : Nat) (budget : MemoryBudget) (kernel : Kernel) :
    List PooledConnection → List PooledConnection × MemoryBudget × Kernel
  | [] => ([], budget, kernel)
  | entry :: rest =>
      if config.minConnections < idle ∧ (config.maxIdleTimeMs : Int) < elapsedMs now entry.lastUsed then
        let closed := closePooled entry.connection budget kernel
        evictLoop config now (idle - 1) closed.1 closed.2 rest
      else
        let later := evictLoop config now idle budget kernel rest
        (entry :: later.1, later.2)

def ConnectionPool.evictExpired (config : PoolConfig) (state : PoolState) : PoolState :=
  let idle := state.pool.connections
  let result := evictLoop config state.kernel.clock idle.length state.budget state.kernel idle
  { state with
    pool := { state.pool with connections := result.1 }, budget := result.2.1, kernel := result.2.2 }

end Balancer.Core
