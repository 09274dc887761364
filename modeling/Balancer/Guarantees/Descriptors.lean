import Balancer.Operations.Serving
import Balancer.Registry.Holdings

/-! The descriptors of a balancer that serves. Each that is open is held in one place, and the reactor watches the table of
connections and dispatches to what each of them is there for. -/

namespace Balancer.Guarantees
open Foundation Http Net Core Registry Ledger Refinement Operations

namespace Descriptors

/-- What the balancer holds: the connections of the table, those at rest in the pools, the clients that wait, and both ends
of the pipes. -/
def holdings (lb : LoadBalancer) : Multiset Fd :=
  lb.connections.keys.val + ((lb.poolManager.map fun manager => idleOf manager.pools).getD 0).map Connection.fd +
    lb.pendingClients.map QueuedClient.fd + pipeEnds lb.pipes

/-- At rest nothing is in hand. -/
theorem owners_registry (lb : LoadBalancer) : (registry lb).owners = holdings lb := by
  simp only [owners, registry, view, holdings, zero_add, Multiset.map_zero, add_zero]

theorem tight_steady : Steady Tight where
  acts act sound tight := sound.tight_act act tight
  network found _ tight := (card_insert_of_find _ _ found).trans tight
  limit _ tight := tight

theorem launched_tight (launch : Launch) : (registry launch.server.lb).Tight := by
  obtain ⟨http, splice, limit, loads, same⟩ := registry_launched launch
  rw [same]
  rfl

/-- In every run the descriptors that are open are what the balancer holds, each in one place: none is left open when what it
belongs to is gone, and none is used that is closed. -/
theorem holdings_exact (launch : Launch) (happenings : List Happening) :
    holdings (run Server.undergo launch.server happenings).lb =
      (run Server.undergo launch.server happenings).lb.kernel.sockets.keys.val := by
  rw [← owners_registry]
  exact (serving_sound launch happenings).owners_eq
    (serving_steady launch tight_steady (launched_tight launch) happenings)

end Descriptors

namespace Dispatching

/-- What the events of a connection are for: a backend has its entry, and what has no accounting sends an error. -/
def role (lb : LoadBalancer) (fd : Fd) (conn : Connection) : Callback :=
  if (lb.backendConnections.find fd).isSome then .backend
  else if conn.accounted then .client
  else .errorResponse

/-- The reactor watches the connections of the table and no other descriptor, each for what it is there for. -/
structure Faithful (lb : LoadBalancer) : Prop where
  watched : lb.reactor.interest.keys = lb.connections.keys
  called : ∀ fd conn, lb.connections.find fd = some conn → lb.reactor.callbacks.find fd = some (role lb fd conn)

theorem marked_steady : Steady Marked where
  acts act sound marked := sound.marked_act act marked
  network _ _ marked := marked
  limit _ marked := marked

theorem launched_marked (launch : Launch) : (registry launch.server.lb).Marked := by
  obtain ⟨http, splice, limit, loads, same⟩ := registry_launched launch
  rw [same]
  intro fd conn found
  cases found

theorem Faithful.of_sound {lb : LoadBalancer} (sound : Sound (registry lb)) (marked : (registry lb).Marked) :
    Faithful lb where
  watched := by
    ext fd
    refine ⟨fun member => ?_, fun member => ?_⟩
    · rcases sound.watched.armed fd member with known | ⟨conn, held, _⟩
      · exact (lb.connections.mem_keys fd).mpr known
      · exact absurd held (Multiset.notMem_zero conn)
    · obtain ⟨conn, found⟩ := FiniteMap.find_of_mem_keys member
      exact (sound.watched.registered fd conn found).1
  called := by
    intro fd conn found
    obtain ⟨_, callback, known, kind, error⟩ := sound.watched.registered fd conn found
    change lb.reactor.callbacks.find fd = some callback at known
    rw [known]
    unfold role
    by_cases backend : (lb.backendConnections.find fd).isSome = true
    · rw [if_pos backend, kind.mpr backend]
    · rw [if_neg backend]
      by_cases accounted : conn.accounted = true
      · rw [if_pos accounted]
        cases callback with
        | client => rfl
        | backend => exact absurd (kind.mp rfl) backend
        | errorResponse => exact absurd rfl (error accounted)
      · rw [if_neg accounted, ← known]
        exact marked fd conn found (by simpa using accounted)

/-- In every run the reactor is faithful to the tables. -/
theorem reactor_faithful (launch : Launch) (happenings : List Happening) :
    Faithful (run Server.undergo launch.server happenings).lb :=
  .of_sound (serving_sound launch happenings)
    (serving_steady launch marked_steady (launched_marked launch) happenings)

end Dispatching

end Balancer.Guarantees
