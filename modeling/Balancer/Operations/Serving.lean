import Balancer.Core.Live
import Balancer.Operations.Reload

/-! What every act keeps, over the runs of a server that has started from a file. Between its steps a file may be loaded,
and applied. -/

namespace Balancer.Operations
open Foundation Http Net Core Registry Ledger Refinement Reload

theorem trail_lawful {first second : Work} {moments : List (Work × Deed)} (trail : Trail Achieves first moments second)
    {holds : Ledger → Prop} (lawful : Lawful holds) (begins : holds first.view) : holds second.view := by
  induction trail with
  | nil => exact begins
  | cons achieves _ ih => exact ih (achieves.lawful lawful begins)

theorem Enacts.lawful {allowed : Deed → Prop} {first second : Work} (path : Enacts allowed first second)
    {holds : Ledger → Prop} (lawful : Lawful holds) (sound : Sound first.view) (begins : holds first.view) :
    holds second.view := by
  obtain ⟨_, trail, _⟩ := path sound
  exact trail_lawful trail lawful begins

/-- What the acts and the network keep, and a new limit of the budget. -/
structure Steady (holds : Ledger → Prop) : Prop extends Lawful holds where
  limit : ∀ {ledger} limit, holds ledger → holds { ledger with budget := { ledger.budget with limit := limit } }

section Steps
variable (server : Server)

/-- A reload changes the limit before it comes to the backends. -/
theorem view_prepared (config : Configuration) (hand : Multiset Connection) (raw : Multiset Fd) :
    view (prepared server config).lb hand raw = { view server.lb hand raw with
      budget := { server.lb.budget with limit := config.memoryLimit } } := by
  unfold prepared
  rw [applyHttp_eq, ← applyHealth_lb server config]
  rfl

theorem undergo_steady {holds : Ledger → Prop} (steady : Steady holds) (happening : Happening)
    (sound : Sound (registry server.lb)) (begins : holds (registry server.lb)) :
    holds (registry (server.undergo happening).lb) := by
  cases happening with
  | load config => exact begins
  | turn turn =>
    cases turn with
    | process input => exact step_lawful server.lb input steady.toLawful sound begins
    | reload config =>
      unfold Server.undergo Server.turn
      dsimp only
      split
      · have adjusted : holds (view (prepared server config).lb 0 0) :=
          view_prepared server config 0 0 ▸ steady.limit config.memoryLimit begins
        exact (reconcile_enacts (prepared server config) config.backends).lawful steady.toLawful
          (prepared_sound server config sound) adjusted
      · exact begins

theorem undergo_sound (happening : Happening) (sound : Sound (registry server.lb)) :
    Sound (registry (server.undergo happening).lb) := by
  cases happening with
  | load config => exact sound
  | turn turn => exact turn_sound sound turn

end Steps

section Runs
variable (launch : Launch)

/-- Of what an initial state has, a start sets the mode, the limit and the counters of the backends. -/
theorem registry_launched : ∃ http splice limit loads, registry launch.server.lb =
    { registry (Server.construct launch.order (some launch.config.live)).lb with
      http := http
      splice := splice
      budget := { used := 0, limit := limit }
      loads := loads } := by
  refine ⟨(registry launch.server.lb).http, (registry launch.server.lb).splice, (registry launch.server.lb).budget.limit,
    (registry launch.server.lb).loads, ?_⟩
  obtain ⟨_, ⟨_, _, _, _, _, rfl⟩, result⟩ := initialized_redrawn launch.started
  rw [result]
  unfold registry view completed
  dsimp only
  cases launch.config.connectionPoolEnabled with
  | false => rfl
  | true =>
    simp only [reduceIte, Option.map_some, Option.getD_some, idleOf, FiniteMap.total_empty]
    rfl

theorem launched_sound : Sound (registry launch.server.lb) := by
  have constructed := initial_sound ⟨{ mode := .tcp }, some launch.config.live, none, .roundRobin, 512 * 1024 * 1024,
    launch.order⟩
  obtain ⟨http, splice, limit, loads, same⟩ := registry_launched launch
  rw [same]
  exact ⟨constructed.owned, constructed.tables, constructed.held, constructed.resting, constructed.parsed,
    constructed.watched⟩

theorem serving_sound (happenings : List Happening) : Sound (registry (run Server.undergo launch.server happenings).lb) :=
  @run_invariant _ _ Server.undergo (fun server => Sound (registry server.lb)) _ (launched_sound launch)
    (fun server happening sound => undergo_sound server happening sound) happenings

/-- The rule for runs of a server. -/
theorem serving_steady {holds : Ledger → Prop} (steady : Steady holds) (begins : holds (registry launch.server.lb))
    (happenings : List Happening) : holds (registry (run Server.undergo launch.server happenings).lb) := by
  have both : Sound (registry (run Server.undergo launch.server happenings).lb) ∧
      holds (registry (run Server.undergo launch.server happenings).lb) :=
    @run_invariant _ _ Server.undergo (fun server => Sound (registry server.lb) ∧ holds (registry server.lb)) _
      ⟨launched_sound launch, begins⟩
      (fun server happening there =>
        ⟨undergo_sound server happening there.1, undergo_steady server steady happening there.1 there.2⟩) happenings
  exact both.2

end Runs

end Balancer.Operations
