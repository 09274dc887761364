import Balancer.Operations.Process
import Balancer.Reload.Effective

/-! The runs of a server. A turn is an input or a reload, and a reload is a list of deeds after
it has put its settings into effect. -/

namespace Balancer.Operations
open Foundation Http Net Core Registry Ledger Refinement Reload

inductive Labour where
  | deed (deed : Deed)
  /-- What a reload does before it comes to the backends. -/
  | adjust
  deriving DecidableEq

/-- The hosts and ports of a list of backends. -/
def namesOf (backends : List BackendConfig) : List (Bytes × Nat) := backends.map fun backend => (backend.host, backend.port)

/-- A deed of a reload that lists these names: no backend of another name is drained. -/
structure Reconciles (names : List (Bytes × Nat)) (deed : Deed) : Prop where
  kind : deed.reconciles = true
  drains : ∀ id name, deed = .mark id name .draining → name ∉ names

section Backends
variable (server : Server)

theorem lb_cleanupBackend (id : NodeId) : (server.cleanupBackend id).lb = server.lb.cleanupBackend id := by
  unfold Server.cleanupBackend
  cases found : server.lb.nodes.find id with
  | none =>
    unfold LoadBalancer.cleanupBackend
    rw [found]
  | some node =>
    by_cases drained : node.state = .draining ∧ node.activeConnections = 0
    · simp only [if_pos drained]
    · unfold LoadBalancer.cleanupBackend
      simp only [found, if_neg drained]

/-- The clean-up of a server is that of its balancer. -/
theorem lb_cleanupDrainedBackends : server.cleanupDrainedBackends.lb = server.lb.cleanupDrainedBackends := by
  have folds (ids : List NodeId) :
      (ids.foldl Server.cleanupBackend server).lb = ids.foldl LoadBalancer.cleanupBackend server.lb := by
    induction ids generalizing server with
    | nil => rfl
    | cons id ids ih =>
      rw [List.foldl_cons, List.foldl_cons, ih, lb_cleanupBackend]
  exact folds _

variable {allowed : Deed → Prop}

theorem addBackend_enacts (adds : allowed .addBackend) (host : Bytes) (port weight : Nat) :
    Enacts allowed (.atRest server.lb) (.atRest (server.addBackend host port weight).lb) := by
  unfold Server.addBackend
  split
  · exact .refl _
  · exact .one adds (.of_reaches (addBackend_reaches server.lb 0 0 server.freshNode host port weight)) fun _ =>
      .addBackend server.freshNode host port weight

theorem markUnlisted_enacts (keys : List (Bytes × Nat)) (id : NodeId)
    (drains : ∀ id name, name ∉ keys → allowed (.mark id name .draining)) :
    Enacts allowed (.atRest server.lb) (.atRest (Server.markUnlisted keys server id).lb) := by
  unfold Server.markUnlisted
  cases found : server.lb.nodes.find id with
  | none => exact .refl _
  | some node =>
    dsimp only
    split
    case isTrue unlisted =>
      refine mark_enacts server.lb 0 id .draining fun other live => ?_
      cases found.symm.trans live
      exact drains id _ unlisted.1
    case isFalse => exact .refl _

theorem restoreListed_enacts (restores : ∀ id name, allowed (.mark id name .healthy)) (adds : allowed .addBackend)
    (backend : BackendConfig) : Enacts allowed (.atRest server.lb) (.atRest (Server.restoreListed server backend).lb) := by
  unfold Server.restoreListed
  split
  · exact addBackend_enacts server adds backend.host backend.port backend.weight
  · split
    · exact mark_enacts server.lb 0 _ .healthy fun _ _ => restores _ _
    · exact .refl _

/-- A loop whose rounds are deeds. -/
theorem rounds_enact {α : Type} (body : Server → α → Server) (items : List α)
    (each : ∀ server item, Enacts allowed (.atRest server.lb) (.atRest (body server item).lb)) :
    Enacts allowed (.atRest server.lb) (.atRest (items.foldl body server).lb) :=
  @run_related _ _ _ (fun before after : Server => Enacts allowed (.atRest before.lb) (.atRest after.lb)) (fun _ => .refl _)
    .trans each server items

theorem reconciles_clean (names : List (Bytes × Nat)) (id : NodeId) : Reconciles names (.clean id) :=
  ⟨rfl, fun _ _ marks => by cases marks⟩

/-- The backends of a reload, up to the clean-up. -/
theorem relisted_enacts (backends : List BackendConfig)
    (kinds : ∀ deed, Reconciles (namesOf backends) deed → (∀ id, deed ≠ .clean id) → allowed deed) :
    Enacts allowed (.atRest server.lb) (.atRest (backends.foldl Server.restoreListed (server.lb.backendPool.backends.foldl
      (Server.markUnlisted (namesOf backends)) server)).lb) := by
  have drains (id : NodeId) (name : Bytes × Nat) (unlisted : name ∉ namesOf backends) : allowed (.mark id name .draining) := by
    refine kinds _ ⟨rfl, fun _ _ marks => ?_⟩ fun _ cleans => by cases cleans
    cases marks
    exact unlisted
  have restores (id : NodeId) (name : Bytes × Nat) : allowed (.mark id name .healthy) :=
    kinds _ ⟨rfl, fun _ _ marks => by cases marks⟩ fun _ cleans => by cases cleans
  have adds : allowed .addBackend := kinds _ ⟨rfl, fun _ _ marks => by cases marks⟩ fun _ cleans => by cases cleans
  exact (rounds_enact server _ _ fun server id => markUnlisted_enacts server _ id drains).trans
    (rounds_enact _ _ backends fun server backend => restoreListed_enacts server restores adds backend)

theorem reconcile_enacts (backends : List BackendConfig) :
    Enacts (Reconciles (namesOf backends)) (.atRest server.lb) (.atRest (server.reconcile backends).lb) := by
  have relists := @relisted_enacts server (Reconciles (namesOf backends)) backends fun _ kind _ => kind
  unfold Server.reconcile
  dsimp only
  rw [lb_cleanupDrainedBackends]
  exact relists.trans (cleanupDrainedBackends_enacts _ 0 (reconciles_clean _))

end Backends

section Preparation
variable (server : Server) (config : Configuration)

theorem applyHealth_lb : (server.applyHealth config).lb = server.lb := by
  unfold Server.applyHealth
  split
  · split <;> rfl
  · rfl

/-- Of the balancer itself, a reload sets the settings, the algorithm and the limit. -/
theorem lb_prepared : ∃ settings algorithm, (prepared server config).lb = { server.lb with
    settings := settings
    backendPool := { server.lb.backendPool with algorithm := algorithm }
    budget := { server.lb.budget with limit := config.memoryLimit } } := by
  unfold prepared
  rw [applyHttp_eq, ← applyHealth_lb server config]
  exact ⟨_, _, rfl⟩

theorem prepared_sound {hand : Multiset Connection} {raw : Multiset Fd} (sound : Sound (view server.lb hand raw)) :
    Sound (view (prepared server config).lb hand raw) := by
  obtain ⟨settings, algorithm, same⟩ := lb_prepared server config
  rw [same]
  exact ⟨sound.owned, sound.tables, sound.held, sound.resting, sound.parsed, sound.watched⟩

end Preparation

section Runs

theorem turn_sound {server : Server} (sound : Sound (registry server.lb)) (turn : Turn) :
    Sound (registry (server.turn turn).lb) := by
  cases turn with
  | process input => exact step_sound server.lb input sound
  | reload config =>
    unfold Server.turn
    dsimp only
    split
    · exact (reconcile_enacts (prepared server config) config.backends).sound (prepared_sound server config sound)
    · exact sound

theorem run_sound {start : Server} (sound : Sound (registry start.lb)) (turns : List Turn) :
    Sound (registry (run Server.turn start turns).lb) :=
  @run_invariant Server Turn Server.turn (fun server => Sound (registry server.lb)) start sound
    (fun _ turn sound => turn_sound sound turn) turns

end Runs

end Balancer.Operations
