import Balancer.Core.Server
import Balancer.Foundation.Run

/-! The backends of a server as a map from host and port to nodes, and what each
operation on the backends does to it. -/

namespace Balancer.Reload
open Core Foundation Http

/-- Host and port. -/
def key (node : BackendNode) : Bytes × Nat := (node.host, node.port)

/-- A node in the pool. -/
def Member (server : Server) (id : NodeId) (node : BackendNode) : Prop :=
  id ∈ server.lb.backendPool.backends ∧ server.lb.nodes.find id = some node

/-- Each key has one node in the pool, and the checker probes the nodes of the pool. -/
structure Reconciled (server : Server) : Prop where
  found : ∀ id ∈ server.lb.backendPool.backends, ∃ node, server.lb.nodes.find id = some node
  nodup : server.lb.backendPool.backends.Nodup
  distinct : ∀ first second node other, Member server first node → Member server second other →
    key node = key other → first = second
  checked : server.healthChecker.backends = server.lb.backendPool.backends

/-- The node in the pool under a host and port. -/
def entry (server : Server) (name : Bytes × Nat) : Option (NodeId × BackendNode) :=
  server.lb.backendPool.findBackend server.lb.nodes name.1 name.2

variable {server after : Server}

theorem mem_members {id : NodeId} {node : BackendNode} :
    (id, node) ∈ server.lb.backendPool.members server.lb.nodes ↔ Member server id node := by
  unfold BackendPool.members Member
  rw [List.mem_filterMap]
  constructor
  · rintro ⟨other, listed, this⟩
    obtain ⟨stored, found, same⟩ := Option.map_eq_some_iff.mp this
    simp only [Prod.mk.injEq] at same
    rw [← same.1, ← same.2]
    exact ⟨listed, found⟩
  · rintro ⟨listed, found⟩
    exact ⟨id, listed, by rw [found, Option.map_some]⟩

theorem entry_member {name : Bytes × Nat} {id : NodeId} {node : BackendNode} (found : entry server name = some (id, node)) :
    Member server id node ∧ key node = name := by
  have listed := List.mem_of_find?_eq_some found
  have named := List.find?_some found
  simp only [Bool.and_eq_true, beq_iff_eq] at named
  exact ⟨mem_members.mp listed, Prod.ext named.1 named.2⟩

theorem entry_pair {name : Bytes × Nat} {pair : NodeId × BackendNode} (found : entry server name = some pair) :
    Member server pair.1 pair.2 ∧ key pair.2 = name :=
  entry_member found

theorem entry_eq_none {name : Bytes × Nat} :
    entry server name = none ↔ ∀ id node, Member server id node → key node ≠ name := by
  unfold entry BackendPool.findBackend
  rw [List.find?_eq_none]
  constructor
  · intro absent id node member same
    apply absent (id, node) (mem_members.mpr member)
    simp [← same, key]
  · intro absent pair listed named
    simp only [Bool.and_eq_true, beq_iff_eq] at named
    exact absent pair.1 pair.2 (mem_members.mp listed) (Prod.ext named.1 named.2)

namespace Reconciled

theorem entry_eq_some (reconciled : Reconciled server) {name : Bytes × Nat} {id : NodeId} {node : BackendNode} :
    entry server name = some (id, node) ↔ Member server id node ∧ key node = name := by
  constructor
  · exact entry_member
  · rintro ⟨member, named⟩
    cases found : entry server name with
    | none => exact absurd named (entry_eq_none.mp found id node member)
    | some pair =>
      obtain ⟨other, same⟩ := entry_pair found
      have one := reconciled.distinct _ _ _ _ other member (same.trans named.symm)
      have stored : some pair.2 = some node := by rw [← other.2, ← member.2, one]
      rw [Option.some.injEq]
      exact Prod.ext one (Option.some.inj stored)

theorem entry_eq_pair (reconciled : Reconciled server) {name : Bytes × Nat} {pair : NodeId × BackendNode} :
    entry server name = some pair ↔ Member server pair.1 pair.2 ∧ key pair.2 = name :=
  reconciled.entry_eq_some

/-- The keys of the pool are pairwise distinct. -/
theorem keys_nodup (reconciled : Reconciled server) :
    ((server.lb.backendPool.members server.lb.nodes).map fun pair => key pair.2).Nodup := by
  have identities : (server.lb.backendPool.members server.lb.nodes).map Prod.fst = server.lb.backendPool.backends := by
    unfold BackendPool.members
    have found := reconciled.found
    generalize server.lb.backendPool.backends = ids at found
    induction ids with
    | nil => rfl
    | cons id ids ih =>
      obtain ⟨node, stored⟩ := found id List.mem_cons_self
      rw [List.filterMap_cons, stored]
      exact congrArg (id :: ·) (ih fun other listed => found other (List.mem_cons_of_mem _ listed))
  have pairs : (server.lb.backendPool.members server.lb.nodes).Nodup := by
    apply List.Nodup.of_map Prod.fst
    rw [identities]
    exact reconciled.nodup
  apply pairs.map_on
  intro first listed second listedToo same
  have one := reconciled.distinct _ _ _ _ (mem_members.mp listed) (mem_members.mp listedToo) same
  have stored := (mem_members.mp listed).2
  rw [one, (mem_members.mp listedToo).2] at stored
  exact Prod.ext one (Option.some.inj stored).symm

/-- A change of nodes that keeps their keys keeps the roster in order. -/
theorem rename (reconciled : Reconciled server)
    (same : after.lb.backendPool.backends = server.lb.backendPool.backends)
    (checker : after.healthChecker.backends = server.healthChecker.backends)
    (keys : ∀ id, (after.lb.nodes.find id).map key = (server.lb.nodes.find id).map key) : Reconciled after := by
  have earlier {id : NodeId} {node : BackendNode} (member : Member after id node) :
      ∃ old, Member server id old ∧ key old = key node := by
    have renamed := keys id
    rw [member.2, Option.map_some] at renamed
    obtain ⟨old, found, named⟩ := Option.map_eq_some_iff.mp renamed.symm
    exact ⟨old, ⟨same ▸ member.1, found⟩, named⟩
  constructor
  · intro id listed
    obtain ⟨node, found⟩ := reconciled.found id (same ▸ listed)
    have renamed := keys id
    rw [found, Option.map_some] at renamed
    obtain ⟨new, stored, _⟩ := Option.map_eq_some_iff.mp renamed
    exact ⟨new, stored⟩
  · rw [same]
    exact reconciled.nodup
  · intro first second node other member memberToo named
    obtain ⟨old, stored, was⟩ := earlier member
    obtain ⟨oldToo, storedToo, wasToo⟩ := earlier memberToo
    exact reconciled.distinct _ _ _ _ stored storedToo (was.trans (named.trans wasToo.symm))
  · rw [checker, same]
    exact reconciled.checked

end Reconciled

/-- Change a node of the server's heap. -/
def changeNode (server : Server) (id : NodeId) (change : BackendNode → BackendNode) : Server :=
  { server with lb := server.lb.changeNode id change }

theorem find_changeNode (lb : LoadBalancer) (id other : NodeId) (change : BackendNode → BackendNode) :
    (lb.changeNode id change).nodes.find other =
      if other = id then (lb.nodes.find other).map change else lb.nodes.find other := by
  unfold LoadBalancer.changeNode
  cases found : lb.nodes.find id with
  | none =>
    by_cases same : other = id
    · rw [if_pos same, same, found, Option.map_none]
    · rw [if_neg same]
  | some node =>
    by_cases same : other = id
    · simp [same, found]
    · simp [same]

@[simp] theorem backendPool_changeNode (lb : LoadBalancer) (id : NodeId) (change : BackendNode → BackendNode) :
    (lb.changeNode id change).backendPool = lb.backendPool := by
  unfold LoadBalancer.changeNode
  split <;> rfl

theorem changeNode_of_find {lb : LoadBalancer} {id : NodeId} {node : BackendNode} {change : BackendNode → BackendNode}
    (found : lb.nodes.find id = some node) (same : change node = node) : lb.changeNode id change = lb := by
  unfold LoadBalancer.changeNode
  rw [found]
  simp only [same, FiniteMap.insert_of_find _ found]

namespace Reconciled

theorem changeNode (reconciled : Reconciled server) (id : NodeId) {change : BackendNode → BackendNode}
    (keeps : ∀ node, key (change node) = key node) : Reconciled (Reload.changeNode server id change) := by
  apply reconciled.rename
  · simp [Reload.changeNode]
  · rfl
  · intro other
    simp only [Reload.changeNode, find_changeNode]
    split
    · rw [Option.map_map]
      exact congrArg (fun f => Option.map f _) (funext keeps)
    · rfl

theorem entry_changeNode (reconciled : Reconciled server) (id : NodeId) {change : BackendNode → BackendNode}
    (keeps : ∀ node, key (change node) = key node) (name : Bytes × Nat) :
    entry (Reload.changeNode server id change) name =
      (entry server name).map fun pair => if pair.1 = id then (pair.1, change pair.2) else pair := by
  have changed := reconciled.changeNode id keeps
  cases found : entry server name with
  | none =>
    rw [entry_eq_none] at found
    rw [Option.map_none, entry_eq_none]
    intro other node member named
    have stored := member.2
    simp only [Reload.changeNode, find_changeNode] at stored
    have listed : other ∈ server.lb.backendPool.backends := by
      simpa [Reload.changeNode] using member.1
    by_cases same : other = id
    · rw [if_pos same] at stored
      obtain ⟨old, was, this⟩ := Option.map_eq_some_iff.mp stored
      exact found other old ⟨listed, was⟩ (by rw [← keeps old, this, named])
    · rw [if_neg same] at stored
      exact found other node ⟨listed, stored⟩ named
  | some pair =>
    obtain ⟨member, named⟩ := entry_pair found
    have listed : pair.1 ∈ (Reload.changeNode server id change).lb.backendPool.backends := by
      simpa [Reload.changeNode] using member.1
    rw [Option.map_some]
    by_cases same : pair.1 = id
    · rw [if_pos same, changed.entry_eq_some]
      refine ⟨⟨listed, ?_⟩, (keeps _).trans named⟩
      simp only [Reload.changeNode, find_changeNode]
      rw [if_pos same, member.2, Option.map_some]
    · rw [if_neg same, changed.entry_eq_pair]
      refine ⟨⟨listed, ?_⟩, named⟩
      simp only [Reload.changeNode, find_changeNode]
      rw [if_neg same, member.2]

end Reconciled

theorem freshNode_notMem (server : Server) : server.freshNode ∉ server.usedNodes := by
  intro used
  have bound : server.freshNode ≤ server.usedNodes.sup id := Finset.le_sup (f := id) used
  exact Nat.not_succ_le_self _ bound

/-- Nothing refers to a fresh node. -/
theorem freshNode_fresh (server : Server) : server.lb.nodes.find server.freshNode = none ∧
    ∀ fd ∈ server.lb.backendConnections.keys, server.lb.backendConnections.find fd ≠ some server.freshNode := by
  have unused := freshNode_notMem server
  simp only [Server.usedNodes, Finset.mem_union, Finset.mem_image, not_or] at unused
  refine ⟨FiniteMap.find_eq_none.mpr unused.1.1.1, ?_⟩
  intro fd listed refers
  apply unused.1.1.2
  exact ⟨fd, listed, by rw [refers, Option.getD_some]⟩

/-- The server with one more backend. -/
theorem addBackend_eq {host : Bytes} {port : Nat} (weight : Nat) (absent : entry server (host, port) = none) :
    server.addBackend host port weight = { server with
      lb := { server.lb with
        nodes := server.lb.nodes.insert server.freshNode (.create host port weight)
        backendPool := { server.lb.backendPool with
          backends := server.lb.backendPool.backends ++ [server.freshNode] } }
      healthChecker := server.healthChecker.addBackend server.freshNode } := by
  have missing : server.lb.backendPool.findBackend server.lb.nodes host port = none := absent
  unfold Server.addBackend LoadBalancer.addBackend
  simp only [missing]
  rw [if_pos (freshNode_fresh server)]

theorem addBackend_of_entry {host : Bytes} {port : Nat} {pair : NodeId × BackendNode} (weight : Nat)
    (found : entry server (host, port) = some pair) : server.addBackend host port weight = server := by
  have present : server.lb.backendPool.findBackend server.lb.nodes host port = some pair := found
  unfold Server.addBackend
  rw [present]

/-- The members after a backend was added. -/
theorem member_addBackend {host : Bytes} {port weight : Nat} (reconciled : Reconciled server)
    (absent : entry server (host, port) = none) {id : NodeId} {node : BackendNode} :
    Member (server.addBackend host port weight) id node ↔
      Member server id node ∨ id = server.freshNode ∧ node = .create host port weight := by
  rw [addBackend_eq weight absent]
  have fresh := (freshNode_fresh server).1
  unfold Member
  simp only [List.mem_append, List.mem_singleton, FiniteMap.find_insert]
  by_cases same : id = server.freshNode
  · rw [if_pos same]
    have unlisted : server.freshNode ∉ server.lb.backendPool.backends := by
      intro listed
      obtain ⟨node, found⟩ := reconciled.found _ listed
      simp [fresh] at found
    simp [same, unlisted, eq_comm]
  · simp [same]

namespace Reconciled

theorem addBackend (reconciled : Reconciled server) (host : Bytes) (port weight : Nat) :
    Reconciled (server.addBackend host port weight) := by
  cases present : entry server (host, port) with
  | some pair =>
    rw [addBackend_of_entry weight present]
    exact reconciled
  | none =>
    have fresh := (freshNode_fresh server).1
    have unlisted : server.freshNode ∉ server.lb.backendPool.backends := by
      intro listed
      obtain ⟨node, found⟩ := reconciled.found _ listed
      simp [fresh] at found
    have absent := entry_eq_none.mp present
    constructor
    · intro id listed
      rw [addBackend_eq weight present] at listed ⊢
      simp only [List.mem_append, List.mem_singleton, FiniteMap.find_insert] at listed ⊢
      split
      · exact ⟨_, rfl⟩
      next different => exact reconciled.found id (listed.resolve_right different)
    · rw [addBackend_eq weight present]
      apply List.nodup_append.mpr
      refine ⟨reconciled.nodup, List.nodup_singleton _, ?_⟩
      intro id listed other new same
      exact unlisted (List.mem_singleton.mp new ▸ same ▸ listed)
    · intro first second node other member memberToo named
      rcases (member_addBackend reconciled present).mp member with old | ⟨isFresh, created⟩
      · rcases (member_addBackend reconciled present).mp memberToo with oldToo | ⟨_, rfl⟩
        · exact reconciled.distinct _ _ _ _ old oldToo named
        · exact absurd named (absent first node old)
      · rcases (member_addBackend reconciled present).mp memberToo with oldToo | ⟨isFreshToo, _⟩
        · rw [created] at named
          exact absurd named.symm (absent second other oldToo)
        · rw [isFresh, isFreshToo]
    · rw [addBackend_eq weight present]
      exact congrArg (· ++ [server.freshNode]) reconciled.checked

theorem entry_addBackend (reconciled : Reconciled server) (host : Bytes) (port weight : Nat) (name : Bytes × Nat) :
    entry (server.addBackend host port weight) name =
      if name = (host, port) then some ((entry server name).getD (server.freshNode, .create host port weight))
      else entry server name := by
  have added := reconciled.addBackend host port weight
  cases present : entry server (host, port) with
  | some pair =>
    rw [addBackend_of_entry weight present]
    split
    next same => rw [same, present, Option.getD_some]
    next => rfl
  | none =>
    split
    next same =>
      rw [same, present, Option.getD_none, added.entry_eq_some, member_addBackend reconciled present]
      exact ⟨.inr ⟨rfl, rfl⟩, rfl⟩
    next different =>
      cases found : entry server name with
      | none =>
        rw [entry_eq_none] at found ⊢
        intro id node member named
        rcases (member_addBackend reconciled present).mp member with old | ⟨_, rfl⟩
        · exact found id node old named
        · exact different named.symm
      | some pair =>
        obtain ⟨member, named⟩ := entry_pair found
        rw [added.entry_eq_pair, member_addBackend reconciled present]
        exact ⟨.inl member, named⟩

end Reconciled

/-- Nothing keeps this node. -/
def drained (node : BackendNode) : Bool := node.state = .draining ∧ node.activeConnections = 0

/-- Whether the clean-up removes an identity. -/
def removable (server : Server) (id : NodeId) : Bool := (server.lb.nodes.find id).any drained

/-- In a roster in order, removal by key and removal by identity are the same. -/
theorem cleanupBackend_eq (reconciled : Reconciled server) {id : NodeId}
    (listed : id ∈ server.lb.backendPool.backends) (drains : removable server id = true) :
    server.cleanupBackend id = { server with
      lb := { server.lb with backendPool := { server.lb.backendPool with
        backends := server.lb.backendPool.backends.filter fun other => other ≠ id } }
      healthChecker := server.healthChecker.removeBackend id } := by
  obtain ⟨node, found, gone⟩ := (Option.any_eq_true _ _).mp drains
  simp only [drained, decide_eq_true_eq] at gone
  unfold Server.cleanupBackend LoadBalancer.cleanupBackend
  simp only [found, if_pos gone]
  congr 3
  apply List.filter_congr
  intro other listedToo
  obtain ⟨entry, stored⟩ := reconciled.found other listedToo
  simp only [stored]
  by_cases one : other = id
  · have equal : entry = node := Option.some.inj (stored.symm.trans (one ▸ found))
    simp [one, equal]
  · have different : ¬ (entry.host = node.host ∧ entry.port = node.port) := by
      intro named
      exact one (reconciled.distinct _ _ _ _ ⟨listedToo, stored⟩ ⟨listed, found⟩ (Prod.ext named.1 named.2))
    rw [not_and_or] at different
    simpa [one] using different

theorem cleanupBackend_kept {id : NodeId} (stays : removable server id = false) : server.cleanupBackend id = server := by
  unfold Server.cleanupBackend
  cases found : server.lb.nodes.find id with
  | none => rfl
  | some node =>
    have busy : ¬ (node.state = .draining ∧ node.activeConnections = 0) := by
      simpa [removable, found, drained] using stays
    simp only [if_neg busy]

/-- A clean-up of some of the pool removes what is drained among them, from the pool and from
the checker, and leaves the nodes as they are. -/
structure Cleaned (server : Server) (ids : List NodeId) (after : Server) : Prop where
  nodes : after.lb.nodes = server.lb.nodes
  pool : after.lb.backendPool.backends =
    server.lb.backendPool.backends.filter fun id => !(decide (id ∈ ids) && removable server id)
  reconciled : Reconciled after

theorem cleanupBackend_cleaned (reconciled : Reconciled server) {id : NodeId}
    (listed : id ∈ server.lb.backendPool.backends) : Cleaned server [id] (server.cleanupBackend id) := by
  cases drains : removable server id with
  | false =>
    rw [cleanupBackend_kept drains]
    refine ⟨rfl, ?_, reconciled⟩
    symm
    apply List.filter_eq_self.mpr
    intro other _
    by_cases same : other = id
    · simp [same, drains]
    · simp [same]
  | true =>
    rw [cleanupBackend_eq reconciled listed drains]
    refine ⟨rfl, ?_, ?_⟩
    · apply List.filter_congr
      intro other _
      by_cases same : other = id
      · simp [same, drains]
      · simp [same]
    · constructor
      · intro other kept
        exact reconciled.found other (List.mem_of_mem_filter kept)
      · exact reconciled.nodup.filter _
      · rintro first second node other ⟨kept, found⟩ ⟨keptToo, foundToo⟩ named
        exact reconciled.distinct _ _ _ _ ⟨List.mem_of_mem_filter kept, found⟩
          ⟨List.mem_of_mem_filter keptToo, foundToo⟩ named
      · exact congrArg (List.filter fun other => other ≠ id) reconciled.checked

theorem cleanup_cleaned (reconciled : Reconciled server) {ids : List NodeId} (nodup : ids.Nodup)
    (listed : ids ⊆ server.lb.backendPool.backends) : Cleaned server ids (ids.foldl Server.cleanupBackend server) := by
  induction ids generalizing server with
  | nil => exact ⟨rfl, by simp, reconciled⟩
  | cons id ids ih =>
    obtain ⟨outside, others⟩ := List.nodup_cons.mp nodup
    have one := cleanupBackend_cleaned reconciled (listed List.mem_cons_self)
    have still : ids ⊆ (server.cleanupBackend id).lb.backendPool.backends := by
      intro other member
      rw [one.pool, List.mem_filter]
      refine ⟨listed (List.mem_cons_of_mem _ member), ?_⟩
      have different : other ≠ id := fun same => outside (same ▸ member)
      simp [different]
    have rest := ih one.reconciled others still
    refine ⟨rest.nodes.trans one.nodes, ?_, rest.reconciled⟩
    have same (other : NodeId) : removable (server.cleanupBackend id) other = removable server other := by
      unfold removable
      rw [one.nodes]
    rw [List.foldl_cons, rest.pool, one.pool, List.filter_filter]
    apply List.filter_congr
    intro other _
    rw [same]
    by_cases first : other = id
    · simp [first, outside]
    · simp [first]

/-- `cleanup_drained_backends`. -/
theorem cleanupDrained_cleaned (reconciled : Reconciled server) :
    Cleaned server server.lb.backendPool.backends server.cleanupDrainedBackends :=
  cleanup_cleaned reconciled reconciled.nodup (List.Subset.refl _)

theorem member_cleanup (reconciled : Reconciled server) {id : NodeId} {node : BackendNode} :
    Member server.cleanupDrainedBackends id node ↔ Member server id node ∧ drained node = false := by
  have cleaned := cleanupDrained_cleaned reconciled
  unfold Member
  rw [cleaned.nodes, cleaned.pool, List.mem_filter]
  constructor
  · rintro ⟨⟨listed, kept⟩, found⟩
    refine ⟨⟨listed, found⟩, ?_⟩
    simpa [listed, removable, found] using kept
  · rintro ⟨⟨listed, found⟩, busy⟩
    refine ⟨⟨listed, ?_⟩, found⟩
    simp [removable, found, busy]

theorem Reconciled.cleanup (reconciled : Reconciled server) : Reconciled server.cleanupDrainedBackends :=
  (cleanupDrained_cleaned reconciled).reconciled

theorem Reconciled.entry_cleanup (reconciled : Reconciled server) (name : Bytes × Nat) :
    entry server.cleanupDrainedBackends name = (entry server name).filter fun pair => !drained pair.2 := by
  ext1 pair
  rw [Option.filter_eq_some_iff, reconciled.cleanup.entry_eq_pair,
    reconciled.entry_eq_pair, member_cleanup reconciled]
  simp only [Bool.not_eq_true']
  constructor
  · rintro ⟨⟨member, busy⟩, named⟩
    exact ⟨⟨member, named⟩, busy⟩
  · rintro ⟨⟨member, named⟩, busy⟩
    exact ⟨⟨member, busy⟩, named⟩

/-- A node after the loop that marks what is not listed. -/
def marked (keys : List (Bytes × Nat)) (node : BackendNode) : BackendNode :=
  if key node ∈ keys then node else { node with state := .draining }

theorem key_marked (keys : List (Bytes × Nat)) (node : BackendNode) : key (marked keys node) = key node := by
  unfold marked
  split <;> rfl

theorem marked_marked (keys : List (Bytes × Nat)) (node : BackendNode) :
    marked keys (marked keys node) = marked keys node := by
  by_cases listed : key node ∈ keys
  · have same : marked keys node = node := if_pos listed
    rw [same, same]
  · have moved : marked keys node = { node with state := .draining } := if_neg listed
    rw [moved]
    exact if_neg listed

theorem markUnlisted_eq (keys : List (Bytes × Nat)) (server : Server) (id : NodeId) :
    server.markUnlisted keys id = changeNode server id (marked keys) := by
  unfold Server.markUnlisted
  cases found : server.lb.nodes.find id with
  | none =>
    unfold changeNode LoadBalancer.changeNode
    rw [found]
  | some node =>
    by_cases unlisted : (node.host, node.port) ∉ keys ∧ node.state ≠ .draining
    · have moved : marked keys node = { node with state := .draining } := if_neg unlisted.1
      simp only [if_pos unlisted]
      unfold Server.setState changeNode LoadBalancer.changeNode
      simp only [found, moved]
    · have stays : marked keys node = node := by
        unfold marked
        split
        · rfl
        next outside =>
          have already : node.state = .draining := by
            by_contra other
            exact unlisted ⟨outside, other⟩
          rw [← already]
      simp only [if_neg unlisted]
      unfold changeNode
      rw [changeNode_of_find found stays]

/-- The loop that marks what is not listed, over some identities. -/
theorem mark_fold (keys : List (Bytes × Nat)) (reconciled : Reconciled server) (ids : List NodeId) :
    let after := ids.foldl (Server.markUnlisted keys) server
    Reconciled after ∧ after.lb.backendPool = server.lb.backendPool ∧
      ∀ name, entry after name =
        (entry server name).map fun pair => if pair.1 ∈ ids then (pair.1, marked keys pair.2) else pair := by
  induction ids generalizing server with
  | nil => exact ⟨reconciled, rfl, by simp⟩
  | cons id ids ih =>
    have one : Reconciled (server.markUnlisted keys id) := by
      rw [markUnlisted_eq]
      exact reconciled.changeNode id (key_marked keys)
    obtain ⟨rest, pool, entries⟩ := ih one
    refine ⟨rest, pool.trans ?_, ?_⟩
    · rw [markUnlisted_eq]
      exact backendPool_changeNode _ _ _
    · intro name
      rw [List.foldl_cons, entries, markUnlisted_eq, reconciled.entry_changeNode id (key_marked keys), Option.map_map]
      congr 1
      funext pair
      simp only [Function.comp_apply, List.mem_cons]
      have twice := marked_marked keys pair.2
      by_cases first : pair.1 = id
      · by_cases later : id ∈ ids <;> simp [first, later, twice]
      · by_cases later : pair.1 ∈ ids <;> simp [first, later]

/-- All of the pool is marked. -/
theorem entry_mark (keys : List (Bytes × Nat)) (reconciled : Reconciled server) (name : Bytes × Nat) :
    entry (server.lb.backendPool.backends.foldl (Server.markUnlisted keys) server) name =
      (entry server name).map fun pair => (pair.1, marked keys pair.2) := by
  rw [(mark_fold keys reconciled _).2.2]
  cases found : entry server name with
  | none => rfl
  | some pair =>
    have listed := (entry_pair found).1.1
    simp [listed]

/-- A node that is listed again. -/
def restored (node : BackendNode) : BackendNode :=
  if node.state = .draining then { node with state := .healthy } else node

theorem key_restored (node : BackendNode) : key (restored node) = key node := by
  unfold restored
  split <;> rfl

theorem restored_restored (node : BackendNode) : restored (restored node) = restored node := by
  by_cases draining : node.state = .draining <;> simp [restored, draining]

/-- The node a listed backend gets when there is none. -/
def created (backend : BackendConfig) : BackendNode := .create backend.host backend.port backend.weight

theorem restored_created (backend : BackendConfig) : restored (created backend) = created backend := by
  simp [restored, created, BackendNode.create]

def BackendConfig.key (backend : BackendConfig) : Bytes × Nat := (backend.host, backend.port)

theorem restoreListed_eq (server : Server) (backend : BackendConfig) :
    server.restoreListed backend =
      match entry server (BackendConfig.key backend) with
      | none => server.addBackend backend.host backend.port backend.weight
      | some pair => changeNode server pair.1 restored := by
  have asked : server.lb.backendPool.findBackend server.lb.nodes backend.host backend.port =
      entry server (BackendConfig.key backend) := rfl
  unfold Server.restoreListed
  rw [asked]
  cases found : entry server (BackendConfig.key backend) with
  | none => rfl
  | some pair =>
    have stored := (entry_pair found).1.2
    by_cases draining : pair.2.state = .draining
    · simp only [if_pos draining]
      unfold Server.setState changeNode LoadBalancer.changeNode
      simp only [stored, restored, if_pos draining]
    · have stays : restored pair.2 = pair.2 := if_neg draining
      simp only [if_neg draining]
      unfold changeNode
      rw [changeNode_of_find stored stays]

namespace Reconciled

theorem restore (reconciled : Reconciled server) (backend : BackendConfig) :
    Reconciled (server.restoreListed backend) := by
  rw [restoreListed_eq]
  split
  · exact reconciled.addBackend _ _ _
  · exact reconciled.changeNode _ key_restored

/-- A listed backend is in the pool afterwards; the node that was there stays. -/
theorem entry_restore (reconciled : Reconciled server) (backend : BackendConfig) (name : Bytes × Nat) :
    entry (server.restoreListed backend) name =
      if name = BackendConfig.key backend then
        some (((entry server name).map fun pair => (pair.1, restored pair.2)).getD (server.freshNode, created backend))
      else entry server name := by
  rw [restoreListed_eq]
  cases found : entry server (BackendConfig.key backend) with
  | none =>
    simp only [reconciled.entry_addBackend]
    change (if name = BackendConfig.key backend then _ else _) = _
    split
    next same => rw [same, found, Option.map_none, Option.getD_none, Option.getD_none]; rfl
    next => rfl
  | some pair =>
    obtain ⟨member, named⟩ := entry_pair found
    simp only [reconciled.entry_changeNode _ key_restored]
    split
    next same => rw [same, found, Option.map_some, if_pos rfl, Option.map_some, Option.getD_some]
    next different =>
      cases other : entry server name with
      | none => rfl
      | some second =>
        obtain ⟨memberToo, namedToo⟩ := entry_pair other
        have apart : second.1 ≠ pair.1 := by
          intro one
          have stored := memberToo.2
          rw [one, member.2, Option.some.injEq] at stored
          exact different (by rw [← namedToo, ← named, stored])
        rw [Option.map_some, if_neg apart]

end Reconciled

/-- The first entry for a host and port. -/
def firstListed (backends : List BackendConfig) (name : Bytes × Nat) : Option BackendConfig :=
  backends.find? fun backend => BackendConfig.key backend = name

/-- The node under a host and port. -/
def lookup (server : Server) (name : Bytes × Nat) : Option BackendNode := (entry server name).map Prod.snd

theorem lookup_restore (reconciled : Reconciled server) (backend : BackendConfig) (name : Bytes × Nat) :
    lookup (server.restoreListed backend) name =
      if name = BackendConfig.key backend then some (((lookup server name).map restored).getD (created backend))
      else lookup server name := by
  unfold lookup
  rw [reconciled.entry_restore]
  split
  · cases entry server name <;> rfl
  · rfl

theorem restore_fold (reconciled : Reconciled server) (backends : List BackendConfig) :
    let after := backends.foldl Server.restoreListed server
    Reconciled after ∧
      (∀ name, lookup after name = match firstListed backends name with
        | some backend => some (((lookup server name).map restored).getD (created backend))
        | none => lookup server name) ∧
      ∀ name id node, entry server name = some (id, node) →
        entry after name = some (id, if (firstListed backends name).isSome then restored node else node) := by
  induction backends generalizing server with
  | nil => exact ⟨reconciled, fun _ => rfl, fun _ _ _ found => found⟩
  | cons backend backends ih =>
    obtain ⟨rest, lookups, entries⟩ := ih (reconciled.restore backend)
    refine ⟨rest, ?_, ?_⟩
    · intro name
      rw [List.foldl_cons, lookups, lookup_restore reconciled]
      by_cases same : name = BackendConfig.key backend
      · have first : firstListed (backend :: backends) name = some backend := by
          simp [firstListed, same]
        rw [first, if_pos same]
        -- a later entry for the same key finds the node restored already
        cases firstListed backends name with
        | none => rfl
        | some later =>
          cases lookup server name with
          | none => simp [restored_created]
          | some node => simp [restored_restored]
      · have skipped : firstListed (backend :: backends) name = firstListed backends name := by
          simp [firstListed, Ne.symm same]
        rw [skipped, if_neg same]
    · intro name id node found
      have one := reconciled.entry_restore backend name
      rw [List.foldl_cons]
      by_cases same : name = BackendConfig.key backend
      · have first : firstListed (backend :: backends) name = some backend := by
          simp [firstListed, same]
        rw [if_pos same, found, Option.map_some, Option.getD_some] at one
        rw [entries name id (restored node) one, first]
        simp [restored_restored]
      · have skipped : firstListed (backend :: backends) name = firstListed backends name := by
          simp [firstListed, Ne.symm same]
        rw [if_neg same, found] at one
        rw [entries name id node one, skipped]

def listedKeys (backends : List BackendConfig) : List (Bytes × Nat) := backends.map BackendConfig.key

theorem firstListed_isSome {backends : List BackendConfig} {name : Bytes × Nat} :
    (firstListed backends name).isSome = true ↔ name ∈ listedKeys backends := by
  unfold firstListed listedKeys
  rw [List.find?_isSome, List.mem_map]
  simp only [decide_eq_true_eq]

theorem firstListed_eq_none {backends : List BackendConfig} {name : Bytes × Nat} :
    firstListed backends name = none ↔ name ∉ listedKeys backends := by
  rw [← firstListed_isSome]
  cases firstListed backends name <;> simp

theorem marked_of_lookup {backends : List BackendConfig} {name : Bytes × Nat} {node : BackendNode}
    (found : lookup server name = some node) : marked (listedKeys backends) node =
      if name ∈ listedKeys backends then node else { node with state := .draining } := by
  obtain ⟨pair, present, rfl⟩ := Option.map_eq_some_iff.mp found
  rw [← (entry_pair present).2]
  rfl

namespace Reconciled

theorem reconcile (reconciled : Reconciled server) (backends : List BackendConfig) :
    Reconciled (server.reconcile backends) :=
  (restore_fold (mark_fold _ reconciled _).1 backends).1.cleanup

/-- The node under each host and port after a reload: what is listed is there and not draining,
what is not listed stays, draining, while it has connections. -/
theorem lookup_reconcile (reconciled : Reconciled server) (backends : List BackendConfig) (name : Bytes × Nat) :
    lookup (server.reconcile backends) name = match firstListed backends name with
      | some backend => some (((lookup server name).map restored).getD (created backend))
      | none => ((lookup server name).map fun node => { node with state := .draining }).filter
          fun node => 0 < node.activeConnections := by
  have marks := (mark_fold (listedKeys backends) reconciled server.lb.backendPool.backends).1
  obtain ⟨rest, lookups, _⟩ := restore_fold marks backends
  have cleaned := rest.entry_cleanup name
  have before : lookup (server.lb.backendPool.backends.foldl (Server.markUnlisted (listedKeys backends)) server) name =
      (lookup server name).map (marked (listedKeys backends)) := by
    unfold lookup
    rw [entry_mark _ reconciled, Option.map_map, Option.map_map]
    rfl
  have filtered : lookup (server.reconcile backends) name = (lookup (backends.foldl Server.restoreListed
      (server.lb.backendPool.backends.foldl (Server.markUnlisted (listedKeys backends)) server)) name).filter
        fun node => !drained node := by
    unfold lookup
    rw [Option.filter_map]
    exact congrArg (Option.map Prod.snd) cleaned
  rw [filtered, lookups, before]
  cases first : firstListed backends name with
  | some backend =>
    have inside : name ∈ listedKeys backends := firstListed_isSome.mp (by rw [first]; rfl)
    have present : ((lookup server name).map (marked (listedKeys backends))).map restored =
        (lookup server name).map restored := by
      cases found : lookup server name with
      | none => rfl
      | some node => rw [Option.map_some, marked_of_lookup found, if_pos inside]
    simp only [present]
    apply Option.filter_eq_some_iff.mpr
    refine ⟨rfl, ?_⟩
    cases lookup server name with
    | none => simp [drained, created, BackendNode.create]
    | some node =>
      by_cases draining : node.state = .draining <;> simp [drained, restored, draining]
  | none =>
    have outside := firstListed_eq_none.mp first
    cases found : lookup server name with
    | none => rfl
    | some node =>
      simp only [Option.map_some, marked_of_lookup found, if_neg outside]
      simp [Option.filter, drained, Nat.pos_iff_ne_zero]

/-- A node that is listed keeps its identity; it changes only if it was draining. -/
theorem entry_reconcile (reconciled : Reconciled server) {backends : List BackendConfig} {name : Bytes × Nat}
    {id : NodeId} {node : BackendNode} (found : entry server name = some (id, node))
    (listed : name ∈ listedKeys backends) :
    entry (server.reconcile backends) name = some (id, restored node) := by
  have marks := (mark_fold (listedKeys backends) reconciled server.lb.backendPool.backends).1
  obtain ⟨rest, _, entries⟩ := restore_fold marks backends
  have unmarked : marked (listedKeys backends) node = node :=
    if_pos (by rw [(entry_member found).2]; exact listed)
  have present : entry (server.lb.backendPool.backends.foldl (Server.markUnlisted (listedKeys backends)) server) name =
      some (id, node) := by
    rw [entry_mark _ reconciled, found, Option.map_some, unmarked]
  have after := entries name id node present
  rw [if_pos (firstListed_isSome.mpr listed)] at after
  refine (rest.entry_cleanup name).trans ?_
  rw [after]
  apply Option.filter_eq_some_iff.mpr
  refine ⟨rfl, ?_⟩
  by_cases draining : node.state = .draining <;> simp [drained, restored, draining]

end Reconciled

/-- The pool agrees with a list of backends. -/
structure Settled (backends : List BackendConfig) (server : Server) : Prop where
  present : ∀ backend ∈ backends, ∃ id node, Member server id node ∧ key node = BackendConfig.key backend ∧
    node.state ≠ .draining
  leaving : ∀ id node, Member server id node → key node ∉ listedKeys backends →
    node.state = .draining ∧ 0 < node.activeConnections

theorem lookup_of_member (reconciled : Reconciled server) {id : NodeId} {node : BackendNode}
    (member : Member server id node) : lookup server (key node) = some node := by
  unfold lookup
  rw [reconciled.entry_eq_some.mpr ⟨member, rfl⟩, Option.map_some]

theorem member_of_lookup {name : Bytes × Nat} {node : BackendNode} (found : lookup server name = some node) :
    ∃ id, Member server id node ∧ key node = name := by
  obtain ⟨pair, present, rfl⟩ := Option.map_eq_some_iff.mp found
  exact ⟨pair.1, entry_member present⟩

theorem reconcile_settled (reconciled : Reconciled server) (backends : List BackendConfig) :
    Settled backends (server.reconcile backends) := by
  constructor
  · intro backend listed
    have lookups := reconciled.lookup_reconcile backends (BackendConfig.key backend)
    have some : (firstListed backends (BackendConfig.key backend)).isSome = true :=
      firstListed_isSome.mpr (List.mem_map_of_mem listed)
    obtain ⟨first, found⟩ := Option.isSome_iff_exists.mp some
    rw [found] at lookups
    obtain ⟨id, member, named⟩ := member_of_lookup lookups
    refine ⟨id, _, member, named, ?_⟩
    cases lookup server (BackendConfig.key backend) with
    | none => simp [created, BackendNode.create]
    | some node => by_cases draining : node.state = .draining <;> simp [restored, draining]
  · intro id node member unlisted
    have found := lookup_of_member (reconciled.reconcile backends) member
    rw [reconciled.lookup_reconcile, firstListed_eq_none.mpr unlisted] at found
    obtain ⟨some, busy⟩ := Option.filter_eq_some_iff.mp found
    obtain ⟨old, _, rfl⟩ := Option.map_eq_some_iff.mp some
    exact ⟨rfl, by simpa using busy⟩

/-- Where the pool agrees with the list already, nothing changes. -/
theorem reconcile_fixed (reconciled : Reconciled server) {backends : List BackendConfig}
    (settled : Settled backends server) : server.reconcile backends = server := by
  have marks : server.lb.backendPool.backends.foldl (Server.markUnlisted (listedKeys backends)) server = server := by
    apply run_fixed
    intro id listed
    obtain ⟨node, found⟩ := reconciled.found id listed
    have stays : marked (listedKeys backends) node = node := by
      unfold marked
      split
      · rfl
      next unlisted => rw [← (settled.leaving id node ⟨listed, found⟩ unlisted).1]
    rw [markUnlisted_eq]
    unfold changeNode
    rw [changeNode_of_find found stays]
  have restores : backends.foldl Server.restoreListed server = server := by
    apply run_fixed
    intro backend listed
    obtain ⟨id, node, member, named, active⟩ := settled.present backend listed
    have stays : restored node = node := if_neg active
    rw [restoreListed_eq, reconciled.entry_eq_some.mpr ⟨member, named⟩]
    unfold changeNode
    simp only [changeNode_of_find member.2 stays]
  have cleans : server.cleanupDrainedBackends = server := by
    apply run_fixed
    intro id listed
    obtain ⟨node, found⟩ := reconciled.found id listed
    apply cleanupBackend_kept
    by_cases unlisted : key node ∈ listedKeys backends
    · obtain ⟨backend, inside, same⟩ := List.mem_map.mp unlisted
      obtain ⟨other, one, member, named, active⟩ := settled.present backend inside
      have identity := reconciled.distinct _ _ _ _ member ⟨listed, found⟩ (named.trans same)
      have equal : one = node := by
        have stored := member.2
        rw [identity, found] at stored
        exact (Option.some.inj stored).symm
      simp [removable, found, drained, ← equal, active]
    · have busy := (settled.leaving id node ⟨listed, found⟩ unlisted).2
      simp [removable, found, drained, Nat.ne_of_gt busy]
  unfold Server.reconcile
  change (backends.foldl Server.restoreListed
    (server.lb.backendPool.backends.foldl (Server.markUnlisted (listedKeys backends)) server)).cleanupDrainedBackends = _
  rw [marks, restores, cleans]

/-- Only the nodes, the list of the pool and the books of the checker differ. -/
def Redrawn (server after : Server) : Prop :=
  ∃ nodes backends probed failures successes, after = { server with
    lb := { server.lb with nodes := nodes, backendPool := { server.lb.backendPool with backends := backends } }
    healthChecker := { server.healthChecker with
      backends := probed, consecutiveFailures := failures, consecutiveSuccesses := successes } }

namespace Redrawn

theorem refl (server : Server) : Redrawn server server := ⟨_, _, _, _, _, rfl⟩

theorem trans {first second third : Server} (left : Redrawn first second) (right : Redrawn second third) :
    Redrawn first third := by
  obtain ⟨_, _, _, _, _, rfl⟩ := left
  obtain ⟨_, _, _, _, _, rfl⟩ := right
  exact ⟨_, _, _, _, _, rfl⟩

theorem fold {ι : Type} {step : Server → ι → Server} (each : ∀ server input, Redrawn server (step server input))
    (server : Server) (inputs : List ι) : Redrawn server (inputs.foldl step server) :=
  run_related refl trans each server inputs

theorem changeNode (server : Server) (id : NodeId) (change : BackendNode → BackendNode) :
    Redrawn server (Reload.changeNode server id change) := by
  unfold Reload.changeNode LoadBalancer.changeNode
  split
  · exact ⟨_, _, _, _, _, rfl⟩
  · exact .refl server

theorem addBackend (server : Server) (host : Bytes) (port weight : Nat) :
    Redrawn server (server.addBackend host port weight) := by
  cases found : entry server (host, port) with
  | some pair =>
    rw [addBackend_of_entry weight found]
    exact .refl server
  | none =>
    rw [addBackend_eq weight found]
    exact ⟨_, _, _, _, _, rfl⟩

theorem cleanupBackend (server : Server) (id : NodeId) : Redrawn server (server.cleanupBackend id) := by
  unfold Server.cleanupBackend LoadBalancer.cleanupBackend
  cases found : server.lb.nodes.find id with
  | none => exact .refl server
  | some node =>
    simp only
    split
    · exact ⟨_, _, _, _, _, rfl⟩
    · exact .refl server

theorem reconcile (server : Server) (backends : List BackendConfig) : Redrawn server (server.reconcile backends) := by
  have marks (keys : List (Bytes × Nat)) (server : Server) (id : NodeId) :
      Redrawn server (server.markUnlisted keys id) := by
    rw [markUnlisted_eq]
    exact .changeNode server id _
  have restores (server : Server) (backend : BackendConfig) : Redrawn server (server.restoreListed backend) := by
    rw [restoreListed_eq]
    split
    · exact .addBackend server _ _ _
    · exact .changeNode server _ _
  exact ((fold (marks _) server _).trans (fold restores _ backends)).trans (fold cleanupBackend _ _)

end Redrawn

end Balancer.Reload
