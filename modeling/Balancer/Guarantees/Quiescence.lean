import Balancer.Guarantees.PoolAccounting
import Balancer.Registry.Sockets

/-! The sockets of pooled connections. When every connection is given to its pool after a whole exchange, and the answers
come in time, the pools hand out connections with nothing left on them. -/

namespace Balancer.Guarantees
open Foundation Http Net Core Registry Ledger Refinement

namespace Quiescence

/-- Every earlier request was sent in whole or not at all. -/
def Undivided (socket : Socket) : Prop := ∀ exchange ∈ socket.past, exchange.2 = exchange.1 ∨ exchange.2 = []

/-- The connect has completed, more can be sent, and nothing waits to be read. -/
structure Rested (socket : Socket) : Prop where
  connected : socket.connected = true
  writable : socket.writeShut = false
  silent : socket.rx = []

/-- No earlier client has left anything on the socket. -/
structure Quiescent (socket : Socket) : Prop extends Rested socket where
  undivided : Undivided socket

/-- What is or was there to be read has arrived for the exchange that goes on. -/
def Own (socket : Socket) : Prop := socket.taken ++ socket.rx = socket.arrived

/-- A connection is given to its pool between two requests. -/
structure Settled (release : Release) : Prop where
  rested : Rested release.socket
  whole : release.conn.writeBuf = [] ∨ release.socket.sent = []

/-- What arrives does so for the exchange that goes on, and not at an idle connection. -/
def Prompt (lb : LoadBalancer) : Event → Prop
  | .arrive fd exchange _ => (∀ conn ∈ (registry lb).idle, conn.fd ≠ fd) ∧
      ∀ socket ∈ lb.kernel.sockets.find fd, exchange = socket.exchange
  | _ => True

instance (lb : LoadBalancer) : ∀ event, Decidable (Prompt lb event)
  | .arrive fd exchange _ => inferInstanceAs (Decidable ((∀ conn ∈ (registry lb).idle, conn.fd ≠ fd) ∧
      ∀ socket ∈ lb.kernel.sockets.find fd, exchange = socket.exchange))
  | .accept .. | .io .. | .periodic .. | .shutdown .. | .addBackend .. | .expireNode .. | .health .. | .advance ..
  | .finish .. | .completeConnect .. => isTrue trivial

/-- No byte arrives late. -/
def Timely (lb : LoadBalancer) (input : Input) : Prop := Prompt lb input.event

instance (lb : LoadBalancer) (input : Input) : Decidable (Timely lb input) :=
  inferInstanceAs (Decidable (Prompt lb input.event))

/-- The sockets of the pools, and of those that may send or read. -/
structure Quiet (ledger : Ledger) : Prop where
  idle : ∀ conn ∈ ledger.idle, ∀ socket, ledger.sockets.find conn.fd = some socket → Rested socket
  engaged : ∀ fd socket, Engaged ledger fd → ledger.sockets.find fd = some socket → Undivided socket ∧ Own socket
  handouts : ∀ handout ∈ ledger.handouts, Quiescent handout.socket

section Acts
variable {ledger next : Ledger}

/-- A new idle connection has just been released. -/
theorem idle_of_act (step : Act ledger next) {conn : Connection} (resting : conn ∈ next.idle) :
    conn ∈ ledger.idle ∨ ∃ backend socket, conn = cleared backend ∧
      next.sockets.find conn.fd = some (closedExchange backend socket) ∧
      (⟨{ backend with peer := none }, socket⟩ : Release) ∈ next.releases := by
  cases step with
  | move step =>
    cases step with
    | @poolBackend backend client id socket linked isOpen =>
      rcases Multiset.mem_cons.mp resting with here | old
      · subst here
        exact Or.inr ⟨backend, socket, rfl, FiniteMap.find_insert_self _ _ _, by simp⟩
      · exact Or.inl old
    | @borrow borrowed rest socket left isOpen =>
      rw [left]
      exact Or.inl (Multiset.mem_cons_of_mem resting)
    | @evict evicted rest left =>
      rw [left]
      exact Or.inl (Multiset.mem_cons_of_mem resting)
    | _ => exact Or.inl resting
  | _ => exact Or.inl resting

/-- What is handed out was idle. -/
theorem handout_of_act (step : Act ledger next) {handout : Handout} (noted : handout ∈ next.handouts) :
    handout ∈ ledger.handouts ∨ ∃ conn ∈ ledger.idle, ledger.sockets.find conn.fd = some handout.socket := by
  cases step with
  | move step =>
    cases step with
    | @borrow conn rest socket left isOpen =>
      rcases List.mem_append.mp noted with old | last
      · exact Or.inl old
      · obtain rfl := List.mem_singleton.mp last
        exact Or.inr ⟨conn, by simp [left], isOpen⟩
    | _ => exact Or.inl noted
  | _ => exact Or.inl noted

theorem releases_of_act (step : Act ledger next) {release : Release} (noted : release ∈ ledger.releases) :
    release ∈ next.releases := by
  cases step with
  | move step =>
    cases step with
    | poolBackend => exact List.mem_append_left _ noted
    | _ => exact noted
  | _ => exact noted

end Acts

/-- A socket that has carried a whole exchange may be released. -/
theorem undivided_release {backend : Connection} {socket : Socket} (undivided : Undivided socket)
    (settled : Settled ⟨{ backend with peer := none }, socket⟩) : Undivided (closedExchange backend socket) := by
  intro exchange member
  rcases List.mem_append.mp member with old | last
  · exact undivided exchange old
  · obtain rfl := List.mem_singleton.mp last
    rcases settled.whole with empty | unsent
    · have empty : backend.writeBuf = [] := empty
      simp [empty]
    · exact Or.inr unsent

namespace Quiet
variable {ledger next : Ledger}

theorem act (quiet : Quiet ledger) (sound : Sound ledger) (step : Act ledger next)
    (clean : ∀ release ∈ next.releases, Settled release) : Quiet next where
  idle conn resting socket found := by
    have after := sound.act step
    rcases idle_of_act step resting with old | ⟨backend, before, _, released, noted⟩
    · have free := sound.free_of_idle old
      have isOpen := sound.open_of_idle old
      generalize here : conn.fd = fd at found free isOpen
      cases Handled.of_act sound step found with
      | kept same => exact quiet.idle conn old socket (here ▸ same)
      | opened new => simp [new] at isOpen
      | passed data known => cases free.symm.trans known
      | shut known => cases free.symm.trans known
      | released known => cases free.symm.trans known
      | @borrowed other rest before left same _ remaining =>
        have nodup : (ledger.idle.map Connection.fd).Nodup :=
          (Multiset.nodup_add.mp (Multiset.nodup_add.mp (Multiset.nodup_add.mp (Multiset.nodup_add.mp
            sound.owned.nodup).1).1).1).2.1
        rw [left, Multiset.map_cons, Multiset.nodup_cons] at nodup
        refine absurd ?_ nodup.1
        rw [← same, ← here]
        exact Multiset.mem_map_of_mem _ (remaining ▸ resting)
      | answered known =>
        have free := after.free_of_idle resting
        rw [here, known] at free
        cases free
    · rw [released] at found
      obtain rfl := Option.some.inj found
      obtain ⟨rested, _⟩ := clean _ noted
      exact ⟨rested.connected, rested.writable, rested.silent⟩
  engaged fd socket engaged found := by
    have after := sound.act step
    have already {before : Socket} (known : ledger.sockets.find fd = some before) : Undivided before ∧ Own before := by
      rcases Engaged.of_act sound step engaged with old | new
      · exact quiet.engaged fd before old known
      · cases new.symm.trans known
    cases Handled.of_act sound step found with
    | kept same => exact already same
    | opened new unread taken arrived past =>
      refine ⟨fun exchange member => ?_, ?_⟩
      · rw [past] at member
        cases member
      · unfold Own
        rw [unread, taken, arrived]
        rfl
    | passed data known same queue taken arrived past =>
      obtain ⟨undivided, own⟩ := already same
      refine ⟨fun exchange member => undivided exchange (past ▸ member), ?_⟩
      unfold Own at own ⊢
      rw [taken, arrived, ← own, queue, List.append_assoc]
    | shut known same =>
      obtain ⟨undivided, own⟩ := already same
      exact ⟨undivided, own⟩
    | @released backend before known paired same noted =>
      obtain ⟨undivided, own⟩ := already same
      exact ⟨undivided_release undivided (clean _ noted), own⟩
    | @borrowed conn rest before left same known _ =>
      have resting : conn ∈ ledger.idle := by simp [left]
      obtain ⟨undivided, _⟩ := quiet.engaged fd before (.resting resting same.symm) known
      refine ⟨undivided, (quiet.idle conn resting before (same ▸ known)).silent⟩
    | answered known alone settled => exact (engaged.not_alone after known alone settled).elim
  handouts handout noted := by
    rcases handout_of_act step noted with old | ⟨conn, resting, known⟩
    · exact quiet.handouts handout old
    · have rested := quiet.idle conn resting _ known
      exact ⟨rested, (quiet.engaged conn.fd _ (.resting resting rfl) known).1⟩

/-- The network changes a socket: bytes arrive for the exchange that goes on, and none at an idle connection. -/
theorem network (quiet : Quiet ledger) {fd : Fd} {socket changed : Socket} {bytes : Bytes}
    (found : ledger.sockets.find fd = some socket) (delivered : Delivered socket changed)
    (connected : socket.connected = true → changed.connected = true) (unread : changed.rx = socket.rx ++ bytes)
    (arrived : changed.arrived = socket.arrived ++ bytes)
    (awake : bytes = [] ∨ ∀ conn ∈ ledger.idle, conn.fd ≠ fd) :
    Quiet { ledger with sockets := ledger.sockets.insert fd changed } where
  idle conn resting other known := by
    by_cases here : conn.fd = fd
    · rw [here, FiniteMap.find_insert_self] at known
      obtain rfl := Option.some.inj known
      have rested := quiet.idle conn resting socket (here ▸ found)
      have nothing : bytes = [] := awake.resolve_right fun elsewhere => elsewhere conn resting here
      refine ⟨connected rested.connected, delivered.writeShut.trans rested.writable, ?_⟩
      rw [unread, rested.silent, nothing]
      rfl
    · rw [FiniteMap.find_insert_ne _ _ here] at known
      exact quiet.idle conn resting other known
  engaged other after engaged known := by
    have before : Engaged ledger other := by
      cases engaged with
      | waiting member => exact .waiting member
      | held member same => exact .held member same
      | resting member same => exact .resting member same
      | seated found busy => exact .seated found busy
    by_cases here : other = fd
    · subst here
      rw [FiniteMap.find_insert_self] at known
      obtain rfl := Option.some.inj known
      obtain ⟨undivided, own⟩ := quiet.engaged other socket before found
      refine ⟨fun exchange member => undivided exchange (delivered.past ▸ member), ?_⟩
      unfold Own at own ⊢
      rw [delivered.taken, unread, arrived, ← own, List.append_assoc]
    · rw [FiniteMap.find_insert_ne _ _ here] at known
      exact quiet.engaged other after before known
  handouts := quiet.handouts

end Quiet

section Runs

/-- What the network does to the registry in a step. -/
theorem step_network {lb : LoadBalancer} {input : Input} (timely : Timely lb input)
    (foreign : internal input.event = false) (quiet : Quiet (registry lb)) : Quiet (registry (lb.step input)) := by
  obtain ⟨event, answers⟩ := input
  let given : LoadBalancer := { lb with kernel := { lb.kernel with answers := answers } }
  have same : registry given = registry lb := rfl
  change Quiet (registry (given.handle event))
  cases event with
  | arrive fd exchange bytes =>
    unfold LoadBalancer.handle LoadBalancer.arrive
    dsimp only
    split
    case h_1 => exact quiet
    case h_2 socket found =>
      split
      case isFalse => exact quiet
      case isTrue ready =>
        obtain ⟨asleep, current⟩ := timely
        have now := current socket found
        refine quiet.network found ⟨rfl, rfl, rfl, rfl, rfl, rfl⟩ id rfl ?_ (Or.inr asleep)
        rw [if_pos now]
  | finish fd =>
    unfold LoadBalancer.handle LoadBalancer.finish
    dsimp only
    split
    case h_1 => exact quiet
    case h_2 socket found =>
      exact quiet.network found ⟨rfl, rfl, rfl, rfl, rfl, rfl⟩ id (List.append_nil _).symm (List.append_nil _).symm
        (Or.inl rfl)
  | completeConnect fd =>
    unfold LoadBalancer.handle LoadBalancer.completeConnect
    dsimp only
    split
    case h_1 => exact quiet
    case h_2 socket found =>
      exact quiet.network found ⟨rfl, rfl, rfl, rfl, rfl, rfl⟩ (fun _ => rfl) (List.append_nil _).symm
        (List.append_nil _).symm (Or.inl rfl)
  | _ => cases foreign

/-- What the releases of a registry were like decides whether it is quiet. -/
def QuietIf (ledger : Ledger) : Prop := (∀ release ∈ ledger.releases, Settled release) → Quiet ledger

theorem step_quiet {lb : LoadBalancer} {input : Input} (timely : Timely lb input) (sound : Sound (registry lb))
    (quiet : QuietIf (registry lb)) : QuietIf (registry (lb.step input)) := by
  rcases step_cases lb input with ⟨_, path⟩ | ⟨foreign, outcome⟩
  · refine path.invariant (fun step sound quiet clean => ?_) sound quiet
    exact (quiet fun release noted => clean release (releases_of_act step noted)).act sound step clean
  · intro clean
    have releases : (registry (lb.step input)).releases = (registry lb).releases := by
      rcases outcome with same | ⟨_, _, _, _, _, result⟩
      · rw [same]
      · rw [result]
    exact step_network timely foreign (quiet (releases ▸ clean))

theorem initial_quiet (setup : Setup) : Quiet (registry setup.initial) := by
  have idle := initial_idle setup
  refine ⟨fun conn resting => ?_, fun fd socket _ found => ?_, fun handout noted => ?_⟩
  · rw [idle] at resting
    exact absurd resting (Multiset.notMem_zero conn)
  · cases found
  · cases noted

theorem reached_quiet {setup : Setup} {inputs : List Input} (timely : Meets LoadBalancer.step Timely setup.initial inputs) :
    QuietIf (registry (reached setup inputs)) := by
  have both : Sound (registry (reached setup inputs)) ∧ QuietIf (registry (reached setup inputs)) :=
    @run_invariant_of_meets _ _ LoadBalancer.step Timely (fun lb => Sound (registry lb) ∧ QuietIf (registry lb)) _
      ⟨initial_sound setup, fun _ => initial_quiet setup⟩
      (fun lb input timely there => ⟨step_sound lb input there.1, step_quiet timely there.1 there.2⟩) _ timely
  exact both.2

/-- Every connection that a pool has handed out was quiescent, and what is read from a backend belongs to the exchange
that goes on. -/
structure Isolated (lb : LoadBalancer) : Prop where
  handedOut : ∀ handout ∈ lb.history.handouts, Quiescent handout.socket
  own : ∀ fd id socket, lb.backendConnections.find fd = some id → lb.kernel.sockets.find fd = some socket → Own socket

/-- In a run where no bytes arrive late, and every connection is given to its pool between two requests, the pools hand
out quiescent connections. -/
theorem handouts_quiescent {setup : Setup} {inputs : List Input}
    (timely : Meets LoadBalancer.step Timely setup.initial inputs)
    (settled : ∀ release ∈ (reached setup inputs).history.releases, Settled release) :
    Isolated (reached setup inputs) := by
  have sound := reached_sound setup inputs
  have quiet := reached_quiet timely settled
  refine ⟨quiet.handouts, fun fd id socket node found => ?_⟩
  obtain ⟨client, entry⟩ := Option.isSome_iff_exists.mp ((sound.tables.entries fd).mpr (Option.isSome_of_eq_some node))
  obtain ⟨conn, there, linked, _⟩ := (sound.tables.pairs fd client entry).backend
  exact (quiet.engaged fd socket (.seated there (Or.inl (by simp [linked]))) found).2

/-- The first client is answered and leaves, and the second gets its backend. -/
def handedOnRun : List Input :=
  borrowingRun ++ [⟨.arrive 5 0 (ascii "ask"), []⟩, ⟨.io 5 .read, [.ok 3]⟩, ⟨.io 6 .write, [.ok 3]⟩,
    ⟨.arrive 6 0 (ascii "yes"), []⟩, ⟨.io 6 .read, [.ok 3]⟩, ⟨.io 5 .write, [.ok 3]⟩, ⟨.io 5 .hup, []⟩,
    ⟨.accept 7 (ascii "d"), []⟩]

theorem handouts_quiescent_handedOn : ((reached pooledSetup handedOnRun).history.handouts.map Handout.fd = [6]) ∧
    Isolated (reached pooledSetup handedOnRun) := by
  have timely : Meets LoadBalancer.step Timely pooledSetup.initial handedOnRun := by decide +kernel
  have released : ∀ release ∈ (reached pooledSetup handedOnRun).history.releases, release.socket.connected = true ∧
      release.socket.writeShut = false ∧ release.socket.rx = [] ∧ release.conn.writeBuf = [] := by decide +kernel
  refine ⟨by decide +kernel, handouts_quiescent timely fun release noted => ?_⟩
  obtain ⟨connected, writable, silent, empty⟩ := released release noted
  exact ⟨⟨connected, writable, silent⟩, Or.inl empty⟩

/-- The first client leaves while its backend is being connected. -/
def hastyRun : List Input :=
  [⟨.addBackend 0 (ascii "b") 80 1, []⟩, ⟨.accept 5 (ascii "c"), [.fail, .ok 6, .ok 0, .again]⟩, ⟨.io 5 .hup, []⟩,
    ⟨.accept 7 (ascii "d"), []⟩]

/-- The second client gets a backend whose connect has not completed. -/
theorem hasty_unconnected : ¬∀ (setup : Setup) (inputs : List Input), Isolated (reached setup inputs) := by
  intro always
  obtain ⟨handedOut, _⟩ := always pooledSetup hastyRun
  have connected : ∀ handout ∈ (reached pooledSetup hastyRun).history.handouts, handout.socket.connected = true :=
    fun handout noted => (handedOut handout noted).connected
  revert connected
  decide +kernel

end Runs

end Quiescence

end Balancer.Guarantees
