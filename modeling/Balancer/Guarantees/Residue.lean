import Balancer.Guarantees.Budget
import Balancer.Guarantees.PoolAccounting
import Balancer.Operations.Connecting

/-! What is noted of a descriptor: its connection times, its tracking and its retries go when
its connection ends, unless a client is dropped while `connect` has it in hand. -/

namespace Balancer.Guarantees
open Foundation Http Net Core Registry Ledger Refinement Operations

/-- A connection on the descriptor is in the registry or in hand. -/
def Held (work : Work) (fd : Fd) : Prop :=
  (work.lb.connections.find fd).isSome = true ∨ ∃ conn ∈ work.hand, conn.fd = fd

/-- A client on the descriptor is in the registry or in hand. -/
def HeldClient (work : Work) (fd : Fd) : Prop :=
  ((work.lb.connections.find fd).isSome = true ∧ work.lb.backendConnections.find fd = none) ∨
    ∃ conn ∈ work.hand, conn.fd = fd

theorem HeldClient.held {work : Work} {fd : Fd} (client : HeldClient work fd) : Held work fd :=
  client.imp_left And.left

/-- What is noted is noted of connections that are there, and the gauge counts what is tracked. -/
structure Tidy (noted : Notes) (held client : Fd → Prop) : Prop where
  times : noted.times.Within held
  starts : noted.starts.Within held
  retries : noted.retries.Within client
  gauge : noted.tracked = noted.starts.keys.card

namespace Tidy
variable {noted changed : Notes} {held client held' client' : Fd → Prop} {fd : Fd}

theorem mono (tidy : Tidy noted held client) (wider : ∀ fd, held fd → held' fd)
    (clients : ∀ fd, client fd → client' fd) : Tidy noted held' client' :=
  ⟨tidy.times.mono wider, tidy.starts.mono wider, tidy.retries.mono clients, tidy.gauge⟩

/-- The parser states and the roster do not matter. -/
theorem congr (tidy : Tidy noted held client) (times : changed.times = noted.times) (starts : changed.starts = noted.starts)
    (tracked : changed.tracked = noted.tracked) (retries : changed.retries = noted.retries) :
    Tidy changed held client := by
  obtain ⟨inTimes, inStarts, inRetries, gauge⟩ := tidy
  exact ⟨times ▸ inTimes, starts ▸ inStarts, retries ▸ inRetries, by rw [tracked, starts, gauge]⟩

/-- A connection is tracked from now on. -/
theorem start (tidy : Tidy noted held client) (here : held fd) (fresh : noted.starts.find fd = none) (now : Nat) :
    Tidy { noted with starts := noted.starts.insert fd now, tracked := noted.tracked + 1 } held client := by
  refine ⟨tidy.times, tidy.starts.insert here now, tidy.retries, ?_⟩
  rw [FiniteMap.card_insert_fresh _ now fresh, tidy.gauge]

/-- The gauge goes down with the tracking. -/
theorem untracked_gauge (tidy : Tidy noted held client) (fd : Fd) :
    (noted.untracked fd).tracked = (noted.untracked fd).starts.keys.card := by
  have exact := tidy.gauge
  unfold Notes.untracked
  dsimp only
  cases found : noted.starts.find fd with
  | none =>
    rw [FiniteMap.erase_of_find_none _ found]
    exact exact
  | some start =>
    have fewer := noted.starts.card_erase found
    simp only [Option.isSome_some, if_true]
    omega

theorem untracked (tidy : Tidy noted held client) (fd : Fd) : Tidy (noted.untracked fd) held client :=
  ⟨tidy.times, (tidy.starts.erase fd).mono fun _ both => both.1, tidy.retries, tidy.untracked_gauge fd⟩

/-- A connection that is not a client's goes with its notes. -/
theorem forgotten (tidy : Tidy noted held client) (fd : Fd) :
    Tidy (noted.forgotten fd) (fun other => held other ∧ other ≠ fd) client :=
  ⟨tidy.times.erase fd, tidy.starts.erase fd, tidy.retries, tidy.untracked_gauge fd⟩

/-- A connection goes with its notes. -/
theorem ended (tidy : Tidy noted held client) (fd : Fd) :
    Tidy (noted.ended fd) (fun other => held other ∧ other ≠ fd) (fun other => client other ∧ other ≠ fd) :=
  ⟨tidy.times.erase fd, tidy.starts.erase fd, tidy.retries.erase fd, tidy.untracked_gauge fd⟩

/-- What the forwards and the handlers change is noted of connections that are there. -/
theorem minor {scope : Scope} {before after : LoadBalancer} (minor : Minor scope before after)
    (there : ∀ fd, (before.connections.find fd).isSome = true → held fd) (tidy : Tidy (notes before) held client) :
    Tidy (notes after) held client := by
  induction minor with
  | quiet _ same => rwa [same]
  | @start lb fd _ found =>
    cases tracked : lb.backpressureStartTimes.find fd with
    | none =>
      rw [notes_startBackpressure lb fd tracked]
      exact tidy.start (there fd found) tracked lb.now
    | some start =>
      have same : lb.startBackpressure fd = lb := by
        unfold LoadBalancer.startBackpressure
        rw [tracked]
      rwa [same]
  | @clear lb fd =>
    rw [notes_clearBackpressure]
    exact tidy.untracked fd
  | store => exact tidy.congr rfl rfl rfl rfl
  | trans first _ ihFirst ihSecond =>
    exact ihSecond (fun fd found => there fd ((first.isSome fd).symm.trans found)) (ihFirst there tidy)

end Tidy

/-- The state is tidy. -/
def TidyWork (work : Work) : Prop := Tidy (notes work.lb) (Held work) (HeldClient work)

section Steps
variable {before after : Work}

/-- Nothing has come or gone, as far as the registry and the hand go. -/
structure Stays (before after : Work) : Prop where
  there : ∀ fd, (after.lb.connections.find fd).isSome = (before.lb.connections.find fd).isSome
  backends : after.lb.backendConnections = before.lb.backendConnections
  hand : after.hand = before.hand

theorem Stays.of_outlines (outlined : outlines after.lb.connections = outlines before.lb.connections)
    (backends : after.lb.backendConnections = before.lb.backendConnections) (hand : after.hand = before.hand) :
    Stays before after where
  there fd := by
    have same := congrArg Option.isSome (congrFun outlined fd)
    unfold outlines at same
    rwa [Option.isSome_map, Option.isSome_map] at same
  backends := backends
  hand := hand

theorem Stays.of_books (same : books after.lb = books before.lb) (hand : after.hand = before.hand) : Stays before after :=
  .of_outlines (congrArg Books.outlines same) (congrArg Books.backends same) hand

theorem Stays.held (stays : Stays before after) (fd : Fd) : Held after fd ↔ Held before fd := by
  unfold Held
  rw [stays.there, stays.hand]

theorem Stays.client (stays : Stays before after) (fd : Fd) : HeldClient after fd ↔ HeldClient before fd := by
  unfold HeldClient
  rw [stays.there, stays.backends, stays.hand]

/-- Where nothing comes or goes, the state stays tidy if the notes do. -/
theorem Stays.tidy (stays : Stays before after) (kept : Tidy (notes after.lb) (Held before) (HeldClient before)) :
    TidyWork after :=
  kept.mono (fun fd here => (stays.held fd).mpr here) fun fd here => (stays.client fd).mpr here

end Steps

section Shifts
variable {lb : LoadBalancer} {hand : Multiset Connection} {raw : Multiset Fd}

/-- Who is in hand is in no map. -/
theorem notHand {fd : Fd} (sound : Sound (view lb hand raw)) (found : (lb.connections.find fd).isSome = true) {conn : Connection}
    (held : conn ∈ hand) : conn.fd ≠ fd := by
  rintro rfl
  rw [show lb.connections.find conn.fd = none from sound.free_of_hand held] at found
  cases found

/-- A descriptor outside the registry is not that of a backend. -/
theorem noBackend {fd : Fd} (sound : Sound (view lb hand raw)) (free : lb.connections.find fd = none) :
    lb.backendConnections.find fd = none := by
  cases node : lb.backendConnections.find fd with
  | none => rfl
  | some id =>
    obtain ⟨client, entry⟩ := Option.isSome_iff_exists.mp
      ((sound.tables.entries fd).mpr (Option.isSome_of_eq_some node))
    obtain ⟨conn, there, _⟩ := (sound.tables.pairs fd client entry).backend
    cases free.symm.trans there

/-- A pair, or a client alone, is closed. -/
theorem close_held {fd : Fd} {conn : Connection} (sound : Sound (view lb hand raw)) (found : lb.connections.find fd = some conn)
    (other : Fd) :
    (Held ⟨lb.closeConnection fd, hand, raw⟩ other ↔
      Held ⟨lb, hand, raw⟩ other ∧ ¬(other = fd ∨ conn.peer = some other)) ∧
    (HeldClient ⟨lb.closeConnection fd, hand, raw⟩ other ↔
      HeldClient ⟨lb, hand, raw⟩ other ∧ ¬(other = fd ∨ conn.peer = some other)) := by
  obtain ⟨connections, backends⟩ := closeConnection_finds sound found other
  have inHand (held : ∃ one ∈ hand, one.fd = other) : ¬(other = fd ∨ conn.peer = some other) := by
    obtain ⟨one, member, rfl⟩ := held
    rintro (rfl | linked)
    · exact notHand sound (Option.isSome_of_eq_some found) member rfl
    · obtain ⟨peer, _, there, _⟩ := linked_of_peer sound found linked
      exact notHand sound (Option.isSome_of_eq_some there) member rfl
  unfold Held HeldClient
  dsimp only
  rw [connections, backends]
  by_cases gone : other = fd ∨ conn.peer = some other
  · have nobody : ¬∃ one ∈ hand, one.fd = other := fun held => inHand held gone
    simp [gone, nobody]
  · simp [gone]

/-- The backend of a pair is closed, and the client stays, in the registry or in hand. -/
theorem closeBackend_held {backend client : Connection} {id : NodeId} (sound : Sound (view lb hand raw))
    (linked : Linked (view lb hand raw) backend client id) (other : Fd) :
    (Held ⟨lb.closeBackendConnectionOnly backend.fd, hand, raw⟩ other ↔ Held ⟨lb, hand, raw⟩ other ∧ other ≠ backend.fd) ∧
    (HeldClient ⟨lb.closeBackendConnectionOnly backend.fd, hand, raw⟩ other ↔ HeldClient ⟨lb, hand, raw⟩ other) := by
  obtain ⟨connections, backends⟩ := closeBackend_finds sound linked other
  have foundBackend : lb.connections.find backend.fd = some backend := linked.backendFound
  have foundClient : lb.connections.find client.fd = some client := linked.clientFound
  have node : lb.backendConnections.find backend.fd = some id := linked.node
  have different := sound.linked_ne linked
  have nobody : ¬∃ one ∈ hand, one.fd = backend.fd := by
    rintro ⟨one, member, same⟩
    exact notHand sound (Option.isSome_of_eq_some foundBackend) member same
  unfold Held HeldClient
  dsimp only
  rw [connections, backends]
  by_cases isBackend : other = backend.fd
  · rw [isBackend]
    simp [nobody, node, different.symm]
  · by_cases isClient : other = client.fd
    · simp [isClient, different, foundClient]
    · simp [isBackend, isClient]

/-- A client of the registry is taken in hand. -/
theorem taken_held {fd : Fd} (found : (lb.connections.find fd).isSome = true) (client : lb.backendConnections.find fd = none)
    {conn : Connection} (same : conn.fd = fd) (other : Fd) :
    (Held ⟨{ lb with connections := lb.connections.erase fd }, conn ::ₘ hand, raw⟩ other ↔ Held ⟨lb, hand, raw⟩ other) ∧
    (HeldClient ⟨{ lb with connections := lb.connections.erase fd }, conn ::ₘ hand, raw⟩ other ↔
      HeldClient ⟨lb, hand, raw⟩ other) := by
  unfold Held HeldClient
  dsimp only
  rw [FiniteMap.find_erase]
  by_cases here : other = fd
  · simp [here, same, found, client]
  · simp [here, same, Ne.symm here]

/-- A client in hand gets a backend. -/
theorem join_held {before : Work} {client backend : Connection} {rest : Multiset Connection} {after : LoadBalancer} {id : NodeId}
    (joinable : Joinable before client backend rest) (sound : Sound before.view) (ends : Sound (view after rest before.raw))
    (connections : outlines after.connections = outlines ((before.lb.connections.insert client.fd
      { client with peer := some backend.fd }).insert backend.fd { backend with peer := some client.fd }))
    (backends : after.backendConnections = before.lb.backendConnections.insert backend.fd id) (other : Fd) :
    (Held ⟨after, rest, before.raw⟩ other ↔ Held before other ∨ other = backend.fd) ∧
    (HeldClient ⟨after, rest, before.raw⟩ other ↔ HeldClient before other) := by
  have held := joinable.held
  have different := joinable.different
  have clientFree : before.lb.connections.find client.fd = none :=
    sound.free_of_hand (show client ∈ before.hand from held ▸ Multiset.mem_cons_self _ _)
  have noNode := @noBackend _ before.hand before.raw _ sound clientFree
  have known (fd : Fd) : (after.connections.find fd).isSome = true ↔
      (before.lb.connections.find fd).isSome = true ∨ fd = client.fd ∨ fd = backend.fd := by
    have outlined := congrArg Option.isSome (congrFun connections fd)
    unfold outlines at outlined
    rw [Option.isSome_map, Option.isSome_map] at outlined
    rw [outlined]
    by_cases isBackend : fd = backend.fd
    · simp [isBackend]
    · by_cases isClient : fd = client.fd
      · simp [isClient, different.symm]
      · simp [isBackend, isClient]
  have notRest : ¬∃ conn ∈ rest, conn.fd = backend.fd := by
    rintro ⟨conn, member, same⟩
    exact notHand ends ((known backend.fd).mpr (Or.inr (Or.inr rfl))) member same
  unfold Held HeldClient
  dsimp only
  rw [known, held, backends, FiniteMap.find_insert]
  by_cases isBackend : other = backend.fd
  · simp [isBackend, joinable.free, different.symm, notRest]
  · by_cases isClient : other = client.fd
    · simp [isClient, different.symm, noNode]
    · simp [isBackend, isClient, Ne.symm isClient]

/-- A client is admitted, when none is in hand. -/
theorem seated_held {before after : Work} {fd : Fd} (sound : Sound before.view) (free : before.lb.connections.find fd = none)
    (connections : ∀ other, (after.lb.connections.find other).isSome = true ↔
      (before.lb.connections.find other).isSome = true ∨ (other = fd ∧ after.hand = before.hand))
    (backends : after.lb.backendConnections = before.lb.backendConnections)
    (hand : after.hand = before.hand ∨ ∃ conn : Connection, conn.fd = fd ∧ after.hand = conn ::ₘ before.hand) (other : Fd) :
    (Held after other ↔ Held before other ∨ other = fd) ∧ (HeldClient after other ↔ HeldClient before other ∨ other = fd) := by
  have noNode := @noBackend _ before.hand before.raw _ sound free
  unfold Held HeldClient
  rw [connections, backends]
  rcases hand with same | ⟨conn, sameFd, more⟩
  · rw [same]
    by_cases here : other = fd
    · simp [here, noNode]
    · simp [here]
  · rw [more]
    by_cases here : other = fd
    · simp [here, sameFd]
    · simp [here, sameFd, Ne.symm here]

end Shifts

section Deeds
variable {deed : Deed} {before after : Work}

/-- The state after a close of a connection, or of none. -/
theorem close_tidy {work : Work} (sound : Sound work.view) (fd : Fd) (tidy : TidyWork work) :
    TidyWork { work with lb := work.lb.closeConnection fd } := by
  cases found : work.lb.connections.find fd with
  | none =>
    rw [closeConnection_missing work.lb found]
    exact tidy
  | some conn =>
    have sets := @close_held work.lb work.hand work.raw fd conn sound found
    unfold TidyWork
    dsimp only
    rw [notes_closeConnection sound found]
    have left : Tidy ((({ notes work.lb with states := leavingStates work.lb fd }).ended fd).unserved fd)
        (fun other => Held work other ∧ other ≠ fd) (fun other => HeldClient work other ∧ other ≠ fd) :=
      ((tidy.congr rfl rfl rfl rfl).ended fd).congr rfl rfl rfl rfl
    cases linked : conn.peer with
    | none =>
      refine left.mono (fun other here => (sets other).1.mpr ?_) fun other here => (sets other).2.mpr ?_
      · exact ⟨here.1, by simp [linked, here.2]⟩
      · exact ⟨here.1, by simp [linked, here.2]⟩
    | some peer =>
      refine (left.ended peer).mono (fun other here => (sets other).1.mpr ?_) fun other here => (sets other).2.mpr ?_
      · exact ⟨here.1.1, by simp [linked, here.1.2, Ne.symm here.2]⟩
      · exact ⟨here.1.1, by simp [linked, here.1.2, Ne.symm here.2]⟩

/-- A pair is installed. -/
theorem join_tidy {client backend : Connection} {rest : Multiset Connection} {id : NodeId} {lb : LoadBalancer}
    {node : BackendNode} {isPooled : Bool} {retryCount : Nat} (held : before.hand = client ::ₘ rest)
    (same : notes lb = notes before.lb)
    (sets : ∀ other, (Held ⟨lb.installPair client backend id node isPooled retryCount, rest, before.raw⟩ other ↔
        Held before other ∨ other = backend.fd) ∧
      (HeldClient ⟨lb.installPair client backend id node isPooled retryCount, rest, before.raw⟩ other ↔
        HeldClient before other)) (tidy : TidyWork before) :
    TidyWork ⟨lb.installPair client backend id node isPooled retryCount, rest, before.raw⟩ := by
  have isClient : HeldClient before client.fd := Or.inr ⟨client, held ▸ Multiset.mem_cons_self _ _, rfl⟩
  have begun : Tidy (notes lb) (fun other => Held before other ∨ other = backend.fd) (HeldClient before) := by
    rw [same]
    exact tidy.mono (fun _ => Or.inl) fun _ here => here
  unfold TidyWork
  dsimp only
  rw [notes_installPair]
  have noted : Tidy { notes lb with
      times := lb.connectionTimes.insert backend.fd lb.now
      retries := lb.clientRetryCounts.insert client.fd retryCount }
      (fun other => Held before other ∨ other = backend.fd) (HeldClient before) :=
    ⟨begun.times.insert (Or.inr rfl) _, begun.starts, begun.retries.insert isClient _, begun.gauge⟩
  refine Tidy.congr (noted.mono (fun other here => ?_) fun other here => ?_) rfl rfl rfl rfl
  · exact (sets other).1.mpr here
  · exact (sets other).2.mpr here

/-- A client is admitted. -/
theorem seated_tidy {fd : Fd} {time : Nat}
    (also : notes after.lb = { notes before.lb with times := before.lb.connectionTimes.insert fd time })
    (sets : ∀ other, (Held after other ↔ Held before other ∨ other = fd) ∧
      (HeldClient after other ↔ HeldClient before other ∨ other = fd)) (tidy : TidyWork before) : TidyWork after := by
  have grown : Tidy (notes before.lb) (Held after) (HeldClient after) :=
    tidy.mono (fun other here => (sets other).1.mpr (Or.inl here)) fun other here => (sets other).2.mpr (Or.inl here)
  unfold TidyWork
  rw [also]
  exact ⟨grown.times.insert ((sets fd).1.mpr (Or.inr rfl)) time, grown.starts, grown.retries, grown.gauge⟩

/-- Only the roster changes, and what neither the registry nor the hand shows. -/
theorem restaffs_tidy {lb : LoadBalancer} {work : Work} (restaffs : Restaffs work.lb lb) (tidy : TidyWork work) :
    TidyWork { work with lb := lb } := by
  obtain ⟨_, _, _, noted⟩ := restaffs.notes
  refine (@Stays.of_outlines work { work with lb := lb } restaffs.outlines restaffs.backends rfl).tidy ?_
  rw [noted]
  exact tidy.congr rfl rfl rfl rfl

/-- The backend of a pair is closed. -/
theorem closeBackend_tidy {work : Work} {backend client : Connection} {id : NodeId} (sound : Sound work.view)
    (linked : Linked work.view backend client id) (tidy : TidyWork work) :
    TidyWork { work with lb := work.lb.closeBackendConnectionOnly backend.fd } := by
  have sets := closeBackend_held sound linked
  have found : work.lb.connections.find backend.fd = some backend := linked.backendFound
  unfold TidyWork
  dsimp only
  rw [notes_closeBackendConnectionOnly found]
  refine (tidy.forgotten backend.fd).mono (fun other here => ?_) fun other here => ?_
  · exact (sets other).1.mpr here
  · exact (sets other).2.mpr here

/-- The client of a backend that was closed is in the registry. -/
theorem closedBackend_client {work : Work} {backend client : Connection} {id : NodeId} (sound : Sound work.view)
    (linked : Linked work.view backend client id) :
    ((work.lb.closeBackendConnectionOnly backend.fd).connections.find client.fd).isSome = true ∧
      (work.lb.closeBackendConnectionOnly backend.fd).backendConnections.find client.fd = none := by
  obtain ⟨connections, backends⟩ := closeBackend_finds sound linked client.fd
  have noNode : work.lb.backendConnections.find client.fd = none := sound.backends_of_client linked.entry
  rw [connections, backends, noNode]
  simp

/-- A client is entered in the registry. -/
theorem entered_held {fd : Fd} {conn : Connection} (sound : Sound before.view)
    (free : before.lb.connections.find fd = none) (same : books after.lb = books (before.lb.setConnection fd conn))
    (hand : after.hand = before.hand) (other : Fd) :
    (Held after other ↔ Held before other ∨ other = fd) ∧ (HeldClient after other ↔ HeldClient before other ∨ other = fd) := by
  have stays : Stays { before with lb := before.lb.setConnection fd conn } after := .of_books same hand
  refine seated_held sound free (fun one => ?_) stays.backends (Or.inl hand) other
  rw [stays.there]
  change ((before.lb.connections.insert fd conn).find one).isSome = true ↔ _
  rw [FiniteMap.find_insert]
  by_cases here : one = fd
  · simp [here, hand]
  · simp [here]

/-- A deed leaves the state tidy, unless it drops a client. -/
theorem tidy_step (achieves : Achieves deed before after) (keeps : deed ≠ .drop) (tidy : TidyWork before) :
    TidyWork after := by
  have sound := achieves.before
  have still (same : books after.lb = books before.lb) (also : notes after.lb = notes before.lb)
      (hand : after.hand = before.hand) : TidyWork after := by
    refine (Stays.of_books same hand).tidy ?_
    rw [also]
    exact tidy
  have changes {scope : Scope} {lb : LoadBalancer} (minor : Minor scope before.lb lb) : TidyWork { before with lb := lb } :=
    (@Stays.of_books before { before with lb := lb } minor.books rfl).tidy (Tidy.minor minor (fun fd => Or.inl) tidy)
  cases achieves.done with
  | quiet same also hand => exact still same also hand
  | forward _ _ minor => exact changes minor
  | abandon minor => exact changes minor
  | writeClient _ minor => exact changes minor
  | writeBackend _ minor => exact changes minor
  | @stall _ fd there =>
    have starts : Minor .anything before.lb (before.lb.startBackpressure fd) := .start trivial there
    exact changes (starts.trans (.quiet rfl rfl))
  | @untrack _ fd idle missing =>
    have absent : before.lb.backpressureStartTimes.find fd = none := by
      refine tidy.starts.find_none fun held => ?_
      rcases held with there | ⟨conn, member, _⟩
      · simp [missing] at there
      · simp [idle] at member
    refine still rfl ?_ rfl
    unfold notes
    rw [FiniteMap.erase_of_find_none _ absent]
  | close fd => exact close_tidy sound fd tidy
  | @expire _ fd =>
    have counted : Sound (view (countExpiry before.lb) before.hand before.raw) := sound
    exact @close_tidy ⟨countExpiry before.lb, before.hand, before.raw⟩ counted fd tidy
  | closeBackend linked => exact closeBackend_tidy sound linked tidy
  | @takeBack _ backend client id linked =>
    obtain ⟨found, noNode⟩ := closedBackend_client sound linked
    have closed := closeBackend_tidy sound linked tidy
    have sets := @taken_held _ before.hand before.raw _ found noNode { client with peer := none } rfl
    exact closed.mono (fun other here => (sets other).1.mpr here) fun other here => (sets other).2.mpr here
  | @reclaim _ _ fd conn found shaking same also hand =>
    have sameFd := (sound.tables.proper fd conn found).sameFd
    have noNode := client_of_handshake sound found shaking
    have sets := @taken_held _ before.hand before.raw fd (Option.isSome_of_eq_some found) noNode
      { conn with state := .established } sameFd
    have stays : Stays ⟨{ before.lb with connections := before.lb.connections.erase fd },
        { conn with state := .established } ::ₘ before.hand, before.raw⟩ after := .of_books same hand
    refine stays.tidy ?_
    rw [also]
    exact tidy.mono (fun other here => (sets other).1.mpr here) fun other here => (sets other).2.mpr here
  | @establish _ backend client id linked =>
    obtain ⟨connections, backends, _⟩ := establish_books linked
    have found : before.lb.connections.find backend.fd = some backend := linked.backendFound
    have stays : Stays before { before with lb := before.lb.establishBackend backend.fd } := by
      refine ⟨fun other => ?_, backends, rfl⟩
      rw [connections, FiniteMap.find_insert]
      by_cases here : other = backend.fd
      · simp [here, found]
      · simp [here]
    refine stays.tidy ?_
    rw [notes_establishBackend]
    exact tidy
  | @join _ client backend rest id node kernel retryCount joinable =>
    obtain ⟨connections, backends, _⟩ := installPair_books { before.lb with kernel := kernel } client backend id node false
      retryCount
    exact join_tidy joinable.held rfl (join_held joinable sound achieves.after connections backends) tidy
  | @joinPooled _ client backend rest id node manager borrowed retryCount joinable up _ _ managed lent =>
    obtain ⟨sameConnections, _, _, sameNotes, sameBackends⟩ := borrow_same before.lb manager node.host node.port
    rw [lent] at sameConnections sameNotes sameBackends
    obtain ⟨connections, backends, _⟩ := installPair_books borrowed client (LoadBalancer.attachMemoryAccounting backend) id
      node true retryCount
    dsimp only at sameConnections sameNotes sameBackends
    rw [sameConnections] at connections
    rw [sameBackends] at backends
    have pooled : Joinable before client (LoadBalancer.attachMemoryAccounting backend) rest :=
      ⟨joinable.held, joinable.clientUp, joinable.ready, joinable.free, joinable.different⟩
    exact join_tidy pooled.held sameNotes (join_held pooled sound achieves.after connections backends) tidy
  | @miss _ manager host port left managed refused =>
    obtain ⟨connections, _, _, sameNotes, backends⟩ := borrow_same before.lb manager host port
    rw [refused] at connections sameNotes backends
    have stays : Stays before { before with lb := left } := ⟨fun fd => by rw [connections], backends, rfl⟩
    refine stays.tidy ?_
    rw [sameNotes]
    exact tidy
  | drop => exact absurd rfl keeps
  | fail same also hand => exact still same also hand
  | refuse same also hand => exact still same also hand
  | @greet _ _ fd room free same also hand =>
    have stays := @Stays.of_books before { after with hand := before.hand } same rfl
    have client : ({ fd := fd, accounted := true } : Connection).fd = fd := rfl
    refine seated_tidy also (seated_held sound free (fun other => ?_) stays.backends (Or.inr ⟨_, client, ?_⟩)) tidy
    · have grown : after.hand ≠ before.hand := by simp [hand, room.empty]
      have there : (after.lb.connections.find other).isSome = (before.lb.connections.find other).isSome := stays.there other
      simp [there, grown]
    · rw [hand, room.empty]
  | seatHandshake room free same also hand =>
    obtain ⟨time, also⟩ := also
    exact seated_tidy also (entered_held sound free same (hand.trans room.empty.symm)) tidy
  | seatError free same also hand =>
    obtain ⟨time, also⟩ := also
    exact seated_tidy also (entered_held sound free same hand) tidy
  | evict key =>
    have kept : Stays before { before with lb := before.lb.evictPool key } := by
      rcases evictPool_books before.lb key with same | ⟨_, _, _, _, _, _, _, same⟩
      · exact .of_books same rfl
      · exact .of_outlines (congrArg Books.outlines same) (congrArg Books.backends same) rfl
    refine kept.tidy ?_
    rw [notes_evictPool]
    exact tidy
  | clean id => exact restaffs_tidy (restaffs_cleanupBackend before.lb id) tidy
  | @mark _ id _ _ state => exact restaffs_tidy (restaffs_mark before.lb id state) tidy
  | addBackend id host port weight => exact restaffs_tidy (restaffs_addBackend before.lb id host port weight) tidy
  | expireNode id => exact restaffs_tidy (restaffs_expireNode before.lb id) tidy
  | dangle => exact @Stays.tidy before _ ⟨fun _ => rfl, rfl, rfl⟩ tidy

end Deeds

section Runs

/-- The client that a deed admits. -/
def admitted : Deed → Option Fd
  | .greet fd | .seatHandshake fd | .seatError fd => some fd
  | _ => none

/-- A client is admitted on a descriptor that no connection has. -/
theorem admitted_free {deed : Deed} {before after : Work} (achieves : Achieves deed before after) {fd : Fd}
    (admits : admitted deed = some fd) : ¬Held before fd := by
  have outside (free : before.lb.connections.find fd = none) (idle : before.hand = 0) : ¬Held before fd := by
    rintro (there | ⟨conn, member, _⟩)
    · simp [free] at there
    · simp [idle] at member
  cases achieves.done with
  | greet room free =>
    cases admits
    exact outside free room.empty
  | seatHandshake room free =>
    cases admits
    exact outside free room.empty
  | @seatError _ _ _ left free same _ hand =>
    cases admits
    have stays : Stays { before with lb := before.lb.setConnection fd { fd := fd, state := .established, writeBuf := left } }
        after := .of_books same hand
    have there : (after.lb.connections.find fd).isSome = true := by
      rw [stays.there]
      change ((before.lb.connections.insert fd _).find fd).isSome = true
      rw [FiniteMap.find_insert_self]
      rfl
    rintro (found | ⟨conn, member, same⟩)
    · simp [free] at found
    · exact notHand achieves.after there (hand ▸ member) same
  | _ => cases admits

/-- Nothing is noted of a descriptor that no connection has, and the gauge counts what is tracked. -/
structure Clean (work : Work) : Prop where
  absent : ∀ fd, ¬Held work fd → work.lb.connectionTimes.find fd = none ∧
    work.lb.backpressureStartTimes.find fd = none ∧ work.lb.clientRetryCounts.find fd = none
  gauge : work.lb.metrics.backpressureActive = work.lb.backpressureStartTimes.keys.card

theorem TidyWork.clean {work : Work} (tidy : TidyWork work) : Clean work where
  absent _ outside :=
    ⟨tidy.times.find_none outside, tidy.starts.find_none outside, tidy.retries.find_none fun client => outside client.held⟩
  gauge := tidy.gauge

/-- An accepted client is welcome in the process, and there is a backend for it. -/
structure Receptive (lb : LoadBalancer) : Prop where
  welcoming : Welcoming lb 5
  unpooled : lb.poolManager = none
  selects : ((greeted (countAdmission (opened lb 5 (ascii "c"))) 5 (ascii "c")).selectBackend []).1.isSome = true
  new : lb.kernel.sockets.find 6 = none

/-- The deeds of a client that is accepted while its backend is being connected. -/
theorem connecting_deeds {setup : Setup} {allowed : Deed → Prop}
    (receptive : Receptive (asked (reached setup idleRun) ⟨.accept 5 (ascii "c"), [.ok 6, .ok 0, .again]⟩))
    (quiet : allowed .quiet) (adds : allowed .addBackend) (greets : allowed (.greet 5)) (joins : allowed (.join false)) :
    ∃ moments, Deeds setup connectingRun moments ∧ ∀ moment ∈ moments, allowed moment.2 := by
  let first : Input := ⟨.addBackend 0 (ascii "b") 80 1, []⟩
  let second : Input := ⟨.accept 5 (ascii "c"), [.ok 6, .ok 0, .again]⟩
  have adding : Enacts allowed (.atRest (reached setup [])) (.atRest ((reached setup []).step first)) :=
    (asked_enacts quiet _ first).trans
      (.one adds (.of_reaches (addBackend_reaches _ 0 0 0 (ascii "b") 80 1)) fun _ => .addBackend 0 (ascii "b") 80 1)
  have idle : ∃ moments, Deeds setup idleRun moments ∧ ∀ moment ∈ moments, allowed moment.2 :=
    @deeds_snoc setup allowed [] first ⟨[], .nil, by simp⟩ adding
  have accepting : Enacts allowed (.atRest (asked (reached setup idleRun) second))
      (.atRest ((asked (reached setup idleRun) second).accept 5 (ascii "c"))) :=
    accept_connecting quiet greets joins receptive.welcoming (by decide) receptive.unpooled receptive.selects rfl
      (by decide) receptive.new (by decide)
  exact @deeds_snoc setup allowed idleRun second idle ((asked_enacts quiet _ second).trans accepting)

theorem plain_receptive :
    Receptive (asked (reached plainSetup idleRun) ⟨.accept 5 (ascii "c"), [.ok 6, .ok 0, .again]⟩) := by
  refine ⟨⟨rfl, rfl, ?_, ?_, ?_, rfl⟩, rfl, ?_, ?_⟩
  all_goals decide +kernel

/-- In a run that drops no client in hand, whatever ends takes its notes with it, and a client that is admitted
finds no start time under its descriptor. -/
theorem no_residue (setup : Setup) (inputs : List Input) (moments : List (Work × Deed)) (deeds : Deeds setup inputs moments)
    (undropped : ∀ moment ∈ moments, moment.2 ≠ .drop) : Clean (.atRest (reached setup inputs)) ∧
      ∀ moment ∈ moments, Clean moment.1 ∧ ∀ fd, admitted moment.2 = some fd →
        moment.1.lb.backpressureStartTimes.find fd = none := by
  have begins : TidyWork (.atRest setup.initial) :=
    ⟨fun _ present => (by cases present), fun _ present => (by cases present), fun _ present => (by cases present), rfl⟩
  obtain ⟨ends, during⟩ := @Unrolls.follows _ _ _ _ _ _ _ _ (fun moment => moment.2 ≠ .drop) (fun _ => TidyWork) begins
    (fun achieves keeps tidy => tidy_step achieves keeps tidy) inputs moments deeds undropped
  refine ⟨ends.clean, fun moment member => ?_⟩
  obtain ⟨earlier, later, split⟩ := List.append_of_mem member
  have clean := TidyWork.clean (during earlier moment later split)
  subst split
  obtain ⟨after, _, achieves, _⟩ := deeds.trail.cut
  exact ⟨clean, fun fd admits => (clean.absent fd (admitted_free achieves admits)).2.1⟩

theorem no_residue_connecting : ∃ moments, Deeds plainSetup connectingRun moments ∧
    (∀ moment ∈ moments, moment.2 ≠ .drop) ∧ Clean (.atRest (reached plainSetup connectingRun)) ∧
    (reached plainSetup connectingRun).connectionTimes.keys = {5, 6} := by
  obtain ⟨moments, deeds, undropped⟩ := @connecting_deeds plainSetup (fun deed => deed ≠ .drop) plain_receptive (by simp)
    (by simp) (by simp) (by simp)
  have kept := no_residue plainSetup connectingRun moments deeds undropped
  exact ⟨moments, deeds, undropped, kept.1, by decide +kernel⟩

/-- The client is tracked, since the budget is too small for a read, and then the connect to its backend and every
retry fail. -/
def droppedRun : List Input :=
  connectingRun ++ [⟨.io 5 .read, []⟩, ⟨.io 6 .error, [.fail]⟩]

theorem residue_of_dropped : ¬∀ (setup : Setup) (inputs : List Input), Clean (.atRest (reached setup inputs)) := by
  intro always
  have absent := (always smallSetup droppedRun).absent 5
  have outside : ¬Held (.atRest (reached smallSetup droppedRun)) 5 := by
    rintro (there | ⟨_, member, _⟩)
    · have gone : (reached smallSetup droppedRun).connections.find 5 = none := by decide +kernel
      change ((reached smallSetup droppedRun).connections.find 5).isSome = true at there
      simp [gone] at there
    · cases member
  have stale : (reached smallSetup droppedRun).backpressureStartTimes.find 5 ≠ none := by decide +kernel
  exact stale (absent outside).2.1

/-- A later client on the descriptor. -/
def succeedingRun : List Input :=
  droppedRun ++ [⟨.advance 20000000000, []⟩, ⟨.accept 5 (ascii "d"), [.ok 7, .ok 0, .again]⟩]

-- It is closed at its first event, by a start time that is not its own.
example : (reached smallSetup succeedingRun).connections.keys = {5, 7} ∧
    (reached smallSetup (succeedingRun ++ [⟨.io 5 .read, []⟩])).connections.keys = ∅ := by decide +kernel

end Runs

end Balancer.Guarantees
