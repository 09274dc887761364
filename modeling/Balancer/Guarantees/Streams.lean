import Balancer.Guarantees.Registry
import Balancer.Traffic.Copying

/-! The streams of a pair in buffered TCP mode. What was read from one end has been written to the
other, waits in the write buffer there, or is still in the read buffer here, in this order. -/

namespace Balancer.Guarantees
open Foundation Http Net Core Registry Ledger Refinement Traffic

namespace Streams

/-- The bytes read from a descriptor. -/
def takenOn (sockets : FiniteMap Fd Socket) (fd : Fd) : Bytes := ((sockets.find fd).map Socket.taken).getD []

/-- The bytes read from the source are those on their way to the target and those that have arrived there. -/
def Flows (sockets : FiniteMap Fd Socket) (source target : Connection) : Prop :=
  takenOn sockets source.fd = sentOn sockets target.fd ++ target.writeBuf ++ source.readBuf

/-- What was read from the connection is in its read buffer, and nothing was given to it to send. -/
structure Unused (sockets : FiniteMap Fd Socket) (conn : Connection) : Prop where
  taken : takenOn sockets conn.fd = conn.readBuf
  sent : sentOn sockets conn.fd = []
  drained : conn.writeBuf = []

/-- Nothing has gone through the descriptor. -/
structure Untouched (sockets : FiniteMap Fd Socket) (fd : Fd) : Prop where
  taken : takenOn sockets fd = []
  sent : sentOn sockets fd = []

/-- The read buffer is no longer than it may be, and the flag says whether it is full. -/
structure Bounded (conn : Connection) : Prop where
  fits : conn.readBuf.length ≤ maxBufferSize
  full : conn.bufferFull = decide (maxBufferSize ≤ conn.readBuf.length)

/-- The connect or the handshake is still under way. -/
def Early (conn : Connection) : Prop := conn.state = .connecting ∨ conn.state = .handshake

section Parts
variable {sockets changed : FiniteMap Fd Socket} {conn : Connection} {fd : Fd}

theorem takenOn_congr (same : changed.find fd = sockets.find fd) : takenOn changed fd = takenOn sockets fd := by
  unfold takenOn
  rw [same]

theorem sentOn_congr (same : changed.find fd = sockets.find fd) : sentOn changed fd = sentOn sockets fd := by
  unfold sentOn
  rw [same]

theorem takenOn_insert (socket : Socket) : takenOn (sockets.insert fd socket) fd = socket.taken := by
  simp [takenOn]

theorem sentOn_insert (socket : Socket) : sentOn (sockets.insert fd socket) fd = socket.sent := by
  simp [sentOn]

theorem takenOn_eq {socket : Socket} (found : sockets.find fd = some socket) : takenOn sockets fd = socket.taken := by
  simp [takenOn, found]

theorem sentOn_eq {socket : Socket} (found : sockets.find fd = some socket) : sentOn sockets fd = socket.sent := by
  simp [sentOn, found]

theorem Unused.congr (unused : Unused sockets conn) (same : changed.find conn.fd = sockets.find conn.fd) :
    Unused changed conn :=
  ⟨(takenOn_congr same).trans unused.taken, (sentOn_congr same).trans unused.sent, unused.drained⟩

theorem Untouched.congr (untouched : Untouched sockets fd) (same : changed.find fd = sockets.find fd) :
    Untouched changed fd :=
  ⟨(takenOn_congr same).trans untouched.taken, (sentOn_congr same).trans untouched.sent⟩

/-- A connection that begins on a descriptor without traffic. -/
theorem Untouched.unused (untouched : Untouched sockets conn.fd) (readEmpty : conn.readBuf = [])
    (writeEmpty : conn.writeBuf = []) : Unused sockets conn :=
  ⟨untouched.taken.trans readEmpty.symm, untouched.sent, writeEmpty⟩

theorem Untouched.of_insert {socket : Socket} (taken : socket.taken = []) (sent : socket.sent = []) :
    Untouched (sockets.insert fd socket) fd :=
  ⟨(takenOn_insert socket).trans taken, (sentOn_insert socket).trans sent⟩

theorem Bounded.of_empty (readEmpty : conn.readBuf = []) (flag : conn.bufferFull = false) : Bounded conn := by
  refine ⟨by simp [readEmpty], ?_⟩
  rw [flag, readEmpty]
  rfl

end Parts

/-- The streams of all the pairs are intact. The other fields are about connections that may still become
half of a pair. -/
structure Streaming (connections : FiniteMap Fd Connection) (sockets : FiniteMap Fd Socket)
    (hand : Multiset Connection) (waiting : Multiset Fd) (idle : Multiset Connection) : Prop where
  flows : ∀ {fd peer conn other}, connections.find fd = some conn → conn.peer = some peer →
    connections.find peer = some other → Flows sockets conn other
  early : ∀ {fd conn}, connections.find fd = some conn → Early conn → Unused sockets conn
  bounded : ∀ {fd conn}, connections.find fd = some conn → Bounded conn
  held : ∀ conn ∈ hand, Unused sockets conn ∧ Bounded conn
  queued : ∀ fd ∈ waiting, Untouched sockets fd
  resting : ∀ conn ∈ idle, conn.bufferFull = false

/-- The streams of a registry. -/
def Streamed (ledger : Ledger) : Prop :=
  Streaming ledger.connections ledger.sockets ledger.hand ledger.waiting ledger.idle

namespace Streamed
variable {ledger next : Ledger}

/-- A descriptor has carried what it had carried before. -/
abbrev Agrees (ledger next : Ledger) (fd : Fd) : Prop := next.sockets.find fd = ledger.sockets.find fd

/-- A connection that is in no pair, and has not begun. -/
structure Lone (next : Ledger) (conn : Connection) : Prop where
  alone : conn.peer = none
  early : Early conn → Unused next.sockets conn
  bounded : Bounded conn

/-- Connections come and go, and no pair is touched that stays. -/
theorem frame (streaming : Streamed ledger) (sound : Sound ledger) (after : Sound next)
    (each : ∀ {fd conn}, next.connections.find fd = some conn →
      ledger.connections.find fd = some conn ∧ Agrees ledger next fd ∨ Lone next conn)
    (held : ∀ conn ∈ next.hand, conn ∈ ledger.hand ∧ Agrees ledger next conn.fd ∨ Unused next.sockets conn ∧ Bounded conn)
    (queued : ∀ fd ∈ next.waiting, fd ∈ ledger.waiting ∧ Agrees ledger next fd ∨ Untouched next.sockets fd)
    (resting : ∀ conn ∈ next.idle, conn ∈ ledger.idle ∨ conn.bufferFull = false) : Streamed next where
  flows {fd peer conn other} found linked there := by
    have kept {fd peer : Fd} {conn : Connection} (found : next.connections.find fd = some conn)
        (linked : conn.peer = some peer) : ledger.connections.find fd = some conn ∧ Agrees ledger next fd := by
      refine (each found).resolve_right fun lone => ?_
      rw [lone.alone] at linked
      cases linked
    obtain ⟨same, also, back, _⟩ := peer_spec after found linked
    cases there.symm.trans also
    obtain ⟨one, oneSocket⟩ := kept found linked
    obtain ⟨two, twoSocket⟩ := kept there back
    have flows := streaming.flows one linked two
    unfold Flows at flows ⊢
    have oneFd := (sound.tables.proper _ _ one).sameFd
    have twoFd := (sound.tables.proper _ _ two).sameFd
    rw [takenOn_congr (oneFd.symm ▸ oneSocket), sentOn_congr (twoFd.symm ▸ twoSocket)]
    exact flows
  early found early := by
    rcases each found with ⟨old, socket⟩ | lone
    · have same := (sound.tables.proper _ _ old).sameFd
      exact (streaming.early old early).congr (same.symm ▸ socket)
    · exact lone.early early
  bounded found := by
    rcases each found with ⟨old, _⟩ | lone
    · exact streaming.bounded old
    · exact lone.bounded
  held conn member := by
    rcases held conn member with ⟨old, socket⟩ | new
    · exact ⟨(streaming.held conn old).1.congr socket, (streaming.held conn old).2⟩
    · exact new
  queued fd member := by
    rcases queued fd member with ⟨old, socket⟩ | new
    · exact (streaming.queued fd old).congr socket
    · exact new
  resting conn member := by
    rcases resting conn member with old | new
    · exact streaming.resting conn old
    · exact new

/-- The others keep their sockets when one owner leaves. -/
theorem agrees_of_erase (sound : Sound ledger) {gone fd : Fd} (owners : ledger.owners = gone ::ₘ next.owners)
    (sockets : next.sockets = ledger.sockets.erase gone) (owned : fd ∈ next.owners) : Agrees ledger next fd := by
  have nodup := sound.owned.nodup
  rw [owners] at nodup
  have away : fd ≠ gone := fun same => (Multiset.nodup_cons.mp nodup).1 (same ▸ owned)
  unfold Agrees
  rw [sockets, FiniteMap.find_erase, if_neg away]

/-- A new descriptor is nobody's. -/
theorem agrees_of_new (sound : Sound ledger) {new fd : Fd} {socket : Socket} (closed : ledger.sockets.find new = none)
    (owned : fd ∈ ledger.owners) : (ledger.sockets.insert new socket).find fd = ledger.sockets.find fd := by
  refine FiniteMap.find_insert_ne _ _ fun same => ?_
  have isOpen := sound.owned.isOpen fd owned
  rw [same, closed] at isOpen
  cases isOpen

theorem found_of_erase {connections : FiniteMap Fd Connection} {gone fd : Fd} {conn : Connection}
    (there : (connections.erase gone).find fd = some conn) : connections.find fd = some conn := by
  rw [FiniteMap.find_erase] at there
  split at there
  · cases there
  · exact there

theorem owned_registered {fd : Fd} {conn : Connection} (found : next.connections.find fd = some conn) :
    fd ∈ next.owners := by
  have known := FiniteMap.mem_keys_of_find found
  simp only [owners, Multiset.mem_add]
  exact Or.inl (Or.inl (Or.inl (Or.inl known)))

theorem owned_held {conn : Connection} (member : conn ∈ next.hand) : conn.fd ∈ next.owners :=
  Multiset.mem_add.mpr (Or.inr (Multiset.mem_map_of_mem _ member))

theorem owned_waiting {fd : Fd} (member : fd ∈ next.waiting) : fd ∈ next.owners := by
  simp only [owners, Multiset.mem_add]
  exact Or.inl (Or.inl (Or.inr member))

/-- One descriptor is closed; its peer may be left alone. -/
theorem closes (streaming : Streamed ledger) (sound : Sound ledger) (after : Sound next) {gone : Fd}
    (owners : ledger.owners = gone ::ₘ next.owners) (sockets : next.sockets = ledger.sockets.erase gone)
    (each : ∀ {fd conn}, next.connections.find fd = some conn →
      ledger.connections.find fd = some conn ∨ Lone next conn)
    (held : ∀ conn ∈ next.hand, conn ∈ ledger.hand ∨ Unused ledger.sockets conn ∧ Bounded conn)
    (queued : ∀ fd ∈ next.waiting, fd ∈ ledger.waiting) (resting : ∀ conn ∈ next.idle, conn ∈ ledger.idle) :
    Streamed next := by
  have agrees {fd : Fd} (owned : fd ∈ next.owners) : Agrees ledger next fd := agrees_of_erase sound owners sockets owned
  refine streaming.frame sound after (fun found => ?_) (fun conn member => ?_)
    (fun fd member => Or.inl ⟨queued fd member, agrees (owned_waiting member)⟩)
    fun conn member => Or.inl (resting conn member)
  · exact (each found).imp (fun old => ⟨old, agrees (owned_registered found)⟩) id
  · rcases held conn member with old | new
    · exact Or.inl ⟨old, agrees (owned_held member)⟩
    · exact Or.inr ⟨new.1.congr (agrees (owned_held member)), new.2⟩

/-- Of one registered connection the buffers change, and what went through its socket: `more` was read, and
what was given to it to send is the same. -/
theorem replace (streaming : Streamed ledger) (sound : Sound ledger) {fd : Fd} {conn changed : Connection}
    {sockets : FiniteMap Fd Socket} (found : ledger.connections.find fd = some conn) (more : Bytes)
    (sameFd : changed.fd = conn.fd) (samePeer : changed.peer = conn.peer) (state : Early changed → Early conn)
    (elsewhere : ∀ other, other ≠ fd → sockets.find other = ledger.sockets.find other)
    (taken : takenOn sockets fd = takenOn ledger.sockets fd ++ more) (read : changed.readBuf = conn.readBuf ++ more)
    (given : sentOn sockets fd ++ changed.writeBuf = sentOn ledger.sockets fd ++ conn.writeBuf)
    (bounded : Bounded changed) :
    Streaming (ledger.connections.insert fd changed) sockets ledger.hand ledger.waiting ledger.idle := by
  have connFd := (sound.tables.proper fd conn found).sameFd
  have changedFd : changed.fd = fd := sameFd.trans connFd
  have kept {other : Fd} {entry : Connection} (there : (ledger.connections.insert fd changed).find other = some entry)
      (different : other ≠ fd) : ledger.connections.find other = some entry ∧ entry.fd ≠ fd := by
    rw [FiniteMap.find_insert_ne _ _ different] at there
    exact ⟨there, (sound.tables.proper _ _ there).sameFd ▸ different⟩
  have here {entry : Connection} (there : (ledger.connections.insert fd changed).find fd = some entry) :
      changed = entry := by
    rw [FiniteMap.find_insert_self] at there
    exact Option.some.inj there
  refine ⟨?_, ?_, ?_, ?_, ?_, streaming.resting⟩
  · intro first second one other one' linked other'
    by_cases isFirst : first = fd
    · subst isFirst
      obtain rfl := here one'
      obtain ⟨_, there, _, different, _⟩ := peer_spec sound found (samePeer ▸ linked)
      obtain ⟨old, away⟩ := kept other' different.symm
      have flows := streaming.flows found (samePeer ▸ linked) old
      unfold Flows at flows ⊢
      rw [connFd] at flows
      rw [changedFd, taken, flows, read, sentOn_congr (elsewhere _ away)]
      simp only [List.append_assoc]
    · obtain ⟨old, away⟩ := kept one' isFirst
      by_cases isSecond : second = fd
      · subst isSecond
        obtain rfl := here other'
        have flows := streaming.flows old linked found
        unfold Flows at flows ⊢
        rw [connFd, ← given] at flows
        rw [changedFd, takenOn_congr (elsewhere _ away)]
        exact flows
      · obtain ⟨oldOther, awayOther⟩ := kept other' isSecond
        have flows := streaming.flows old linked oldOther
        unfold Flows at flows ⊢
        rw [takenOn_congr (elsewhere _ away), sentOn_congr (elsewhere _ awayOther)]
        exact flows
  · intro other entry there early
    by_cases isHere : other = fd
    · subst isHere
      obtain rfl := here there
      have unused := streaming.early found (state early)
      have none : sentOn sockets other ++ changed.writeBuf = [] := by
        rw [given, ← connFd, unused.sent, unused.drained, List.append_nil]
      obtain ⟨noneSent, noneLeft⟩ := List.append_eq_nil_iff.mp none
      refine ⟨?_, changedFd.symm ▸ noneSent, noneLeft⟩
      rw [changedFd, taken, read, ← connFd, unused.taken]
    · obtain ⟨old, away⟩ := kept there isHere
      exact (streaming.early old early).congr (elsewhere _ away)
  · intro other entry there
    by_cases isHere : other = fd
    · subst isHere
      obtain rfl := here there
      exact bounded
    · exact streaming.bounded (kept there isHere).1
  · intro conn member
    obtain ⟨unused, bounds⟩ := streaming.held conn member
    exact ⟨unused.congr (elsewhere _ (sound.notHeld found conn member)), bounds⟩
  · intro other member
    refine (streaming.queued other member).congr (elsewhere other fun same => ?_)
    have free := sound.free_of_waiting member
    rw [same, found] at free
    cases free

/-- What the sockets have carried is all that counts of them. -/
theorem resocket (streaming : Streamed ledger) {sockets : FiniteMap Fd Socket}
    (taken : ∀ fd, takenOn sockets fd = takenOn ledger.sockets fd)
    (sent : ∀ fd, sentOn sockets fd = sentOn ledger.sockets fd) :
    Streaming ledger.connections sockets ledger.hand ledger.waiting ledger.idle := by
  have unused {conn : Connection} (old : Unused ledger.sockets conn) : Unused sockets conn :=
    ⟨(taken conn.fd).trans old.taken, (sent conn.fd).trans old.sent, old.drained⟩
  refine ⟨?_, ?_, streaming.bounded, ?_, ?_, streaming.resting⟩
  · intro fd peer conn other found linked there
    have flows := streaming.flows found linked there
    unfold Flows at flows ⊢
    rw [taken, sent]
    exact flows
  · intro fd conn found early
    exact unused (streaming.early found early)
  · intro conn member
    exact ⟨unused (streaming.held conn member).1, (streaming.held conn member).2⟩
  · intro fd member
    have old := streaming.queued fd member
    exact ⟨(taken fd).trans old.taken, (sent fd).trans old.sent⟩

/-- A socket is changed, but not in what it has carried. -/
theorem resocket_insert (streaming : Streamed ledger) {fd : Fd} {socket changed : Socket}
    (found : ledger.sockets.find fd = some socket) (taken : changed.taken = socket.taken)
    (sent : changed.sent = socket.sent) :
    Streaming ledger.connections (ledger.sockets.insert fd changed) ledger.hand ledger.waiting ledger.idle := by
  refine streaming.resocket (fun other => ?_) fun other => ?_
  · by_cases here : other = fd
    · rw [here, takenOn_insert, takenOn_eq found, taken]
    · exact takenOn_congr (FiniteMap.find_insert_ne _ _ here)
  · by_cases here : other = fd
    · rw [here, sentOn_insert, sentOn_eq found, sent]
    · exact sentOn_congr (FiniteMap.find_insert_ne _ _ here)

/-- The first bytes of the read buffer go to the end of the peer's write buffer. -/
theorem transfer (streaming : Streamed ledger) (sound : Sound ledger) {source target : Fd} {sender receiver : Connection}
    (count : Nat) {full : Bool} (sending : ledger.connections.find source = some sender)
    (receiving : ledger.connections.find target = some receiver) (peers : sender.peer = some target)
    (senderUp : sender.state = .established) (receiverUp : receiver.state = .established)
    (flag : full = (sender.bufferFull && decide (maxBufferSize ≤ (sender.readBuf.drop count).length))) :
    Streaming ((ledger.connections.insert target
        { receiver with writeBuf := receiver.writeBuf ++ sender.readBuf.take count }).insert source
        { sender with readBuf := sender.readBuf.drop count, bufferFull := full })
      ledger.sockets ledger.hand ledger.waiting ledger.idle := by
  obtain ⟨other, there, back, different, _⟩ := peer_spec sound sending peers
  cases receiving.symm.trans there
  let drained : Connection := { sender with readBuf := sender.readBuf.drop count, bufferFull := full }
  let filled : Connection := { receiver with writeBuf := receiver.writeBuf ++ sender.readBuf.take count }
  have now {fd : Fd} {conn : Connection}
      (found : ((ledger.connections.insert target filled).insert source drained).find fd = some conn) :
      fd = source ∧ conn = drained ∨ fd = target ∧ conn = filled ∨
        fd ≠ source ∧ fd ≠ target ∧ ledger.connections.find fd = some conn := by
    by_cases isSource : fd = source
    · rw [isSource, FiniteMap.find_insert_self] at found
      exact Or.inl ⟨isSource, (Option.some.inj found).symm⟩
    · rw [FiniteMap.find_insert_ne _ _ isSource] at found
      by_cases isTarget : fd = target
      · rw [isTarget, FiniteMap.find_insert_self] at found
        exact Or.inr (Or.inl ⟨isTarget, (Option.some.inj found).symm⟩)
      · rw [FiniteMap.find_insert_ne _ _ isTarget] at found
        exact Or.inr (Or.inr ⟨isSource, isTarget, found⟩)
  have late {conn : Connection} (up : conn.state = .established) : ¬Early conn := by simp [Early, up]
  refine ⟨?_, ?_, ?_, streaming.held, streaming.queued, streaming.resting⟩
  · intro fd peer conn other found linked found'
    rcases now found with ⟨rfl, rfl⟩ | ⟨rfl, rfl⟩ | ⟨notSource, notTarget, old⟩
    · obtain rfl : target = peer := Option.some.inj (peers.symm.trans linked)
      rw [FiniteMap.find_insert_ne _ _ different.symm, FiniteMap.find_insert_self] at found'
      obtain rfl := Option.some.inj found'
      have flows := streaming.flows sending peers receiving
      unfold Flows at flows ⊢
      change takenOn ledger.sockets sender.fd = sentOn ledger.sockets receiver.fd ++
        (receiver.writeBuf ++ sender.readBuf.take count) ++ sender.readBuf.drop count
      rw [flows, List.append_assoc, List.append_assoc, List.append_assoc, List.take_append_drop]
    · obtain rfl : source = peer := Option.some.inj (back.symm.trans linked)
      rw [FiniteMap.find_insert_self] at found'
      obtain rfl := Option.some.inj found'
      have flows := streaming.flows receiving back sending
      exact flows
    · obtain ⟨_, peerFound, peerBack, _⟩ := peer_spec sound old linked
      rcases now found' with ⟨rfl, rfl⟩ | ⟨rfl, rfl⟩ | ⟨_, _, oldOther⟩
      · cases sending.symm.trans peerFound
        exact absurd (Option.some.inj (peerBack.symm.trans peers)) notTarget
      · cases receiving.symm.trans peerFound
        exact absurd (Option.some.inj (peerBack.symm.trans back)) notSource
      · exact streaming.flows old linked oldOther
  · intro fd conn found early
    rcases now found with ⟨_, rfl⟩ | ⟨_, rfl⟩ | ⟨_, _, old⟩
    · exact absurd early (late senderUp)
    · exact absurd early (late receiverUp)
    · exact streaming.early old early
  · intro fd conn found
    rcases now found with ⟨_, rfl⟩ | ⟨_, rfl⟩ | ⟨_, _, old⟩
    · have before := streaming.bounded sending
      refine ⟨?_, ?_⟩
      · exact le_trans (by simp [drained]) before.fits
      · change full = decide (maxBufferSize ≤ (sender.readBuf.drop count).length)
        rw [flag, before.full, ← Bool.decide_and]
        refine decide_eq_decide.mpr ⟨And.right, fun room => ⟨?_, room⟩⟩
        exact room.trans (by simp)
    · have before := streaming.bounded receiving
      exact ⟨before.fits, before.full⟩
    · exact streaming.bounded old

/-- The backend of a pair has left, and its client is alone. -/
theorem each_unlink (streaming : Streamed ledger) (sound : Sound ledger) {backend client : Connection} {id : NodeId}
    (linked : Linked ledger backend client id) {fd : Fd} {conn : Connection}
    (found : (ledger.unlink backend client id).connections.find fd = some conn) :
    ledger.connections.find fd = some conn ∧ fd ≠ backend.fd ∨ Lone next conn := by
  have different := sound.linked_ne linked
  unfold Ledger.unlink at found
  dsimp only at found
  by_cases isClient : fd = client.fd
  · rw [isClient, FiniteMap.find_insert_self] at found
    obtain rfl := Option.some.inj found
    have up := (sound.linked_spec linked).2.2.1
    have bounds := streaming.bounded linked.clientFound
    exact Or.inr ⟨rfl, fun early => by simp [Early, up] at early, ⟨bounds.fits, bounds.full⟩⟩
  · rw [FiniteMap.find_insert_ne _ _ isClient] at found
    have away : fd ≠ backend.fd := fun same => by simp [same] at found
    exact Or.inl ⟨by simpa [away] using found, away⟩

/-- The client of a backend that has not connected has received nothing and sent nothing on. -/
theorem unused_client (streaming : Streamed ledger) (sound : Sound ledger) {backend client : Connection} {id : NodeId}
    (linked : Linked ledger backend client id) (connecting : backend.state = .connecting) :
    Unused ledger.sockets { client with peer := none } := by
  obtain ⟨backendPeer, clientPeer, _⟩ := sound.linked_spec linked
  have fresh := streaming.early linked.backendFound (Or.inl connecting)
  have there := streaming.flows linked.clientFound clientPeer linked.backendFound
  have back := streaming.flows linked.backendFound backendPeer linked.clientFound
  unfold Flows at there back
  rw [fresh.sent, fresh.drained] at there
  rw [fresh.taken] at back
  have none : sentOn ledger.sockets client.fd ++ client.writeBuf = [] := by
    refine List.eq_nil_of_length_eq_zero ?_
    have size := congrArg List.length back
    simp only [List.length_append] at size ⊢
    omega
  obtain ⟨sent, drained⟩ := List.append_eq_nil_iff.mp none
  exact ⟨there, sent, drained⟩

theorem move (streaming : Streamed ledger) (sound : Sound ledger) (stream : ledger.http = false)
    (buffered : ledger.splice = false) (step : Move ledger next) : Streamed next := by
  have after := sound.move step
  cases step with
  | touch blocked tls found =>
    exact streaming.replace sound found [] rfl rfl id (fun _ _ => rfl) (List.append_nil _).symm
      (List.append_nil _).symm rfl ⟨(streaming.bounded found).fits, (streaming.bounded found).full⟩
  | @read fd conn socket data rest budget found isOpen queue fits charged =>
    refine streaming.replace sound found data rfl rfl id (fun _ away => FiniteMap.find_insert_ne _ _ away) ?_ rfl ?_
      ⟨?_, rfl⟩
    · rw [takenOn_insert, takenOn_eq isOpen]
    · rw [sentOn_insert, sentOn_eq isOpen]
    · simpa using fits
  | miss blocked budget found charged =>
    exact streaming.replace sound found [] rfl rfl id (fun _ _ => rfl) (List.append_nil _).symm
      (List.append_nil _).symm rfl ⟨(streaming.bounded found).fits, rfl⟩
  | write count found isOpen most =>
    refine streaming.replace sound found [] rfl rfl id (fun _ away => FiniteMap.find_insert_ne _ _ away) ?_
      (List.append_nil _).symm ?_ ⟨(streaming.bounded found).fits, (streaming.bounded found).full⟩
    · rw [takenOn_insert, takenOn_eq isOpen, List.append_nil]
    · rw [sentOn_insert, sentOn_eq isOpen, List.append_assoc, List.take_append_drop]
  | transfer count full sending receiving peers senderUp receiverUp most room flag =>
    exact streaming.transfer sound count sending receiving peers senderUp receiverUp (flag buffered)
  | rewrite message blocked budget http found charged => simp [stream] at http
  | shutdown found isOpen => exact streaming.resocket_insert isOpen rfl rfl
  | establish linked connecting =>
    exact streaming.replace sound linked.backendFound [] rfl rfl (by simp [Early]) (fun _ _ => rfl)
      (List.append_nil _).symm (List.append_nil _).symm rfl
      ⟨(streaming.bounded linked.backendFound).fits, (streaming.bounded linked.backendFound).full⟩
  | @closeBackend backend client node linked =>
    exact streaming.closes sound after (Sound.owners_unlink linked (sound.linked_ne linked)) rfl
      (fun found => (streaming.each_unlink sound linked found).imp And.left id) (fun conn member => Or.inl member)
      (fun _ member => member) fun _ member => member
  | @poolBackend backend client node socket linked isOpen =>
    have elsewhere {fd : Fd} (away : fd ≠ backend.fd) :
        (ledger.sockets.insert backend.fd (closedExchange backend socket)).find fd = ledger.sockets.find fd :=
      FiniteMap.find_insert_ne _ _ away
    refine streaming.frame sound after (fun found => ?_) (fun conn member => ?_) (fun fd member => ?_)
      fun conn member => ?_
    · exact (streaming.each_unlink sound linked found).imp (fun old => ⟨old.1, elsewhere old.2⟩) id
    · exact Or.inl ⟨member, elsewhere (sound.notHeld linked.backendFound conn member)⟩
    · refine Or.inl ⟨member, elsewhere fun same => ?_⟩
      have free := sound.free_of_waiting member
      rw [same, linked.backendFound] at free
      cases free
    · rcases Multiset.mem_cons.mp member with here | old
      · subst here
        exact Or.inr rfl
      · exact Or.inl old
  | @closeAlone conn found alone noBackend =>
    refine streaming.closes sound after ?_ rfl (fun there => Or.inl (found_of_erase there))
      (fun conn member => Or.inl member) (fun _ member => member) fun _ member => member
    simp only [owners, Ledger.close, FiniteMap.keys_val_erase _ found, Multiset.cons_add]
  | @takeBack backend client node linked connecting =>
    have kept : (ledger.connections.erase backend.fd).find client.fd = some client := by
      simp [sound.linked_ne linked, linked.clientFound]
    refine streaming.closes sound after ?_ rfl (fun there => Or.inl (found_of_erase (found_of_erase there)))
      (fun conn member => ?_) (fun _ member => member) fun _ member => member
    · simp only [owners, Ledger.close, Ledger.unlink, FiniteMap.keys_val_erase _ linked.backendFound, Multiset.map_cons,
        FiniteMap.keys_val_erase _ kept, Multiset.cons_add, Multiset.add_cons]
    · rcases Multiset.mem_cons.mp member with here | old
      · have bounds := streaming.bounded linked.clientFound
        exact here ▸ Or.inr ⟨streaming.unused_client sound linked connecting, ⟨bounds.fits, bounds.full⟩⟩
      · exact Or.inl old
  | @reclaim conn found shaking =>
    refine streaming.frame sound after (fun there => Or.inl ⟨found_of_erase there, rfl⟩) (fun other member => ?_)
      (fun fd member => Or.inl ⟨member, rfl⟩) fun conn member => Or.inl member
    rcases Multiset.mem_cons.mp member with here | old
    · have unused := streaming.early found (Or.inr shaking)
      have bounds := streaming.bounded found
      subst here
      exact Or.inr ⟨⟨unused.taken, unused.sent, unused.drained⟩, ⟨bounds.fits, bounds.full⟩⟩
    · exact Or.inl ⟨old, rfl⟩
  | @drop conn rest held =>
    refine streaming.closes sound after ?_ rfl (fun there => Or.inl there) (fun other member => Or.inl ?_)
      (fun _ member => member) fun _ member => member
    · simp only [owners, Ledger.close, held, Multiset.map_cons, Multiset.add_cons]
    · rw [held]
      exact Multiset.mem_cons_of_mem member
  | @create fd state connected new bound ready =>
    have elsewhere {other : Fd} (owned : other ∈ ledger.owners) :
        (ledger.sockets.insert fd { connected := connected }).find other = ledger.sockets.find other :=
      agrees_of_new sound new owned
    refine streaming.frame sound after (fun found => Or.inl ⟨found, elsewhere (owned_registered found)⟩)
      (fun conn member => ?_) (fun other member => Or.inl ⟨member, elsewhere (owned_waiting member)⟩)
      fun conn member => Or.inl member
    rcases Multiset.mem_cons.mp member with here | old
    · subst here
      exact Or.inr ⟨⟨takenOn_insert _, sentOn_insert _, rfl⟩, .of_empty rfl rfl⟩
    · exact Or.inl ⟨old, elsewhere (owned_held old)⟩
  | @borrow conn rest socket resting isOpen =>
    have member : conn ∈ ledger.idle := by simp [resting]
    obtain ⟨_, _, _, _, readEmpty, writeEmpty⟩ := sound.resting conn member
    have elsewhere {other : Fd} (away : other ≠ conn.fd) :
        (ledger.sockets.insert conn.fd (openExchange socket)).find other = ledger.sockets.find other :=
      FiniteMap.find_insert_ne _ _ away
    refine streaming.frame sound after (fun found => Or.inl ⟨found, elsewhere fun same => ?_⟩) (fun other held => ?_)
      (fun other queued => Or.inl ⟨queued, elsewhere fun same => ?_⟩) fun other idle => Or.inl ?_
    · have free := sound.free_of_idle member
      rw [← same, found] at free
      cases free
    · rcases Multiset.mem_cons.mp held with here | old
      · subst here
        exact Or.inr ⟨⟨(takenOn_insert _).trans readEmpty.symm, sentOn_insert _, writeEmpty⟩,
          .of_empty readEmpty (streaming.resting _ member)⟩
      · exact Or.inl ⟨old, elsewhere (sound.notHeld_of_idle member other old)⟩
    · have disjoint := (Multiset.nodup_add.mp (Multiset.nodup_add.mp (Multiset.nodup_add.mp sound.owned.nodup).1).1).2.2
      refine Multiset.disjoint_left.mp disjoint ?_ queued
      rw [same]
      exact Multiset.mem_add.mpr (Or.inr (Multiset.mem_map_of_mem _ member))
    · rw [resting]
      exact Multiset.mem_cons_of_mem idle
  | @evict conn rest resting =>
    refine streaming.closes sound after ?_ rfl (fun there => Or.inl there) (fun other member => Or.inl member)
      (fun _ member => member) fun other member => ?_
    · simp only [owners, Ledger.close, resting, Multiset.map_cons, Multiset.add_cons, Multiset.cons_add]
    · rw [resting]
      exact Multiset.mem_cons_of_mem member
  | @accept fd address new bound =>
    have elsewhere {other : Fd} (owned : other ∈ ledger.owners) :
        (ledger.sockets.insert fd { address := address, connected := true }).find other = ledger.sockets.find other :=
      agrees_of_new sound new owned
    refine streaming.frame sound after (fun found => Or.inl ⟨found, elsewhere (owned_registered found)⟩)
      (fun conn member => Or.inl ⟨member, elsewhere (owned_held member)⟩) (fun other member => ?_)
      fun conn member => Or.inl member
    rcases Multiset.mem_cons.mp member with here | old
    · exact Or.inr (here ▸ .of_insert rfl rfl)
    · exact Or.inl ⟨old, elsewhere (owned_waiting old)⟩
  | @turnAway fd rest queued =>
    refine streaming.closes sound after ?_ rfl (fun there => Or.inl there) (fun other member => Or.inl member)
      (fun other member => ?_) fun _ member => member
    · simp only [owners, queued, Multiset.add_cons, Multiset.cons_add]
    · rw [queued]
      exact Multiset.mem_cons_of_mem member
  | @enlist fd rest queued =>
    refine streaming.frame sound after (fun found => Or.inl ⟨found, rfl⟩) (fun conn member => ?_)
      (fun other member => Or.inl ⟨?_, rfl⟩) fun conn member => Or.inl member
    · rcases Multiset.mem_cons.mp member with here | old
      · subst here
        exact Or.inr ⟨(streaming.queued fd (by simp [queued])).unused rfl rfl, .of_empty rfl rfl⟩
      · exact Or.inl ⟨old, rfl⟩
    · rw [queued]
      exact Multiset.mem_cons_of_mem member
  | @openPipe first second new other different bound otherBound =>
    have elsewhere {fd : Fd} (owned : fd ∈ ledger.owners) :
        ((ledger.sockets.insert first {}).insert second {}).find fd = ledger.sockets.find fd := by
      have isOpen := sound.owned.isOpen fd owned
      have notFirst : fd ≠ first := fun same => by simp [same, new] at isOpen
      have notSecond : fd ≠ second := fun same => by simp [same, other] at isOpen
      rw [FiniteMap.find_insert_ne _ _ notSecond, FiniteMap.find_insert_ne _ _ notFirst]
    exact streaming.frame sound after (fun found => Or.inl ⟨found, elsewhere (owned_registered found)⟩)
      (fun conn member => Or.inl ⟨member, elsewhere (owned_held member)⟩)
      (fun fd member => Or.inl ⟨member, elsewhere (owned_waiting member)⟩) fun conn member => Or.inl member
  | @closePipes rest gone split =>
    have owners : ledger.owners = gone + Ledger.owners { ledger with
        sockets := ledger.sockets.filter fun fd _ => fd ∉ gone, pipes := rest } := by
      simp only [owners, split]
      abel
    have nodup := sound.owned.nodup
    rw [owners] at nodup
    have elsewhere {fd : Fd} (owned : fd ∈ Ledger.owners { ledger with
        sockets := ledger.sockets.filter fun fd _ => fd ∉ gone, pipes := rest }) :
        (ledger.sockets.filter fun fd _ => fd ∉ gone).find fd = ledger.sockets.find fd := by
      have away : fd ∉ gone := fun member => Multiset.disjoint_left.mp (Multiset.nodup_add.mp nodup).2.2 member owned
      cases found : ledger.sockets.find fd <;> simp [found, away]
    exact streaming.frame sound after (fun found => Or.inl ⟨found, elsewhere (owned_registered found)⟩)
      (fun conn member => Or.inl ⟨member, elsewhere (owned_held member)⟩)
      (fun fd member => Or.inl ⟨member, elsewhere (owned_waiting member)⟩) fun conn member => Or.inl member
  | splice taken sent rest spliced found isOpen queue => simp [buffered] at spliced
  | _ => exact streaming

/-- Two connections through which nothing has gone become a pair. -/
theorem install (streaming : Streamed ledger) (sound : Sound ledger) {backend client : Connection}
    {rest : Multiset Connection} (held : ledger.hand = client ::ₘ backend ::ₘ rest) (fresh : backend.readBuf = []) :
    Streaming ((ledger.connections.insert client.fd { client with peer := some backend.fd }).insert backend.fd
      { backend with peer := some client.fd }) ledger.sockets rest ledger.waiting ledger.idle := by
  have heldClient : client ∈ ledger.hand := by simp [held]
  have heldBackend : backend ∈ ledger.hand := by simp [held]
  have different := sound.hand_ne held
  obtain ⟨unusedClient, boundsClient⟩ := streaming.held client heldClient
  obtain ⟨unusedBackend, boundsBackend⟩ := streaming.held backend heldBackend
  let client' : Connection := { client with peer := some backend.fd }
  let backend' : Connection := { backend with peer := some client.fd }
  have now {fd : Fd} {conn : Connection}
      (found : ((ledger.connections.insert client.fd client').insert backend.fd backend').find fd = some conn) :
      fd = client.fd ∧ conn = client' ∨ fd = backend.fd ∧ conn = backend' ∨ ledger.connections.find fd = some conn := by
    by_cases isBackend : fd = backend.fd
    · rw [isBackend, FiniteMap.find_insert_self] at found
      exact Or.inr (Or.inl ⟨isBackend, (Option.some.inj found).symm⟩)
    · rw [FiniteMap.find_insert_ne _ _ isBackend] at found
      by_cases isClient : fd = client.fd
      · rw [isClient, FiniteMap.find_insert_self] at found
        exact Or.inl ⟨isClient, (Option.some.inj found).symm⟩
      · rw [FiniteMap.find_insert_ne _ _ isClient] at found
        exact Or.inr (Or.inr found)
  refine ⟨?_, ?_, ?_, ?_, streaming.queued, streaming.resting⟩
  · intro fd peer conn other found linked found'
    rcases now found with ⟨rfl, rfl⟩ | ⟨rfl, rfl⟩ | old
    · obtain rfl : backend.fd = peer := Option.some.inj linked
      rw [FiniteMap.find_insert_self] at found'
      obtain rfl := Option.some.inj found'
      change takenOn ledger.sockets client.fd = sentOn ledger.sockets backend.fd ++ backend.writeBuf ++ client.readBuf
      rw [unusedClient.taken, unusedBackend.sent, unusedBackend.drained]
      rfl
    · obtain rfl : client.fd = peer := Option.some.inj linked
      rw [FiniteMap.find_insert_ne _ _ different, FiniteMap.find_insert_self] at found'
      obtain rfl := Option.some.inj found'
      change takenOn ledger.sockets backend.fd = sentOn ledger.sockets client.fd ++ client.writeBuf ++ backend.readBuf
      rw [unusedBackend.taken, unusedClient.sent, unusedClient.drained, fresh]
      rfl
    · obtain ⟨there, oldPeer, _⟩ := peer_spec sound old linked
      have registered {held : Connection} (member : held ∈ ledger.hand) (same : peer = held.fd) : False := by
        have free := sound.free_of_hand member
        rw [← same, oldPeer] at free
        cases free
      rcases now found' with ⟨same, _⟩ | ⟨same, _⟩ | oldOther
      · exact (registered heldClient same).elim
      · exact (registered heldBackend same).elim
      · exact streaming.flows old linked oldOther
  · intro fd conn found early
    rcases now found with ⟨_, rfl⟩ | ⟨_, rfl⟩ | old
    · exact ⟨unusedClient.taken, unusedClient.sent, unusedClient.drained⟩
    · exact ⟨unusedBackend.taken, unusedBackend.sent, unusedBackend.drained⟩
    · exact streaming.early old early
  · intro fd conn found
    rcases now found with ⟨_, rfl⟩ | ⟨_, rfl⟩ | old
    · exact ⟨boundsClient.fits, boundsClient.full⟩
    · exact ⟨boundsBackend.fits, boundsBackend.full⟩
    · exact streaming.bounded old
  · intro conn member
    exact streaming.held conn (by simp [held, member])

/-- An accepted client enters the registry without a peer. -/
theorem seat (streaming : Streamed ledger) (sound : Sound ledger) (after : Sound next) {fd : Fd} {rest : Multiset Fd}
    {conn : Connection} (queued : ledger.waiting = fd ::ₘ rest)
    (connections : next.connections = ledger.connections.insert fd conn)
    (elsewhere : ∀ other, other ≠ fd → Agrees ledger next other) (lone : Lone next conn)
    (waiting : next.waiting = rest) (hand : next.hand = ledger.hand) (idle : next.idle = ledger.idle) :
    Streamed next := by
  have waits : fd ∈ ledger.waiting := by simp [queued]
  refine streaming.frame sound after (fun {other entry} found => ?_) (fun other member => Or.inl ?_)
    (fun other member => Or.inl ?_) fun other member => Or.inl (idle ▸ member)
  · rw [connections] at found
    by_cases here : other = fd
    · rw [here, FiniteMap.find_insert_self] at found
      exact Or.inr (Option.some.inj found ▸ lone)
    · rw [FiniteMap.find_insert_ne _ _ here] at found
      exact Or.inl ⟨found, elsewhere other here⟩
  · rw [hand] at member
    exact ⟨member, elsewhere _ (sound.notHeld_of_waiting waits other member)⟩
  · rw [waiting] at member
    have nodup : ledger.waiting.Nodup :=
      (Multiset.nodup_add.mp (Multiset.nodup_add.mp (Multiset.nodup_add.mp sound.owned.nodup).1).1).2.1
    rw [queued, Multiset.nodup_cons] at nodup
    rw [queued]
    exact ⟨Multiset.mem_cons_of_mem member, elsewhere other fun same => nodup.1 (same ▸ member)⟩

theorem act (streaming : Streamed ledger) (sound : Sound ledger) (stream : ledger.http = false)
    (buffered : ledger.splice = false) (step : Act ledger next) : Streamed next := by
  have after := sound.act step
  cases step with
  | move step => exact streaming.move sound stream buffered step
  | install id held clientUp ready fresh unarmed => exact streaming.install sound held fresh
  | @seatError fd rest socket left queued =>
    exact streaming.seat sound after queued rfl (fun _ away => FiniteMap.find_insert_ne _ _ away)
      ⟨rfl, by simp [Early], .of_empty rfl rfl⟩ rfl rfl rfl
  | @seatHandshake fd rest queued =>
    have untouched := streaming.queued fd (by simp [queued])
    exact streaming.seat sound after queued rfl (fun _ _ => rfl)
      ⟨rfl, fun _ => ⟨untouched.taken, untouched.sent, rfl⟩, .of_empty rfl rfl⟩ rfl rfl rfl
  | note ending => exact streaming

end Streamed

theorem mode_move {ledger next : Ledger} (step : Move ledger next) :
    next.http = ledger.http ∧ next.splice = ledger.splice := by
  cases step <;> exact ⟨rfl, rfl⟩

theorem mode_act {ledger next : Ledger} (step : Act ledger next) :
    next.http = ledger.http ∧ next.splice = ledger.splice := by
  cases step with
  | move step => exact mode_move step
  | _ => exact ⟨rfl, rfl⟩

/-- A registry in buffered TCP mode, with its streams. -/
structure Intact (ledger : Ledger) : Prop where
  stream : ledger.http = false
  buffered : ledger.splice = false
  streaming : Streamed ledger

theorem intact_initial {setup : Setup} (tcp : setup.settings.mode = .tcp) (buffered : setup.settings.useSplice = false) :
    Intact (registry setup.initial) where
  stream := congrArg isHttp tcp
  buffered := buffered
  streaming := by
    have idle := initial_idle setup
    refine ⟨?_, ?_, ?_, ?_, ?_, ?_⟩
    · intro fd peer conn other found
      cases found
    · intro fd conn found
      cases found
    · intro fd conn found
      cases found
    · intro conn member
      exact absurd member (Multiset.notMem_zero conn)
    · intro fd member
      exact absurd member (Multiset.notMem_zero fd)
    · intro conn member
      rw [idle] at member
      exact absurd member (Multiset.notMem_zero conn)

theorem intact_reached {setup : Setup} (tcp : setup.settings.mode = .tcp) (buffered : setup.settings.useSplice = false)
    (inputs : List Input) : Intact (registry (reached setup inputs)) := by
  refine reached_invariant (intact_initial tcp buffered) ?_ ?_ inputs
  · intro ledger next step sound intact
    obtain ⟨sameHttp, sameSplice⟩ := mode_act step
    exact ⟨sameHttp.trans intact.stream, sameSplice.trans intact.buffered,
      intact.streaming.act sound intact.stream intact.buffered step⟩
  · intro ledger fd socket changed found delivered intact
    exact ⟨intact.stream, intact.buffered, intact.streaming.resocket_insert found delivered.taken delivered.sent⟩

/-- The stream from one end of a pair to the other, and the buffers of this end. -/
structure Carried (lb : LoadBalancer) (source target : Fd) (sender receiver : Connection) : Prop where
  stream : ∃ reading writing, lb.kernel.sockets.find source = some reading ∧
    lb.kernel.sockets.find target = some writing ∧ reading.taken = writing.sent ++ receiver.writeBuf ++ sender.readBuf
  readFits : sender.readBuf.length ≤ maxBufferSize
  writeFits : sender.writeBuf.length ≤ maxBufferSize
  available : sender.writeAvailable + sender.writeBuf.length = maxBufferSize
  full : sender.bufferFull = true ↔ sender.readBuf.length = maxBufferSize

/-- In buffered TCP mode, after every run, what was read from either end of a pair is what was written to the other, what
waits in its write buffer and what is left in the read buffer, and the buffers are within their bounds. -/
theorem streams_intact {setup : Setup} (tcp : setup.settings.mode = .tcp) (buffered : setup.settings.useSplice = false)
    (inputs : List Input) {source target : Fd} {sender receiver : Connection}
    (sending : (reached setup inputs).connections.find source = some sender) (peers : sender.peer = some target)
    (receiving : (reached setup inputs).connections.find target = some receiver) :
    Carried (reached setup inputs) source target sender receiver := by
  have sound := reached_sound setup inputs
  have streaming := (intact_reached tcp buffered inputs).streaming
  have room := (peer_spec sound sending peers).choose_spec.2.2.2.1
  obtain ⟨fits, flag⟩ := streaming.bounded sending
  have flows := streaming.flows sending peers receiving
  obtain ⟨reading, foundReading⟩ := sound.opened sending
  obtain ⟨writing, foundWriting⟩ := sound.opened receiving
  unfold Flows at flows
  rw [(sound.tables.proper _ _ sending).sameFd, (sound.tables.proper _ _ receiving).sameFd, takenOn_eq foundReading,
    sentOn_eq foundWriting] at flows
  refine ⟨⟨reading, writing, foundReading, foundWriting, flows⟩, fits, room, ?_, ?_⟩
  · rw [writeAvailable_eq room, Nat.sub_add_cancel room]
  · rw [flag, decide_eq_true_iff]
    exact ⟨fun most => le_antisymm fits most, fun same => same.ge⟩

/-- The client of `connectingRun` sends five bytes, its first backend fails, and the second takes four of them. -/
def retriedRun : List Input :=
  connectingRun ++ [⟨.arrive 5 0 (ascii "hello"), []⟩, ⟨.io 5 .read, [.ok 100]⟩, ⟨.io 6 .error, [.ok 7, .ok 0, .again]⟩,
    ⟨.completeConnect 7, []⟩, ⟨.io 7 .write, [.ok 0, .ok 3, .ok 0]⟩]

theorem streams_intact_retried :
    Carried (reached plainSetup retriedRun) 5 7 { fd := 5, peer := some 7, accounted := true, bytesRead := 5 }
      { fd := 7, peer := some 5, accounted := true, writeBuf := ascii "o", bytesWritten := 4 } :=
  streams_intact rfl rfl retriedRun (by decide +kernel) rfl (by decide +kernel)

end Streams

end Balancer.Guarantees
