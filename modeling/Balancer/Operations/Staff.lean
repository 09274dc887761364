import Balancer.Operations.Arrivals

/-! What the deeds leave alone of the backends. Only a join gives a client one, and only a few deeds are done to the
backends themselves. -/

namespace Balancer.Operations
open Foundation Http Net Core Registry Ledger Refinement

/-- What the notes say of the backends. -/
def Notes.staff (noted : Notes) : List NodeId × (NodeId → Option (Bytes × Nat)) × (NodeId → Option BackendState) :=
  (noted.roster, noted.names, noted.phases)

/-- The backends stay as they are, and neither a backend connection nor a connect is new. -/
structure Still (before after : LoadBalancer) : Prop where
  staff : (notes after).staff = (notes before).staff
  entries : ∀ fd id, after.backendConnections.find fd = some id → before.backendConnections.find fd = some id
  connects : ∀ fd, stateOf after fd = some .connecting → stateOf before fd = some .connecting

namespace Still
variable {before after : LoadBalancer}

theorem names (still : Still before after) : nameOf after.nodes = nameOf before.nodes :=
  congrArg (fun staff => staff.2.1) still.staff

theorem phases (still : Still before after) : phaseOf after.nodes = phaseOf before.nodes :=
  congrArg (fun staff => staff.2.2) still.staff

theorem roster (still : Still before after) : after.backendPool.backends = before.backendPool.backends :=
  congrArg Prod.fst still.staff

end Still

/-- The backend connections and the backends stay, and so do all connects. -/
theorem still_aside {before after : LoadBalancer} (staff : (notes after).staff = (notes before).staff)
    (backends : after.backendConnections = before.backendConnections)
    (connects : ∀ fd, stateOf after fd = some .connecting → stateOf before fd = some .connecting) : Still before after :=
  ⟨staff, fun _ _ entry => backends ▸ entry, connects⟩

section Deeds
variable {lb : LoadBalancer} {hand : Multiset Connection} {raw : Multiset Fd} {id : NodeId}

/-- A connection that is closed is no longer entered, nor is its peer. -/
theorem still_close (sound : Sound (view lb hand raw)) (fd : Fd) : Still lb (lb.closeConnection fd) := by
  have connects := (close_subsides sound fd).states
  cases found : lb.connections.find fd with
  | none => rw [closeConnection_missing lb found]; exact ⟨rfl, fun _ _ entry => entry, fun _ state => state⟩
  | some conn =>
    have parted : (partedNotes lb fd conn.peer).staff = (notes lb).staff := by
      unfold partedNotes
      cases conn.peer with
      | none => rfl
      | some peer => rfl
    refine ⟨(congrArg Notes.staff (notes_closeConnection sound found)).trans parted, fun other id entry => ?_,
      fun other => connects other _ (by decide)⟩
    rw [(closeConnection_finds sound found other).2] at entry
    split at entry
    · cases entry
    · exact entry

theorem still_closeBackend (sound : Sound (view lb hand raw)) {backend client : Connection}
    (linked : Linked (view lb hand raw) backend client id) : Still lb (lb.closeBackendConnectionOnly backend.fd) := by
  have noted := notes_closeBackendConnectionOnly (show lb.connections.find backend.fd = some backend from linked.backendFound)
  refine ⟨(congrArg Notes.staff noted).trans rfl, fun other id entry => ?_, fun other => ?_⟩
  · rw [(closeBackend_finds sound linked other).2] at entry
    split at entry
    · cases entry
    · exact entry
  · exact (closeBackend_subsides sound linked).states other _ (by decide)

/-- The deeds that do nothing to the backends, and give no client one. -/
def Deed.passes : Deed → Bool
  | .join _ | .joinPooled | .clean _ | .mark _ _ _ | .addBackend | .expireNode => false
  | _ => true

theorem still_step {deed : Deed} {before after : Work} (achieves : Achieves deed before after) (passes : deed.passes = true) :
    Still before.lb after.lb := by
  have sound := achieves.before
  have ends (calm : Calm deed) (fd : Fd) : stateOf after.lb fd = some .connecting → stateOf before.lb fd = some .connecting :=
    (subsides_step achieves calm).states fd _ (by decide)
  have same {lb : LoadBalancer} (same : books lb = books before.lb) (also : notes lb = notes before.lb) : Still before.lb lb :=
    still_aside ((congrArg Notes.staff also).trans rfl) (congrArg Books.backends same) fun fd =>
      (Subsides.of_same same also).states fd _ (by decide)
  have minor {scope : Scope} {lb : LoadBalancer} (minor : Minor scope before.lb lb) : Still before.lb lb := by
    obtain ⟨_, _, _, noted⟩ := minor.notes
    exact still_aside ((congrArg Notes.staff noted).trans rfl) (congrArg Books.backends minor.books) fun fd =>
      (Subsides.of_minor minor).states fd _ (by decide)
  cases achieves.done with
  | quiet books notes => exact same books notes
  | forward _ _ changes => exact minor changes
  | abandon changes => exact minor changes
  | writeClient _ changes => exact minor changes
  | writeBackend _ changes => exact minor changes
  | @stall _ fd there =>
    have starts : Minor .anything before.lb (before.lb.startBackpressure fd) := .start trivial there
    exact minor (starts.trans (.quiet rfl rfl))
  | untrack => exact still_aside rfl rfl (ends rfl)
  | close fd => exact still_close sound fd
  | @expire _ fd =>
    have counted : Sound (view (countExpiry before.lb) before.hand before.raw) := sound
    have closes := still_close counted fd
    exact ⟨closes.staff, closes.entries, ends rfl⟩
  | closeBackend linked => exact still_closeBackend sound linked
  | takeBack linked =>
    have closes := still_closeBackend sound linked
    exact ⟨closes.staff, closes.entries, ends rfl⟩
  | reclaim _ _ books notes =>
    exact still_aside ((congrArg Notes.staff notes).trans rfl) (congrArg Books.backends books) (ends rfl)
  | @establish _ backend client id linked =>
    have noted := notes_establishBackend before.lb backend.fd
    obtain ⟨_, backends, _⟩ := establish_books linked
    exact still_aside ((congrArg Notes.staff noted).trans rfl) backends (ends rfl)
  | join => cases passes
  | joinPooled => cases passes
  | @miss _ manager host port left _ refused =>
    obtain ⟨_, _, _, noted, backends⟩ := borrow_same before.lb manager host port
    rw [refused] at noted backends
    exact still_aside ((congrArg Notes.staff noted).trans rfl) backends (ends rfl)
  | drop _ books notes => exact same books notes
  | fail books notes => exact same books notes
  | refuse books notes => exact same books notes
  | greet _ _ books notes => exact still_aside ((congrArg Notes.staff notes).trans rfl) (congrArg Books.backends books) (ends rfl)
  | @seatHandshake _ _ fd _ free shown noted =>
    obtain ⟨time, noted⟩ := noted
    refine still_aside ((congrArg Notes.staff noted).trans rfl) (congrArg Books.backends shown) fun other state => ?_
    unfold stateOf at state ⊢
    rw [show outlines after.lb.connections = outlines (before.lb.connections.insert fd _) from congrArg Books.outlines shown]
      at state
    by_cases here : other = fd
    · simp [outlines, outline, here] at state
    · simpa [outlines, here] using state
  | seatError _ books notes =>
    obtain ⟨time, notes⟩ := notes
    exact still_aside ((congrArg Notes.staff notes).trans rfl) (congrArg Books.backends books) (ends rfl)
  | evict key =>
    have backends : (before.lb.evictPool key).backendConnections = before.lb.backendConnections := by
      rcases evictPool_books before.lb key with same | ⟨_, _, _, _, _, _, _, same⟩
      · exact congrArg Books.backends same
      · exact congrArg Books.backends same
    exact still_aside (congrArg Notes.staff (notes_evictPool before.lb key)) backends (ends rfl)
  | clean => cases passes
  | mark => cases passes
  | addBackend => cases passes
  | expireNode => cases passes
  | dangle => exact still_aside rfl rfl (ends rfl)

end Deeds

end Balancer.Operations
