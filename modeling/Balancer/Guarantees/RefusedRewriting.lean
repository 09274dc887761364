import Balancer.Guarantees.RepeatedRewriting
import Balancer.Guarantees.Rewriting
import Balancer.Traffic.Forwarding

/-! Forwards of a request whose rewriting finds no memory. The parser keeps the request as it was rewritten and stays
complete, so that the next forward rewrites it once more. -/

namespace Balancer.Guarantees
open Foundation Http Net Core Refinement Traffic

namespace RefusedRewriting
open RepeatedRewriting

section Parsing
variable {ρ : Type} {grammar : Grammar ρ} {parser : Parser ρ}

/-- A parser that has completed stays in that state. -/
theorem parse_completed {buffer : Bytes} (done : (parse grammar parser buffer).complete = true) :
    (parse grammar parser buffer).parser.state = .complete := by
  have tail (parser : Parser ρ) (consumed : Nat) (available : Bytes)
      (done : (parseTail grammar parser consumed available).complete = true) :
      (parseTail grammar parser consumed available).parser.state = .complete := by
    unfold parseTail at done ⊢
    dsimp only at done ⊢
    split_ifs at done ⊢ with body complete
    · rfl
    · simpa using done
  unfold parse at done ⊢
  dsimp only at done ⊢
  split_ifs at done ⊢
  · exact tail _ _ _ done
  · contradiction
  · exact tail _ _ _ done

/-- In that state it takes nothing more. -/
theorem parse_again (completed : parser.state = .complete) (noError : parser.hasError = false) (buffer : Bytes) :
    parse grammar parser buffer = ⟨parser, 0, true⟩ := by
  simp [parse, parseTail, completed, noError]

end Parsing

/-- The read buffer of a connection. -/
def bufferOf (lb : LoadBalancer) (fd : Fd) : Option Bytes := (lb.connections.find fd).map Connection.readBuf

/-- A complete request is in the read buffer, and has not been rewritten. -/
structure Pending (lb : LoadBalancer) (source : Fd) (buffer : Bytes) : Prop where
  here : bufferOf lb source = some buffer
  request : isHttpRequest buffer = true
  unparsed : (lb.httpState source).requestParsed = false
  complete : ((lb.httpState source).parser.parse buffer).complete = true

/-- What else goes on between two forwards, without new bytes for this client. -/
structure Idles (source : Fd) (before after : LoadBalancer) : Prop where
  buffer : bufferOf after source = bufferOf before source
  state : after.httpState source = before.httpState source
  address : after.clientIp source = before.clientIp source
  settings : after.settings = before.settings
  order : after.order = before.order

/-- Both ends of a forward are established. -/
def BothUp (lb : LoadBalancer) (source target : Fd) : Prop :=
  ∃ sender receiver, lb.connections.find source = some sender ∧ lb.connections.find target = some receiver ∧
    sender.state = .established ∧ receiver.state = .established

/-- So many forwards in a row do not come to copying, since the reservation for the rewritten request is refused. -/
inductive Refused (source target : Fd) (first : LoadBalancer) : Nat → LoadBalancer → Prop
  | none {last : LoadBalancer} (idles : Idles source first last) : Refused source target first 0 last
  | more {count : Nat} {middle last : LoadBalancer} (earlier : Refused source target first count middle)
      (up : BothUp middle source target) (refused : (middle.prepareRequest source target).1 = false)
      (idles : Idles source (middle.httpForward source target) last) : Refused source target first (count + 1) last

/-- The rewriting of a forward leaves what it would have left in the first one, had the budget granted that. -/
def Harmless (first last : LoadBalancer) (source target : Fd) : Prop :=
  ∀ budget, ({ first with budget := budget }.prepareRequest source target).1 = true →
    bufferOf (last.prepareRequest source target).2 source =
      bufferOf ({ first with budget := budget }.prepareRequest source target).2 source

section Calls
variable {lb : LoadBalancer} {source : Fd} {sender : Connection} {buffer : Bytes}

theorem bufferOf_some (here : bufferOf lb source = some buffer) :
    ∃ conn, lb.connections.find source = some conn ∧ conn.readBuf = buffer := by
  unfold bufferOf at here
  exact Option.map_eq_some_iff.mp here

/-- The address of a client depends on its connection being there, and on the sockets. -/
theorem clientIp_congr {before after : LoadBalancer}
    (there : (after.connections.find source).isSome = (before.connections.find source).isSome)
    (kernel : after.kernel = before.kernel) : after.clientIp source = before.clientIp source := by
  unfold LoadBalancer.clientIp
  rw [kernel]
  cases here : before.connections.find source with
  | none =>
    have absent : after.connections.find source = none := by simpa [here] using there
    rw [absent]
  | some conn =>
    obtain ⟨other, found⟩ := Option.isSome_iff_exists.mp (there.trans (by rw [here]; rfl))
    rw [found]
    cases before.kernel.sockets.find source <;> rfl

theorem clientIp_nonempty (lb : LoadBalancer) (fd : Fd) : lb.clientIp fd ≠ [] := by
  unfold LoadBalancer.clientIp
  split
  · split
    · decide
    · assumption
  · decide

/-- The parser keeps the request as it has been rewritten. -/
theorem parseAndModifyHttpRequest_state (found : lb.connections.find source = some sender)
    (request : isHttpRequest sender.readBuf = true)
    (complete : ((lb.httpState source).parser.parse sender.readBuf).complete = true) :
    ((lb.parseAndModifyHttpRequest source).2.httpState source).parser =
      { ((lb.httpState source).parser.parse sender.readBuf).parser with
        message := rewrittenRequest lb source ((lb.httpState source).parser.parse sender.readBuf).parser.message } := by
  have kept (state : HttpState) (message : HttpRequest) (bytes : Bytes) :
      ((((lb.setHttpState source state).updateSessionKey source message).replaceReadBuffer source bytes).2.httpState
        source).parser = state.parser := by
    have wire := (setHttpState_sameWire lb source state).trans
      (updateSessionKey_sameWire (lb.setHttpState source state) source message).1
    have here : ((lb.setHttpState source state).updateSessionKey source message).connections.find source = some sender :=
      wire.connections ▸ found
    rw [httpState_congr (replaceReadBuffer_prepared _ here bytes).2,
      httpState_congr (updateSessionKey_sameWire _ source message).2, httpState_setHttpState]
  unfold LoadBalancer.parseAndModifyHttpRequest
  rw [found]
  dsimp only
  rw [if_pos request, if_pos complete]
  exact kept _ _ _

/-- The rewriting depends on what `SameWire` keeps. -/
theorem rewrittenRequest_congr {before after : LoadBalancer} (address : after.clientIp source = before.clientIp source)
    (settings : after.settings = before.settings) (order : after.order = before.order) :
    rewrittenRequest after source = rewrittenRequest before source := by
  funext request
  unfold rewrittenRequest
  rw [address, settings, order]

/-- A refused call leaves the parser with the rewritten request, and the buffer as it was. -/
theorem prepareRequest_refused (pending : Pending lb source buffer) {target : Fd}
    (refused : (lb.prepareRequest source target).1 = false) :
    bufferOf (lb.prepareRequest source target).2 source = some buffer ∧
      ((lb.prepareRequest source target).2.httpState source).requestParsed = false ∧
      ((lb.prepareRequest source target).2.httpState source).parser =
        { ((lb.httpState source).parser.parse buffer).parser with
          message := rewrittenRequest lb source ((lb.httpState source).parser.parse buffer).parser.message } ∧
      (lb.prepareRequest source target).2.settings = lb.settings ∧ (lb.prepareRequest source target).2.order = lb.order ∧
      (lb.prepareRequest source target).2.clientIp source = lb.clientIp source := by
  obtain ⟨sender, found, rfl⟩ := bufferOf_some pending.here
  obtain ⟨message, prepared, _, kind⟩ := prepareRequest_step lb target found pending.request (.of_unparsed pending.unparsed)
  have states := setHttpState_self lb source source
  have parser := @parseAndModifyHttpRequest_state (lb.setHttpState source (lb.httpState source)) source sender found
    pending.request (by rw [states]; exact pending.complete)
  rw [states] at parser
  have parses : (lb.prepareRequest source target).2 =
      ((lb.setHttpState source (lb.httpState source)).parseAndModifyHttpRequest source).2 := by
    have unread : ¬(lb.httpState source).requestParsed = true := by simp [pending.unparsed]
    have sound := parse_noError requestGrammar _ _ pending.complete
    unfold LoadBalancer.prepareRequest at refused ⊢
    dsimp only at refused ⊢
    rw [states, if_neg unread] at refused ⊢
    generalize (lb.setHttpState source (lb.httpState source)).parseAndModifyHttpRequest source = result at parser refused ⊢
    by_cases granted : result.1 = true
    · have noError : (result.2.httpState source).parser.hasError = false := (congrArg Parser.hasError parser).trans sound
      rw [if_pos granted, if_pos rfl] at refused
      dsimp only at refused
      rw [httpState_setHttpState, noError] at refused
      cases refused
    · rw [if_neg granted]
      rfl
  rw [refused] at kind
  cases kind with
  | refuse _ _ unparsed _ =>
    obtain ⟨blocked, connections⟩ := prepared.connections
    refine ⟨?_, unparsed, ?_, prepared.settings, prepared.order, clientIp_congr ?_ prepared.kernel⟩
    · unfold bufferOf
      rw [connections, FiniteMap.find_insert_self]
      rfl
    · rw [parses, parser]
      rfl
    · rw [connections, FiniteMap.find_insert_self, found]
      rfl
  | wait _ incomplete _ =>
    rw [pending.complete] at incomplete
    cases incomplete

/-- A call that comes to copying has put the rewritten request into the buffer. -/
theorem prepareRequest_granted (pending : Pending lb source buffer) {target : Fd}
    (granted : (lb.prepareRequest source target).1 = true) :
    bufferOf (lb.prepareRequest source target).2 source = some (requestMessage lb source buffer) := by
  obtain ⟨sender, found, rfl⟩ := bufferOf_some pending.here
  obtain ⟨message, prepared, _, kind⟩ := prepareRequest_step lb target found pending.request (.of_unparsed pending.unparsed)
  rw [granted] at kind
  obtain ⟨blocked, connections⟩ := prepared.connections
  have left : bufferOf (lb.prepareRequest source target).2 source = some message := by
    unfold bufferOf
    rw [connections, FiniteMap.find_insert_self]
    rfl
  cases kind with
  | again parsed =>
    rw [pending.unparsed] at parsed
    cases parsed
  | rewrite => exact left

/-- With an unlimited budget the first call comes to copying. -/
theorem prepareRequest_unlimited (pending : Pending lb source buffer) (target : Fd) :
    ({ lb with budget := ⟨0, 0, false⟩ }.prepareRequest source target).1 = true := by
  obtain ⟨sender, found, rfl⟩ := bufferOf_some pending.here
  obtain ⟨message, _, _, kind⟩ := prepareRequest_step { lb with budget := ⟨0, 0, false⟩ } target found pending.request
    (.of_unparsed pending.unparsed)
  generalize ({ lb with budget := ⟨0, 0, false⟩ }.prepareRequest source target).1 = go at kind
  cases go with
  | true => rfl
  | false =>
    exfalso
    cases kind with
    | refuse _ _ _ denied =>
      refine denied fun _ => ?_
      unfold MemoryBudget.tryReserve
      rw [if_pos (Or.inl rfl)]
      exact Option.some_ne_none _
    | wait _ incomplete _ =>
      have complete : ((lb.httpState source).parser.parse sender.readBuf).complete = false := incomplete
      rw [pending.complete] at complete
      cases complete

end Calls

section Runs
variable {first : LoadBalancer} {source target : Fd} {buffer : Bytes}

/-- The request that the parser of the first call gets from the buffer. -/
def firstRequest (lb : LoadBalancer) (source : Fd) (buffer : Bytes) : HttpRequest :=
  ((lb.httpState source).parser.parse buffer).parser.message

/-- After so many refusals the request is still pending, and the parser has it rewritten as often. -/
structure Rewritten (first : LoadBalancer) (source : Fd) (buffer : Bytes) (count : Nat) (last : LoadBalancer) : Prop where
  pending : Pending last source buffer
  message : firstRequest last source buffer = (rewrittenRequest first source)^[count] (firstRequest first source buffer)
  address : last.clientIp source = first.clientIp source
  settings : last.settings = first.settings
  order : last.order = first.order

theorem Rewritten.idles {count : Nat} {middle last : LoadBalancer} (rewritten : Rewritten first source buffer count middle)
    (idles : Idles source middle last) : Rewritten first source buffer count last where
  pending := by
    obtain ⟨here, request, unparsed, complete⟩ := rewritten.pending
    exact ⟨idles.buffer.trans here, request, idles.state ▸ unparsed, idles.state ▸ complete⟩
  message := by
    unfold firstRequest
    rw [idles.state]
    exact rewritten.message
  address := idles.address.trans rewritten.address
  settings := idles.settings.trans rewritten.settings
  order := idles.order.trans rewritten.order

/-- A refusal rewrites the request in the parser once more. -/
theorem Rewritten.refused {count : Nat} {middle : LoadBalancer} (rewritten : Rewritten first source buffer count middle)
    (up : BothUp middle source target) (refused : (middle.prepareRequest source target).1 = false) :
    Rewritten first source buffer (count + 1) (middle.httpForward source target) := by
  obtain ⟨here, unparsed, parser, settings, order, address⟩ := prepareRequest_refused rewritten.pending refused
  obtain ⟨sender, receiver, sending, receiving, senderUp, receiverUp⟩ := up
  have request : isHttpRequest sender.readBuf = true := by
    obtain ⟨conn, found, same⟩ := bufferOf_some rewritten.pending.here
    cases found.symm.trans sending
    rw [same]
    exact rewritten.pending.request
  have complete := rewritten.pending.complete
  rw [httpForward_ready middle sending receiving senderUp receiverUp request, refused, if_neg Bool.false_ne_true]
  generalize (middle.prepareRequest source target).2 = after at here unparsed parser settings order address
  have state : (after.httpState source).parser.state = .complete := by
    rw [parser]
    exact parse_completed complete
  have sound : (after.httpState source).parser.hasError = false := by
    rw [parser]
    exact parse_noError requestGrammar _ _ complete
  have again : (after.httpState source).parser.parse buffer = ⟨(after.httpState source).parser, 0, true⟩ :=
    parse_again state sound buffer
  refine ⟨⟨here, rewritten.pending.request, unparsed, by rw [again]⟩, ?_, address.trans rewritten.address,
    settings.trans rewritten.settings, order.trans rewritten.order⟩
  have taken : firstRequest after source buffer = rewrittenRequest middle source (firstRequest middle source buffer) := by
    unfold firstRequest
    rw [again, parser]
  rw [taken, Function.iterate_succ_apply', ← rewritten.message,
    rewrittenRequest_congr rewritten.address rewritten.settings rewritten.order]

theorem Refused.rewritten {count : Nat} {last : LoadBalancer} (pending : Pending first source buffer)
    (refused : Refused source target first count last) : Rewritten first source buffer count last := by
  induction refused with
  | none idles =>
    have begins : Rewritten first source buffer 0 first := ⟨pending, rfl, rfl, rfl, rfl⟩
    exact begins.idles idles
  | more _ up refused idles ih => exact (ih.refused up refused).idles idles

/-- Being harmless, told of the bytes. -/
theorem harmless_iff {count : Nat} {last : LoadBalancer} (pending : Pending first source buffer)
    (refused : Refused source target first count last) (granted : (last.prepareRequest source target).1 = true) :
    Harmless first last source target ↔
      serializeHttpRequest first.order ((rewrittenRequest first source)^[count + 1] (firstRequest first source buffer)) =
        serializeHttpRequest first.order (rewrittenRequest first source (firstRequest first source buffer)) := by
  have rewritten := refused.rewritten pending
  have left : bufferOf (last.prepareRequest source target).2 source = some (serializeHttpRequest first.order
      ((rewrittenRequest first source)^[count + 1] (firstRequest first source buffer))) := by
    rw [prepareRequest_granted rewritten.pending granted, Function.iterate_succ_apply', ← rewritten.message,
      ← rewrittenRequest_congr rewritten.address rewritten.settings rewritten.order, ← rewritten.order]
    rfl
  have once (budget : MemoryBudget) (granted : ({ first with budget := budget }.prepareRequest source target).1 = true) :
      bufferOf ({ first with budget := budget }.prepareRequest source target).2 source =
        some (serializeHttpRequest first.order (rewrittenRequest first source (firstRequest first source buffer))) := by
    have pendingToo : Pending { first with budget := budget } source buffer :=
      ⟨pending.here, pending.request, pending.unparsed, pending.complete⟩
    exact prepareRequest_granted pendingToo granted
  constructor
  · intro harmless
    have same := harmless ⟨0, 0, false⟩ (prepareRequest_unlimited pending target)
    rw [left, once _ (prepareRequest_unlimited pending target)] at same
    exact Option.some.inj same
  · intro same budget granted
    rw [left, once budget granted, same]

end Runs

section Headers
variable {lb : LoadBalancer} {fd : Fd}

/-- The custom rules for requests, none when there are none. -/
def rulesOf (lb : LoadBalancer) : HeaderRules := lb.settings.requestRules.getD ⟨∅, []⟩

/-- The headers as one rewriting for this client leaves them. -/
def passedFor (lb : LoadBalancer) (fd : Fd) : Headers → Headers :=
  passed lb.order (rulesOf lb) (lb.clientIp fd) lb.settings.isHttps

theorem settled_none (order : HeaderOrder) (headers : Headers) : CustomHeaders.settled order ⟨∅, []⟩ headers = headers := by
  ext1 key
  have none : ∀ name ∈ (∅ : Headers).keys, sameName key name = false := by simp
  exact CustomHeaders.find_settled_other none

theorem rewrittenRequest_eq (request : HttpRequest) :
    rewrittenRequest lb fd request = { request with headers := passedFor lb fd request.headers } := by
  unfold rewrittenRequest passedFor rulesOf
  rw [modifyRequestHeaders_eq _ _ (clientIp_nonempty lb fd)]
  cases lb.settings.requestRules with
  | none =>
    dsimp only [Option.getD_none]
    unfold passed
    rw [settled_none]
  | some rules => rfl

theorem rewrittenRequest_repeated (request : HttpRequest) (count : Nat) :
    (rewrittenRequest lb fd)^[count] request = { request with headers := (passedFor lb fd)^[count] request.headers } := by
  induction count with
  | zero => rfl
  | succ count ih => rw [Function.iterate_succ_apply', ih, rewrittenRequest_eq, Function.iterate_succ_apply']

theorem repeated_unbroken {headers : Headers} (tame : Tame (rulesOf lb) headers) (lines : LinesUnbroken headers)
    (rulesLines : LinesUnbroken (rulesOf lb).add) (plain : ∀ byte ∈ lb.clientIp fd, byte ≠ 10 ∧ byte ≠ 13) (count : Nat) :
    LinesUnbroken ((passedFor lb fd)^[count] headers) := by
  induction count with
  | zero => exact lines
  | succ count ih =>
    rw [Function.iterate_succ_apply']
    exact passed_unbroken (tame_repeated tame count) ih rulesLines plain

end Headers

/-- The headers, the rules and the address of the client do not break lines, and spell names alike. -/
structure Orderly (lb : LoadBalancer) (source : Fd) (headers : Headers) : Prop where
  tame : Tame (rulesOf lb) headers
  lines : LinesUnbroken headers
  rules : LinesUnbroken (rulesOf lb).add
  address : ∀ byte ∈ lb.clientIp source, byte ≠ 10 ∧ byte ≠ 13

/-- A refusal, after which the budget changes. -/
theorem Refused.once {lb : LoadBalancer} {source target : Fd} (up : BothUp lb source target)
    (refused : (lb.prepareRequest source target).1 = false) (budget : MemoryBudget) :
    Refused source target lb 1 { lb.httpForward source target with budget := budget } :=
  .more (.none ⟨rfl, rfl, rfl, rfl, rfl⟩) up refused ⟨rfl, rfl, rfl, rfl, rfl⟩

section Samples

/-- The backend has been connected, the client's request waits, and there is this budget. -/
def waitingState (setup : Setup) (budget : MemoryBudget) : LoadBalancer :=
  { (reached setup (waitingRun plainGet)).establishBackend 6 with budget := budget }

/-- All memory is in use, also after a forward that is refused; then there is some again. -/
def relieved (setup : Setup) : LoadBalancer :=
  { (waitingState setup ⟨18, 18, false⟩).httpForward 5 6 with budget := ⟨18, 1000000, false⟩ }

/-- Custom rules that keep the addresses of clients from the backends. -/
def hidingSetup : Setup :=
  { httpSetup with settings := { mode := .http, requestRules := some ⟨∅, [ascii "X-Forwarded-For"]⟩ } }

def waitingClient : Connection := { fd := 5, peer := some 6, accounted := true, readBuf := plainGet, bytesRead := 18 }

def readyBackend : Connection := { fd := 6, peer := some 5, accounted := true }

end Samples

/-- Refusals are harmless if there are none, or if the custom rules decide on the headers that the rewriting changes
again. Where no line is broken they are harmless in no other case. -/
theorem refusals_harmless_iff {first last : LoadBalancer} {source target : Fd} {buffer : Bytes} {count : Nat}
    (pending : Pending first source buffer) (refused : Refused source target first count last)
    (granted : (last.prepareRequest source target).1 = true) :
    (count = 0 → Harmless first last source target) ∧
    (Tame (rulesOf first) (firstRequest first source buffer).headers →
      Absorbs first.order (rulesOf first) (firstRequest first source buffer).headers →
        Harmless first last source target) ∧
    (Orderly first source (firstRequest first source buffer).headers →
      (Harmless first last source target ↔
        count = 0 ∨ Absorbs first.order (rulesOf first) (firstRequest first source buffer).headers)) := by
  rw [harmless_iff pending refused granted]
  have alike (tame : Tame (rulesOf first) (firstRequest first source buffer).headers)
      (holds : count = 0 ∨ Absorbs first.order (rulesOf first) (firstRequest first source buffer).headers) :
      serializeHttpRequest first.order ((rewrittenRequest first source)^[count + 1] (firstRequest first source buffer)) =
        serializeHttpRequest first.order (rewrittenRequest first source (firstRequest first source buffer)) := by
    rw [rewrittenRequest_repeated, rewrittenRequest_eq]
    unfold passedFor
    rw [(repeated_iff tame (clientIp_nonempty first source) count).mpr holds]
  refine ⟨?_, fun tame absorbs => alike tame (Or.inr absorbs), fun orderly => ⟨fun same => ?_, alike orderly.tame⟩⟩
  · rintro rfl
    rfl
  · rw [rewrittenRequest_repeated, rewrittenRequest_eq] at same
    rw [← repeated_iff orderly.tame (clientIp_nonempty first source) count]
    exact headers_of_serialize _ (repeated_unbroken orderly.tame orderly.lines orderly.rules orderly.address _)
      (repeated_unbroken orderly.tame orderly.lines orderly.rules orderly.address 1) same

theorem refusals_harmless_hidden :
    Harmless (waitingState hidingSetup ⟨18, 18, false⟩) (relieved hidingSetup) 5 6 := by
  have pending : Pending (waitingState hidingSetup ⟨18, 18, false⟩) 5 plainGet := by constructor <;> decide +kernel
  have up : BothUp (waitingState hidingSetup ⟨18, 18, false⟩) 5 6 :=
    ⟨waitingClient, readyBackend, by decide +kernel, by decide +kernel, rfl, rfl⟩
  have refused := Refused.once up (by decide +kernel) ⟨18, 1000000, false⟩
  have granted : ((relieved hidingSetup).prepareRequest 5 6).1 = true := by decide +kernel
  have plain : (firstRequest (waitingState hidingSetup ⟨18, 18, false⟩) 5 plainGet).headers.keys = ∅ := by decide +kernel
  have unset : (rulesOf (waitingState hidingSetup ⟨18, 18, false⟩)).add.keys = ∅ := by decide +kernel
  have client : (waitingState hidingSetup ⟨18, 18, false⟩).clientIp 5 = ascii "c" := by decide +kernel
  have orderly : Orderly (waitingState hidingSetup ⟨18, 18, false⟩) 5
      (firstRequest (waitingState hidingSetup ⟨18, 18, false⟩) 5 plainGet).headers := by
    refine ⟨⟨?_, ?_, ?_⟩, ?_, ?_, ?_⟩
    · intro name member
      simp [unset] at member
    · intro name value added
      simpa [unset] using FiniteMap.mem_keys_of_find added
    · intro key present
      simp [plain] at present
    · intro name value there
      simpa [plain] using FiniteMap.mem_keys_of_find there
    · intro name value added
      simpa [unset] using FiniteMap.mem_keys_of_find added
    · rw [client]
      decide +kernel
  refine ((refusals_harmless_iff pending refused granted).2.2 orderly).mpr (Or.inr ⟨?_, ?_⟩)
  · exact Or.inl (Or.inl ⟨ascii "X-Forwarded-For", by decide +kernel, by decide⟩)
  · intro name value added
    simpa [unset] using FiniteMap.mem_keys_of_find added

/-- After one refusal the client is told twice. -/
theorem client_told_twice : ¬∀ (first last : LoadBalancer) (source target : Fd) (buffer : Bytes) (count : Nat),
    Pending first source buffer → Refused source target first count last →
      (last.prepareRequest source target).1 = true → Harmless first last source target := by
  intro always
  have pending : Pending (waitingState httpSetup ⟨18, 18, false⟩) 5 plainGet := by constructor <;> decide +kernel
  have up : BothUp (waitingState httpSetup ⟨18, 18, false⟩) 5 6 :=
    ⟨waitingClient, readyBackend, by decide +kernel, by decide +kernel, rfl, rfl⟩
  have refused := Refused.once up (by decide +kernel) ⟨18, 1000000, false⟩
  have same := always _ _ 5 6 plainGet 1 pending refused (by decide +kernel) ⟨0, 0, false⟩ (by decide +kernel)
  revert same
  decide +kernel

end RefusedRewriting

end Balancer.Guarantees
