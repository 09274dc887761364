import Balancer.Traffic.Exchange
import Balancer.Guarantees.Progress

/-! Which request heads reach the backend. A client sends requests, each with a
part that the parser frames and a body that it does not; under the condition
below, everything the backend is given consists of rewritten heads and of bodies. -/

namespace Balancer.Guarantees
open Foundation Http Net Core Refinement Traffic

/-- A request of the stream: what the parser takes as one message, and the bytes
of a body it does not frame. -/
structure ClientRequest where
  head : Bytes
  body : Bytes := []
  deriving DecidableEq

namespace ClientRequest

def bytes (request : ClientRequest) : Bytes := request.head ++ request.body

/-- The head begins with a method, and a fresh parser completes on it as a whole. -/
def WellFormed (request : ClientRequest) : Prop :=
  isHttpRequest request.head = true ∧ FramesRequest request.head request.head.length

instance (request : ClientRequest) : Decidable request.WellFormed := inferInstanceAs (Decidable (_ ∧ _))

/-- The head after `modify_request_headers` and the header rules. -/
def rewrittenHead (lb : LoadBalancer) (client : Fd) (request : ClientRequest) : Bytes :=
  serializeHttpRequest lb.order
    (rewrittenRequest lb client (HttpRequestParser.initial.parse request.head).parser.message)

/-- What the backend is to be given for a request. -/
def output (lb : LoadBalancer) (client : Fd) (request : ClientRequest) : Bytes :=
  request.rewrittenHead lb client ++ request.body

theorem WellFormed.nonempty {request : ClientRequest} (wellFormed : request.WellFormed) : 0 < request.head.length := by
  apply List.length_pos_iff.mpr
  intro empty
  have method := wellFormed.1
  rw [empty] at method
  cases method

/-- Two heads at the same place of a stream are the same. -/
theorem WellFormed.unique {request : ClientRequest} (wellFormed : request.WellFormed) {buffer stream : Bytes}
    (complete : (HttpRequestParser.initial.parse buffer).complete = true)
    (consumed : (HttpRequestParser.initial.parse buffer).consumed = buffer.length) (one : buffer <+: stream)
    (other : request.head <+: stream) : buffer = request.head := by
  have head := wellFormed.2.2
  rw [List.take_length] at head
  rcases List.prefix_or_prefix_of_prefix one other with shorter | longer
  · apply shorter.eq_of_length
    obtain ⟨more, split⟩ := shorter
    have same := HttpRequestParser.parse_append .initial buffer more complete
    rw [split] at same
    rw [same, consumed] at head
    exact head.2
  · symm
    apply longer.eq_of_length
    obtain ⟨more, split⟩ := longer
    have same := HttpRequestParser.parse_append .initial request.head more head.1
    rw [split] at same
    rw [same, head.2] at consumed
    exact consumed

end ClientRequest

/-- The bytes of a list of requests. -/
def streamOf (requests : List ClientRequest) : Bytes := requests.flatMap ClientRequest.bytes

/-- The segment lies in the body of the request whose head has been delivered. -/
def InBody (requests : List ClientRequest) (delivered segment : Bytes) : Prop :=
  ∃ done request rest, requests = done ++ request :: rest ∧ streamOf done ++ request.head <+: delivered ∧
    delivered ++ segment <+: streamOf done ++ request.bytes

/-- The last request that was begun has been delivered to its end. -/
def AtEnd (requests : List ClientRequest) (delivered : Bytes) : Prop :=
  ∃ done rest, requests = done ++ rest ∧ delivered = streamOf done

def readBufOf (lb : LoadBalancer) (fd : Fd) : Bytes := ((lb.connections.find fd).map Connection.readBuf).getD []

/-- When a segment of the client is read in step with the requests: it is body of
the request that was rewritten last; or no request is under way, the buffer now
begins with a method, and if the parser completes on it then in its first call
and on the last byte of the buffer. -/
def Fitting (requests : List ClientRequest) (client : Fd) (lb : LoadBalancer) (delivered segment : Bytes) : Prop :=
  let buffer := readBufOf lb client ++ segment
  let state := lb.httpState client
  buffer = [] ∨ (state.requestParsed = true ∧ InBody requests delivered segment) ∨
    (state.requestParsed = false ∧ isHttpRequest buffer = true ∧
      ((state.parser.parse buffer).complete = true →
        state.parser = .initial ∧ (state.parser.parse buffer).consumed = buffer.length))

/-- The condition on a turn, from the state before it and the bytes the client has
delivered: its segments fit, and nothing of the backend is forwarded while a
rewritten request has not gone on whole. -/
def InStep (requests : List ClientRequest) (client : Fd) (state : LoadBalancer × Bytes) (turn : Traffic.Turn) : Prop :=
  match turn.act with
  | .read .client segment => Fitting requests client state.1 state.2 segment
  | .read .backend _ => (state.1.httpState client).requestParsed = true →
      readBufOf state.1 client = [] ∧ AtEnd requests state.2
  | .write _ => True

/-- A turn, with the bytes the client has delivered so far. -/
def deliver (client backend : Fd) (state : LoadBalancer × Bytes) (turn : Traffic.Turn) : LoadBalancer × Bytes :=
  (exchange client backend state.1 turn, state.2 ++ turn.fromClient)

/-- A pair on which no request is under way. -/
structure Idle (lb : LoadBalancer) (client backend : Fd) : Prop where
  pair : ∃ front back, Linked lb client backend front back ∧ front.readBuf = []
  isClient : lb.backendToClientMap.find client = none
  isBackend : lb.backendToClientMap.find backend = some client
  positive : 0 < client
  backendPositive : 0 < backend
  unparsed : (lb.httpState client).requestParsed = false
  backendUnparsed : (lb.httpState backend).requestParsed = false

/-- The pair is as at the start, up to buffers and parsers. -/
structure Alive (start lb : LoadBalancer) (client backend : Fd) (front back : Connection) : Prop where
  linked : Linked lb client backend front back
  setting : SameSetting start lb
  saneClient : Sane lb client
  saneBackend : Sane lb backend

/-- How far the backend has been served: either the read buffer holds what came in
after the last request, or a request has been rewritten and the bytes given to the
backend and those in the read buffer make up its output so far. -/
inductive Phase (requests : List ClientRequest) (start : LoadBalancer) (client backend : Fd) (base : Bytes)
    (lb : LoadBalancer) (front : Connection) (delivered : Bytes) : Prop
  | collecting (done rest : List ClientRequest) : (lb.httpState client).requestParsed = false →
      requests = done ++ rest → delivered = streamOf done ++ front.readBuf →
      outbound lb backend = some (base ++ done.flatMap (ClientRequest.output start client)) →
      Phase requests start client backend base lb front delivered
  | passing (done : List ClientRequest) (request : ClientRequest) (rest : List ClientRequest) (body later sent : Bytes) :
      (lb.httpState client).requestParsed = true → requests = done ++ request :: rest → request.body = body ++ later →
      delivered = streamOf done ++ (request.head ++ body) → outbound lb backend = some sent →
      sent ++ front.readBuf =
        base ++ (done.flatMap (ClientRequest.output start client) ++ (request.rewrittenHead start client ++ body)) →
      Phase requests start client backend base lb front delivered

/-- The invariant of the run. -/
def Tracks (requests : List ClientRequest) (start : LoadBalancer) (client backend : Fd) (base : Bytes)
    (state : LoadBalancer × Bytes) : Prop :=
  Gone state.1 client backend ∨ ∃ front back, Alive start state.1 client backend front back ∧
    Phase requests start client backend base state.1 front state.2

section Heads
variable {requests : List ClientRequest} {start lb : LoadBalancer} {client backend : Fd} {front back : Connection}
  {base delivered : Bytes}

theorem streamOf_append (done rest : List ClientRequest) : streamOf (done ++ rest) = streamOf done ++ streamOf rest := by
  simp [streamOf]

theorem streamOf_cons (request : ClientRequest) (rest : List ClientRequest) :
    streamOf (request :: rest) = request.bytes ++ streamOf rest := by
  simp [streamOf]

/-- A position has one request whose head ends before it and which ends behind it. -/
theorem request_at_unique (wellFormed : ∀ request ∈ requests, request.WellFormed) {done done' rest rest' : List ClientRequest}
    {request request' : ClientRequest} (one : requests = done ++ request :: rest)
    (other : requests = done' ++ request' :: rest') {position : Nat}
    (after : (streamOf done).length + request.head.length ≤ position)
    (before : position ≤ (streamOf done).length + request.bytes.length)
    (after' : (streamOf done').length + request'.head.length ≤ position)
    (before' : position ≤ (streamOf done').length + request'.bytes.length) : done = done' ∧ request = request' := by
  have nonempty : 0 < request.head.length := (wellFormed request (by simp [one])).nonempty
  have nonempty' : 0 < request'.head.length := (wellFormed request' (by simp [other])).nonempty
  rcases List.append_eq_append_iff.mp (one.symm.trans other) with ⟨more, split, tail⟩ | ⟨more, split, tail⟩
  · cases more with
    | nil =>
      simp only [List.nil_append, List.cons.injEq] at tail
      exact ⟨by simp [split], tail.1⟩
    | cons first more =>
      simp only [List.cons_append, List.cons.injEq] at tail
      rw [split, streamOf_append, streamOf_cons, ← tail.1] at after'
      simp only [List.length_append] at after'
      omega
  · cases more with
    | nil =>
      simp only [List.nil_append, List.cons.injEq] at tail
      exact ⟨by simp [split], tail.1.symm⟩
    | cons first more =>
      simp only [List.cons_append, List.cons.injEq] at tail
      rw [split, streamOf_append, streamOf_cons, ← tail.1] at after
      simp only [List.length_append] at after
      omega

/-- The rewriting of a request is the same at every point of the run. -/
theorem rewrittenRequest_alive (begins : ∃ conn, start.connections.find client = some conn)
    (alive : Alive start lb client backend front back) (request : HttpRequest) :
    rewrittenRequest lb client request = rewrittenRequest start client request := by
  have ip : lb.clientIp client = start.clientIp client := by
    obtain ⟨conn, found⟩ := begins
    have addresses := alive.setting.addresses client
    unfold LoadBalancer.clientIp
    rw [alive.linked.sending, found]
    cases now : lb.kernel.sockets.find client <;> cases before : start.kernel.sockets.find client <;>
      simp_all
  unfold rewrittenRequest
  rw [ip, alive.setting.order, alive.setting.settings]

/-- What a turn that does not read from the client leaves of the pair. A response
that ends may start the client's state over. -/
structure Keeps (mayReset : Prop) (before after : LoadBalancer) (client backend : Fd) (front : Connection) : Prop where
  pair : ∃ front' back', Linked after client backend front' back' ∧ front'.readBuf = front.readBuf
  given : outbound after backend = outbound before backend
  setting : SameSetting before after
  saneBackend : Sane after backend
  saneClient : Sane after client
  request : (after.httpState client).requestParsed = (before.httpState client).requestParsed ∨
    (mayReset ∧ (after.httpState client).requestParsed = false)

theorem Keeps.alive {mayReset : Prop} {after : LoadBalancer} (alive : Alive start lb client backend front back)
    (keeps : Keeps mayReset lb after client backend front) :
    ∃ front' back', Alive start after client backend front' back' ∧ front'.readBuf = front.readBuf := by
  obtain ⟨front', back', linked, buffer⟩ := keeps.pair
  exact ⟨front', back', ⟨linked, alive.setting.trans keeps.setting, keeps.saneClient, keeps.saneBackend⟩, buffer⟩

/-- A request that is still to be given to the backend as a whole is delivered as
a whole when the client is at the end of one. -/
theorem request_ended (wellFormed : ∀ request ∈ requests, request.WellFormed) {done rest : List ClientRequest}
    {request : ClientRequest} {body later : Bytes} (split : requests = done ++ request :: rest)
    (cut : request.body = body ++ later) (position : delivered = streamOf done ++ (request.head ++ body))
    (atEnd : AtEnd requests delivered) : later = [] := by
  obtain ⟨whole, others, split', position'⟩ := atEnd
  have nonempty : 0 < request.head.length := (wellFormed request (by simp [split])).nonempty
  have size := congrArg List.length (position.symm.trans position')
  apply List.length_eq_zero_iff.mp
  rcases List.append_eq_append_iff.mp (split.symm.trans split') with ⟨more, longer, tail⟩ | ⟨more, shorter, tail⟩
  · cases more with
    | nil =>
      rw [longer, List.append_nil] at size
      simp only [List.length_append] at size
      omega
    | cons first more =>
      simp only [List.cons_append, List.cons.injEq] at tail
      rw [longer, streamOf_append, streamOf_cons, ← tail.1] at size
      simp only [ClientRequest.bytes, cut, List.length_append] at size
      omega
  · rw [shorter, streamOf_append] at size
    simp only [List.length_append] at size
    omega

/-- A turn that does not read from the client leaves the backend where it was,
and a response that ends makes room for the next request. -/
theorem Phase.keeps (wellFormed : ∀ request ∈ requests, request.WellFormed) {mayReset : Prop} {after : LoadBalancer}
    {front' : Connection} (phase : Phase requests start client backend base lb front delivered)
    (keeps : Keeps mayReset lb after client backend front) (buffer : front'.readBuf = front.readBuf)
    (inStep : mayReset → (lb.httpState client).requestParsed = true → front.readBuf = [] ∧ AtEnd requests delivered) :
    Phase requests start client backend base after front' delivered := by
  cases phase with
  | collecting done rest unparsed split position given =>
    refine .collecting done rest ?_ split ?_ ?_
    · rcases keeps.request with same | ⟨_, reset⟩
      · rw [same, unparsed]
      · exact reset
    · rw [buffer]
      exact position
    · rw [keeps.given]
      exact given
  | passing done request rest body later sent parsed split cut position given output =>
    rcases keeps.request with same | ⟨may, reset⟩
    · refine .passing done request rest body later sent ?_ split cut position ?_ ?_
      · rw [same, parsed]
      · rw [keeps.given]
        exact given
      · rw [buffer]
        exact output
    · obtain ⟨drained, atEnd⟩ := inStep may parsed
      have ended := request_ended wellFormed split cut position atEnd
      rw [ended, List.append_nil] at cut
      rw [drained, List.append_nil] at output
      refine .collecting (done ++ [request]) rest ?_ ?_ ?_ ?_
      · exact reset
      · simp [split]
      · rw [buffer, drained, position, streamOf_append]
        simp [streamOf, ClientRequest.bytes, cut]
      · rw [keeps.given, given, output]
        simp [ClientRequest.output, cut]

/-- Whatever the write of the backend's bytes does, the client's bytes stay where they are. -/
theorem keeps_of_passing {prepared after : LoadBalancer} {isRequest go : Bool} {message : Bytes}
    (linked : Linked lb backend client back front) (ready : Prepared lb prepared backend back message)
    (backendClient : lb.clientOf backend = client) (different : backend ≠ client)
    (saneBackend : Sane prepared backend) (saneClient : Sane prepared client)
    (request : (prepared.httpState client).requestParsed = (lb.httpState client).requestParsed)
    (passing : Passing lb prepared after isRequest backend client back front message go) :
    Gone after client backend ∨ Keeps True lb after client backend front := by
  have setting : SameSetting lb prepared :=
    ⟨ready.settings, ready.order, ready.clients, fun fd => by rw [ready.kernel]⟩
  cases passing with
  | hold same =>
    subst same
    obtain ⟨blocked, there⟩ := ready.linked lb linked
    refine Or.inr ⟨⟨_, _, there.symm, rfl⟩, ?_, setting, saneBackend, saneClient, Or.inl request⟩
    rw [there.outbound_source, linked.outbound_source, ready.kernel]
  | hand moves parsing =>
    obtain ⟨back', front', there, _, _, buffer, _⟩ := moves.ends
    have sameBackend : SameParsing (prepared.httpState backend) (after.httpState backend) := by
      rcases parsing with all | ⟨_, _, others⟩
      · exact all backend
      · apply others
        rw [clientOf_congr ready.clients, backendClient]
        exact different
    refine Or.inr ⟨⟨_, _, there.symm, buffer⟩, ?_, moves.setting, saneBackend.of_parsing sameBackend, ?_, ?_⟩
    · rw [moves.kept, linked.outbound_source]
    · rcases parsing with all | ⟨_, reset, _⟩
      · exact saneClient.of_parsing (all client)
      · rw [clientOf_congr ready.clients, backendClient] at reset
        apply Sane.of_unparsed
        rw [reset]
    · rcases parsing with all | ⟨_, reset, _⟩
      · exact Or.inl ((all client).requestParsed.trans request)
      · rw [clientOf_congr ready.clients, backendClient] at reset
        exact Or.inr ⟨trivial, by rw [reset]⟩
  | close closes => exact Or.inl ⟨closes.targetGone, closes.sourceGone⟩

/-- A segment of the backend leaves the client's bytes where they are. -/
theorem backend_read_keeps (alive : Alive start lb client backend front back)
    (backendClient : lb.clientOf backend = client) (segment : Bytes) :
    Gone ((grown lb backend segment).httpForward backend client) client backend ∨
      Keeps True lb ((grown lb backend segment).httpForward backend client) client backend front := by
  have linked := grown_linked lb alive.linked.symm segment
  have states (fd : Fd) := grown_httpState lb backend fd segment
  have sane (fd : Fd) (before : Sane lb fd) : Sane (grown lb backend segment) fd := by
    unfold Sane
    rw [states]
    exact before
  have clients : (grown lb backend segment).clientOf backend = client := by
    rw [clientOf_congr (grown_setting lb backend segment).clients]
    exact backendClient
  have different : backend ≠ client := linked.different
  have given : outbound (grown lb backend segment) backend = outbound lb backend := by
    rw [linked.outbound_source, alive.linked.symm.outbound_source, grown_kernel]
  -- what the turn keeps of the state after the read it keeps of the state before
  have whole {after : LoadBalancer} (result : Gone after client backend ∨
      Keeps True (grown lb backend segment) after client backend front) :
      Gone after client backend ∨ Keeps True lb after client backend front := by
    rcases result with gone | keeps
    · exact Or.inl gone
    · refine Or.inr ⟨keeps.pair, keeps.given.trans given, (grown_setting lb backend segment).trans keeps.setting,
        keeps.saneBackend, keeps.saneClient, ?_⟩
      rw [← states client]
      exact keeps.request
  apply whole
  by_cases empty : back.readBuf ++ segment = []
  · rw [httpForward_empty _ linked empty]
    exact Or.inr ⟨⟨_, _, linked.symm, rfl⟩, rfl, .refl _, sane backend alive.saneBackend, sane client alive.saneClient,
      Or.inl rfl⟩
  · by_cases isRequest : isHttpRequest (back.readBuf ++ segment) = true
    · obtain ⟨prepared, go, message, ready, others, kind, passing⟩ :=
        httpForward_request _ linked isRequest (sane backend alive.saneBackend)
      have same := others client different.symm
      refine keeps_of_passing linked ready clients different (kind.sane (sane backend alive.saneBackend)) ?_ ?_ passing
      · unfold Sane
        rw [same]
        exact sane client alive.saneClient
      · rw [same]
    · obtain ⟨prepared, go, message, ready, others, kind, passing⟩ :=
        httpForward_other _ linked empty (by simpa using isRequest)
      rw [clients] at others kind
      obtain ⟨parser, parsed⟩ := kind.request
      have same := others backend different
      refine keeps_of_passing linked ready clients different ?_ ?_ parsed passing
      · unfold Sane
        rw [same]
        exact sane backend alive.saneBackend
      · unfold Sane
        rw [parser, parsed]
        exact sane client alive.saneClient

/-- So does a write on either side. -/
theorem flush_keeps (alive : Alive start lb client backend front back) :
    (Gone (flush lb client) client backend ∨ Keeps False lb (flush lb client) client backend front) ∧
      (Gone (flush lb backend) client backend ∨ Keeps False lb (flush lb backend) client backend front) := by
  have sane {after : LoadBalancer} (states : after.httpStates = lb.httpStates) (fd : Fd) (before : Sane lb fd) :
      Sane after fd := by
    unfold Sane
    rw [httpState_congr states]
    exact before
  constructor
  · rcases flush_outcome lb alive.linked with ⟨wrote, linked, buffer, _, given, setting, states⟩ | gone
    · refine Or.inr ⟨⟨wrote, back, linked, buffer⟩, given, setting, sane states backend alive.saneBackend,
        sane states client alive.saneClient, Or.inl ?_⟩
      rw [httpState_congr states]
    · exact Or.inl gone
  · rcases flush_outcome lb alive.linked.symm with ⟨wrote, linked, _, given, _, setting, states⟩ | gone
    · refine Or.inr ⟨⟨front, wrote, linked.symm, rfl⟩, given, setting, sane states backend alive.saneBackend,
        sane states client alive.saneClient, Or.inl ?_⟩
      rw [httpState_congr states]
    · exact Or.inl gone.symm

theorem Alive.grown (alive : Alive start lb client backend front back) (segment : Bytes) :
    Alive start (grown lb client segment) client backend { front with readBuf := front.readBuf ++ segment } back where
  linked := grown_linked lb alive.linked segment
  setting := alive.setting.trans (grown_setting lb client segment)
  saneClient := by
    unfold Sane
    rw [grown_httpState]
    exact alive.saneClient
  saneBackend := by
    unfold Sane
    rw [grown_httpState]
    exact alive.saneBackend

/-- The backend has been given the first bytes of a message, and the client's
buffer holds the others. -/
def Split (before after : LoadBalancer) (client backend : Fd) (start : LoadBalancer) (message : Bytes) : Prop :=
  ∃ front back old new, Alive start after client backend front back ∧ (after.httpState client).requestParsed = true ∧
    outbound before backend = some old ∧ outbound after backend = some new ∧ new ++ front.readBuf = old ++ message

/-- A message of the client that goes on is split, or the pair ends. -/
theorem split_of_passing {prepared after : LoadBalancer} {isRequest : Bool} {message : Bytes}
    (alive : Alive start lb client backend front back) (noClient : prepared.clientOf client ≠ client)
    (notBackend : prepared.clientOf client ≠ backend)
    (saneClient : Sane prepared client) (saneBackend : Sane prepared backend)
    (parsed : (prepared.httpState client).requestParsed = true)
    (passing : Passing lb prepared after isRequest client backend front back message true) :
    Gone after client backend ∨ Split lb after client backend start message := by
  cases passing with
  | hand moves parsing =>
    obtain ⟨front', back', there, buffer, _⟩ := moves.ends
    have same (fd : Fd) (different : fd ≠ prepared.clientOf client) :
        SameParsing (prepared.httpState fd) (after.httpState fd) := by
      rcases parsing with all | ⟨_, _, others⟩
      · exact all fd
      · exact others fd different
    have alive' : Alive start after client backend front' back' :=
      ⟨there, alive.setting.trans moves.setting, saneClient.of_parsing (same client noClient.symm),
        saneBackend.of_parsing (same backend notBackend.symm)⟩
    refine Or.inr ⟨front', back', _, _, alive', ?_, alive.linked.symm.outbound_source, moves.given, ?_⟩
    · rw [(same client noClient.symm).requestParsed, parsed]
    · rw [buffer, List.append_assoc, List.take_append_drop]
  | close closes => exact Or.inl ⟨closes.sourceGone, closes.targetGone⟩

/-- More bytes of a request that was rewritten go on as they are. -/
theorem client_read_again (alive : Alive start lb client backend front back) (noClient : lb.clientOf client = 0)
    (positive : 0 < client) (notZero : 0 < backend) (parsed : (lb.httpState client).requestParsed = true)
    (nonempty : front.readBuf ≠ []) :
    Gone (lb.httpForward client backend) client backend ∨
      Split lb (lb.httpForward client backend) client backend start front.readBuf := by
  have different := alive.linked.different
  have zero {prepared : LoadBalancer} (clients : prepared.backendToClientMap = lb.backendToClientMap) :
      prepared.clientOf client ≠ client ∧ prepared.clientOf client ≠ backend := by
    rw [clientOf_congr clients, noClient]
    exact ⟨(Nat.ne_of_gt positive).symm, (Nat.ne_of_gt notZero).symm⟩
  by_cases isRequest : isHttpRequest front.readBuf = true
  · obtain ⟨prepared, go, message, ready, others, kind, passing⟩ :=
      httpForward_request lb alive.linked isRequest alive.saneClient
    obtain ⟨notSelf, notBackend⟩ := zero ready.clients
    have saneClient := kind.sane alive.saneClient
    have saneBackend : Sane prepared backend := by
      unfold Sane
      rw [others backend different.symm]
      exact alive.saneBackend
    cases kind with
    | again _ same => exact split_of_passing alive notSelf notBackend saneClient saneBackend (by rw [same, parsed]) passing
    | rewrite unparsed _ _ _ => simp [unparsed] at parsed
    | refuse unparsed _ _ _ => simp [unparsed] at parsed
    | wait unparsed _ _ => simp [unparsed] at parsed
  · obtain ⟨prepared, go, message, ready, others, kind, passing⟩ :=
      httpForward_other lb alive.linked nonempty (by simpa using isRequest)
    obtain ⟨notSelf, notBackend⟩ := zero ready.clients
    rw [noClient] at others kind
    have same := others client (Nat.ne_of_gt positive)
    have saneClient : Sane prepared client := by
      unfold Sane
      rw [same]
      exact alive.saneClient
    have saneBackend : Sane prepared backend := by
      unfold Sane
      rw [others backend (Nat.ne_of_gt notZero)]
      exact alive.saneBackend
    cases kind with
    | plain _ _ => exact split_of_passing alive notSelf notBackend saneClient saneBackend (by rw [same, parsed]) passing
    | again some _ _ => exact absurd some (Nat.lt_irrefl 0)
    | rewrite _ some _ _ _ => exact absurd some (Nat.lt_irrefl 0)
    | refuse _ some _ _ _ => exact absurd some (Nat.lt_irrefl 0)
    | wait some _ _ _ => exact absurd some (Nat.lt_irrefl 0)

/-- The buffer begins with a request that was not rewritten yet: it waits, or its
rewriting goes on. -/
theorem client_read_first (alive : Alive start lb client backend front back) (noClient : lb.clientOf client = 0)
    (positive : 0 < client) (notZero : 0 < backend) (unparsed : (lb.httpState client).requestParsed = false)
    (isRequest : isHttpRequest front.readBuf = true) :
    Gone (lb.httpForward client backend) client backend ∨
      (∃ front' back', Alive start (lb.httpForward client backend) client backend front' back' ∧
        front'.readBuf = front.readBuf ∧ ((lb.httpForward client backend).httpState client).requestParsed = false ∧
        outbound (lb.httpForward client backend) backend = outbound lb backend) ∨
      (((lb.httpState client).parser.parse front.readBuf).complete = true ∧
        Split lb (lb.httpForward client backend) client backend start (requestMessage lb client front.readBuf)) := by
  have different := alive.linked.different
  obtain ⟨prepared, go, message, ready, others, kind, passing⟩ :=
    httpForward_request lb alive.linked isRequest alive.saneClient
  have saneClient := kind.sane alive.saneClient
  have saneBackend : Sane prepared backend := by
    unfold Sane
    rw [others backend different.symm]
    exact alive.saneBackend
  have setting : SameSetting lb prepared :=
    ⟨ready.settings, ready.order, ready.clients, fun fd => by rw [ready.kernel]⟩
  obtain ⟨blocked, there⟩ := ready.linked lb alive.linked
  have given : outbound prepared backend = outbound lb backend := by
    rw [there.symm.outbound_source, alive.linked.symm.outbound_source, ready.kernel]
  have alive' := Alive.mk there (alive.setting.trans setting) saneClient saneBackend
  cases kind with
  | again parsed _ => simp [unparsed] at parsed
  | rewrite _ complete parsed _ =>
    have zero : prepared.clientOf client = 0 := by rw [clientOf_congr ready.clients, noClient]
    have result := split_of_passing alive (by rw [zero]; exact (Nat.ne_of_gt positive).symm)
      (by rw [zero]; exact (Nat.ne_of_gt notZero).symm) saneClient saneBackend parsed passing
    exact result.imp_right fun split => Or.inr ⟨complete, split⟩
  | refuse _ _ unmarked _ =>
    cases passing with
    | hold same =>
      rw [same]
      exact Or.inr (Or.inl ⟨_, _, alive', rfl, unmarked, given⟩)
  | wait _ _ same =>
    have unmarked : (prepared.httpState client).requestParsed = false := by
      rw [same]
      exact unparsed
    cases passing with
    | hold held =>
      rw [held]
      exact Or.inr (Or.inl ⟨_, _, alive', rfl, unmarked, given⟩)

theorem environment_alive (alive : Alive start lb client backend front back) (budget : MemoryBudget)
    (answers : List Answer) : Alive start (environment lb budget answers) client backend front back :=
  ⟨{ alive.linked with }, { alive.setting with }, alive.saneClient, alive.saneBackend⟩

theorem environment_phase (phase : Phase requests start client backend base lb front delivered) (budget : MemoryBudget)
    (answers : List Answer) : Phase requests start client backend base (environment lb budget answers) front delivered := by
  cases phase with
  | collecting done rest unparsed split position given => exact .collecting done rest unparsed split position given
  | passing done request rest body later sent parsed split cut position given output =>
    exact .passing done request rest body later sent parsed split cut position given output

/-- The bytes read so far, cut at the last request. -/
theorem collecting_read {done rest : List ClientRequest} {buffer : Bytes}
    (wellFormed : ∀ request ∈ requests, request.WellFormed) (split : requests = done ++ rest)
    (prefixed : streamOf done ++ buffer <+: streamOf requests) (nonempty : buffer ≠ [])
    (complete : (HttpRequestParser.initial.parse buffer).complete = true)
    (consumed : (HttpRequestParser.initial.parse buffer).consumed = buffer.length) :
    ∃ request later, rest = request :: later ∧ buffer = request.head := by
  rw [split, streamOf_append, List.prefix_append_right_inj] at prefixed
  cases rest with
  | nil => exact absurd (List.prefix_nil.mp prefixed) nonempty
  | cons request later =>
    refine ⟨request, later, rfl, (wellFormed request (by simp [split])).unique complete consumed prefixed ?_⟩
    rw [streamOf_cons, ClientRequest.bytes, List.append_assoc]
    exact List.prefix_append _ _

theorem alive_outbound_grown (alive : Alive start lb client backend front back) (segment : Bytes) :
    outbound (grown lb client segment) backend = outbound lb backend := by
  have alive' := alive.grown segment
  rw [alive'.linked.symm.outbound_source, alive.linked.symm.outbound_source, grown_kernel]

theorem alive_clientOf_grown (alive : Alive start lb client backend front back) (idle : Idle start client backend)
    (segment : Bytes) : (grown lb client segment).clientOf client = 0 := by
  have alive' := alive.grown segment
  rw [clientOf_congr alive'.setting.clients]
  unfold LoadBalancer.clientOf
  rw [idle.isClient]
  rfl

/-- Nothing was read, and nothing waited. -/
theorem client_read_empty (alive : Alive start lb client backend front back)
    (phase : Phase requests start client backend base lb front delivered) {segment : Bytes}
    (empty : front.readBuf ++ segment = []) : Tracks requests start client backend base
      ((grown lb client segment).httpForward client backend, delivered ++ segment) := by
  have alive' := alive.grown segment
  have states := grown_httpState lb client client segment
  have given := alive_outbound_grown alive segment
  have none : segment = [] := (List.append_eq_nil_iff.mp empty).2
  have unread : front.readBuf = [] := (List.append_eq_nil_iff.mp empty).1
  rw [httpForward_empty _ alive'.linked empty]
  refine Or.inr ⟨_, _, alive', ?_⟩
  cases phase with
  | collecting done rest unparsed split position given' =>
    refine .collecting done rest ?_ split ?_ ?_
    · rw [states, unparsed]
    · rw [position, List.append_assoc]
    · rw [given, given']
  | passing done request rest body later sent parsed split cut position given' output =>
    refine .passing done request rest body later sent ?_ split cut ?_ ?_ ?_
    · rw [states, parsed]
    · rw [none, List.append_nil, position]
    · rw [given, given']
    · rw [empty, ← unread]
      exact output

/-- A segment that is read before the rewriting of a request: the request is collected, or is whole and begins to
pass. -/
theorem client_read_collecting (idle : Idle start client backend) (wellFormed : ∀ request ∈ requests, request.WellFormed)
    (alive : Alive start lb client backend front back) {done rest : List ClientRequest}
    (unparsed : (lb.httpState client).requestParsed = false) (split : requests = done ++ rest)
    (position : delivered = streamOf done ++ front.readBuf)
    (given' : outbound lb backend = some (base ++ done.flatMap (ClientRequest.output start client))) {segment : Bytes}
    (nonempty : front.readBuf ++ segment ≠ []) (isRequest : isHttpRequest (front.readBuf ++ segment) = true)
    (first : ((lb.httpState client).parser.parse (front.readBuf ++ segment)).complete = true →
      (lb.httpState client).parser = .initial ∧
      ((lb.httpState client).parser.parse (front.readBuf ++ segment)).consumed = (front.readBuf ++ segment).length)
    (prefixed : delivered ++ segment <+: streamOf requests) : Tracks requests start client backend base
      ((grown lb client segment).httpForward client backend, delivered ++ segment) := by
  have alive' := alive.grown segment
  have states := grown_httpState lb client client segment
  have given := alive_outbound_grown alive segment
  have cut : delivered ++ segment = streamOf done ++ (front.readBuf ++ segment) := by
    rw [position, List.append_assoc]
  rcases client_read_first alive' (alive_clientOf_grown alive idle segment) idle.positive idle.backendPositive
    (by rw [states, unparsed]) isRequest with
    gone | ⟨front', back', alive'', buffer, unmarked, same⟩ |
    ⟨complete, front', back', old, new, alive'', parsed, before, after, message⟩
  · exact Or.inl gone
  · refine Or.inr ⟨front', back', alive'', .collecting done rest unmarked split ?_ ?_⟩
    · rw [buffer]
      exact cut
    · rw [same, given, given']
  · rw [states] at complete
    obtain ⟨fresh, consumed⟩ := first complete
    rw [fresh] at complete consumed
    rw [cut] at prefixed
    obtain ⟨request, later, splitRest, head⟩ :=
      collecting_read wellFormed split prefixed nonempty complete consumed
    obtain ⟨front₀, _, linked₀, _⟩ := idle.pair
    have rewritten : requestMessage (grown lb client segment) client (front.readBuf ++ segment) =
        request.rewrittenHead start client := by
      unfold requestMessage ClientRequest.rewrittenHead
      rw [states, fresh, rewrittenRequest_alive ⟨front₀, linked₀.sending⟩ alive', alive'.setting.order, head]
    rw [given, given'] at before
    cases before
    refine Or.inr ⟨front', back', alive'', .passing done request later [] request.body new parsed ?_ ?_ ?_ after ?_⟩
    · rw [split, splitRest]
    · rfl
    · rw [cut, head, List.append_nil]
    · rw [message, rewritten, List.append_nil, List.append_assoc]

/-- A segment that is read while a rewritten request passes belongs to its body. -/
theorem client_read_passing (idle : Idle start client backend) (alive : Alive start lb client backend front back)
    {done rest : List ClientRequest} {request : ClientRequest} {body sent : Bytes}
    (parsed : (lb.httpState client).requestParsed = true) (split : requests = done ++ request :: rest)
    (position : delivered = streamOf done ++ (request.head ++ body)) (given' : outbound lb backend = some sent)
    (output : sent ++ front.readBuf =
      base ++ (done.flatMap (ClientRequest.output start client) ++ (request.rewrittenHead start client ++ body)))
    {segment : Bytes} (nonempty : front.readBuf ++ segment ≠ []) (more : body ++ segment <+: request.body) :
    Tracks requests start client backend base
      ((grown lb client segment).httpForward client backend, delivered ++ segment) := by
  have alive' := alive.grown segment
  have states := grown_httpState lb client client segment
  have given := alive_outbound_grown alive segment
  obtain ⟨left, tail⟩ := more
  rcases client_read_again alive' (alive_clientOf_grown alive idle segment) idle.positive idle.backendPositive
    (by rw [states, parsed]) nonempty with gone | ⟨front', back', old, new, alive'', marked, before, after, message⟩
  · exact Or.inl gone
  · rw [given, given'] at before
    cases before
    refine Or.inr ⟨front', back', alive'', .passing done request rest (body ++ segment) left new marked split tail.symm
      ?_ after ?_⟩
    · rw [position]
      simp only [List.append_assoc]
    · rw [message]
      show sent ++ (front.readBuf ++ segment) = _
      rw [← List.append_assoc, output]
      simp only [List.append_assoc]

/-- What is delivered behind the head of a request, within the request, belongs to its body. -/
theorem passing_read {done rest : List ClientRequest} {request : ClientRequest} {body later segment : Bytes}
    (wellFormed : ∀ request ∈ requests, request.WellFormed) (split : requests = done ++ request :: rest)
    (cut : request.body = body ++ later) (position : delivered = streamOf done ++ (request.head ++ body))
    (within : InBody requests delivered segment) : body ++ segment <+: request.body := by
  obtain ⟨done', request', rest', split', behind, within⟩ := within
  have behindSize := behind.length_le
  have withinSize := within.length_le
  have size := congrArg List.length position
  have bodySize := congrArg List.length cut
  simp only [List.length_append, ClientRequest.bytes] at behindSize withinSize size bodySize
  obtain ⟨sameDone, sameRequest⟩ := @request_at_unique requests wellFormed _ _ _ _ _ _ split split' delivered.length
    (by omega) (by simp only [ClientRequest.bytes, List.length_append]; omega) (by omega)
    (by simp only [ClientRequest.bytes, List.length_append]; omega)
  subst sameDone sameRequest
  rw [position, List.append_assoc, List.append_assoc, ClientRequest.bytes, List.prefix_append_right_inj,
    List.prefix_append_right_inj] at within
  exact within

/-- A segment of the client that fits keeps the invariant. -/
theorem client_read_tracks (idle : Idle start client backend) (wellFormed : ∀ request ∈ requests, request.WellFormed)
    (alive : Alive start lb client backend front back)
    (phase : Phase requests start client backend base lb front delivered) {segment : Bytes}
    (fitting : Fitting requests client lb delivered segment) (prefixed : delivered ++ segment <+: streamOf requests) :
    Tracks requests start client backend base
      ((grown lb client segment).httpForward client backend, delivered ++ segment) := by
  have readBuf : readBufOf lb client = front.readBuf := by
    unfold readBufOf
    rw [alive.linked.sending]
    rfl
  unfold Fitting at fitting
  dsimp only at fitting
  rw [readBuf] at fitting
  by_cases empty : front.readBuf ++ segment = []
  · exact client_read_empty alive phase empty
  · have fits := fitting.resolve_left empty
    cases phase with
    | collecting done rest unparsed split position given =>
      rcases fits with ⟨parsed, _⟩ | ⟨_, isRequest, first⟩
      · simp [unparsed] at parsed
      · exact client_read_collecting idle wellFormed alive unparsed split position given empty isRequest first prefixed
    | passing done request rest body later sent parsed split cut position given output =>
      rcases fits with ⟨_, within⟩ | ⟨unparsed, _⟩
      · exact client_read_passing idle alive parsed split position given output empty
          (passing_read wellFormed split cut position within)
      · simp [parsed] at unparsed

/-- One turn of the run. -/
theorem tracks_deliver (idle : Idle start client backend) (wellFormed : ∀ request ∈ requests, request.WellFormed)
    {state : LoadBalancer × Bytes} {turn : Traffic.Turn} (inStep : InStep requests client state turn)
    (prefixed : state.2 ++ turn.fromClient <+: streamOf requests)
    (tracks : Tracks requests start client backend base state) :
    Tracks requests start client backend base (deliver client backend state turn) := by
  obtain ⟨lb, delivered⟩ := state
  rcases tracks with gone | ⟨front, back, alive, phase⟩
  · exact Or.inl (gone_exchange lb gone turn)
  have alive' := environment_alive alive turn.budget turn.answers
  have phase' := environment_phase phase turn.budget turn.answers
  have backendClient : (environment lb turn.budget turn.answers).clientOf backend = client := by
    rw [clientOf_congr alive'.setting.clients]
    unfold LoadBalancer.clientOf
    rw [idle.isBackend]
    rfl
  have readBuf : readBufOf lb client = front.readBuf := by
    unfold readBufOf
    rw [alive.linked.sending]
    rfl
  -- every turn but the read of a client's segment leaves its bytes alone
  have kept {mayReset : Prop} {after : LoadBalancer} (outcome : Gone after client backend ∨
      Keeps mayReset (environment lb turn.budget turn.answers) after client backend front)
      (inStep : mayReset → (lb.httpState client).requestParsed = true →
        front.readBuf = [] ∧ AtEnd requests delivered) :
      Tracks requests start client backend base (after, delivered ++ []) := by
    rcases outcome with gone | keeps
    · exact Or.inl gone
    · obtain ⟨front', back', alive'', buffer⟩ := keeps.alive alive'
      rw [List.append_nil]
      exact Or.inr ⟨front', back', alive'', phase'.keeps wellFormed keeps buffer inStep⟩
  obtain ⟨act, budget, answers⟩ := turn
  unfold InStep at inStep
  cases act with
  | read side segment =>
    cases side with
    | client => exact client_read_tracks idle wellFormed alive' phase' inStep prefixed
    | backend =>
      apply kept (backend_read_keeps alive' backendClient segment)
      intro _ parsed
      rw [← readBuf]
      exact inStep parsed
  | write side =>
    cases side with
    | client => exact kept (flush_keeps alive').1 False.elim
    | backend => exact kept (flush_keeps alive').2 False.elim

/-- The bytes delivered are those of the turns. -/
theorem run_deliver_snd (client backend : Fd) (lb : LoadBalancer) (turns : List Traffic.Turn) :
    (run (deliver client backend) (lb, []) turns).2 = turns.flatMap Traffic.Turn.fromClient := by
  induction turns using List.reverseRecOn with
  | nil => rfl
  | append_singleton turns turn ih =>
    rw [run_append, List.flatMap_append, ← ih]
    simp [deliver]

theorem tracks_idle (idle : Idle start client backend) (given : outbound start backend = some base) :
    Tracks requests start client backend base (start, []) := by
  obtain ⟨front, back, linked, empty⟩ := idle.pair
  refine Or.inr ⟨front, back, ⟨linked, .refl start, .of_unparsed idle.unparsed, .of_unparsed idle.backendUnparsed⟩, ?_⟩
  refine .collecting [] requests idle.unparsed rfl ?_ ?_
  · rw [empty]
    rfl
  · rw [given]
    simp

/-- What the backend has been given is the beginning of the rewritten requests. -/
theorem Tracks.rewritten {state : LoadBalancer × Bytes} (tracks : Tracks requests start client backend base state)
    {sent : Bytes} (given : outbound state.1 backend = some sent) :
    sent <+: base ++ requests.flatMap (ClientRequest.output start client) := by
  rcases tracks with ⟨_, gone⟩ | ⟨front, back, _, phase⟩
  · unfold outbound at given
    rw [gone] at given
    cases given
  cases phase with
  | collecting done rest unparsed split position served =>
    rw [given] at served
    cases served
    rw [split, List.flatMap_append, ← List.append_assoc]
    exact List.prefix_append _ _
  | passing done request rest body later sent' parsed split cut position served output =>
    rw [given] at served
    cases served
    have whole : request.rewrittenHead start client ++ body <+:
        (request :: rest).flatMap (ClientRequest.output start client) := by
      rw [List.flatMap_cons, ClientRequest.output, cut]
      simp only [List.append_assoc, List.prefix_append_right_inj]
      exact List.prefix_append _ _
    calc sent <+: sent ++ front.readBuf := List.prefix_append _ _
      _ = base ++ (done.flatMap (ClientRequest.output start client) ++ (request.rewrittenHead start client ++ body)) := output
      _ <+: base ++ requests.flatMap (ClientRequest.output start client) := by
        rw [split, List.flatMap_append, List.prefix_append_right_inj, List.prefix_append_right_inj]
        exact whole

end Heads

/-- While its turns keep in step, everything the backend is given consists of the
rewritten heads of the requests and of their bodies, in order. -/
theorem request_heads_rewritten {lb : LoadBalancer} {client backend : Fd} {requests : List ClientRequest}
    {turns : List Traffic.Turn} {base : Bytes} (idle : Idle lb client backend) (begins : outbound lb backend = some base)
    (wellFormed : ∀ request ∈ requests, request.WellFormed)
    (stream : turns.flatMap Traffic.Turn.fromClient <+: streamOf requests)
    (inStep : Meets (deliver client backend) (InStep requests client) (lb, []) turns) :
    ∀ sent, outbound (run (exchange client backend) lb turns) backend = some sent →
      sent <+: base ++ requests.flatMap (ClientRequest.output lb client) := by
  intro sent given
  have state (turns : List Traffic.Turn) :
      (run (deliver client backend) (lb, []) turns).1 = run (exchange client backend) lb turns := by
    induction turns using List.reverseRecOn with
    | nil => rfl
    | append_singleton turns turn ih =>
      rw [run_append, run_append, ← ih]
      rfl
  have meets : Meets (deliver client backend)
      (fun state turn => InStep requests client state turn ∧ state.2 ++ turn.fromClient <+: streamOf requests)
      (lb, []) turns := by
    intro before turn after split
    refine ⟨inStep before turn after split, ?_⟩
    rw [run_deliver_snd]
    apply List.IsPrefix.trans _ stream
    rw [split, List.flatMap_append, List.flatMap_cons, ← List.append_assoc]
    exact List.prefix_append _ _
  have tracks : Tracks requests lb client backend base (run (deliver client backend) (lb, []) turns) :=
    @run_invariant_of_meets _ _ _ _ (Tracks requests lb client backend base) _ (tracks_idle idle begins)
      (fun _ _ condition holds => tracks_deliver idle wellFormed condition.1 condition.2 holds) _ meets
  apply tracks.rewritten
  rw [state]
  exact given

/-- A client on descriptor 5 with a backend on descriptor 6. -/
def pairedRun : List Input :=
  [⟨.addBackend 0 (ascii "b") 80 1, []⟩, ⟨.accept 5 (ascii "c"), [.ok 6, .ok 0, .ok 0]⟩]

theorem pairedRun_idle : Idle (reached unlimitedSetup pairedRun) 5 6 where
  pair := by
    refine ⟨{ fd := 5, peer := some 6, accounted := true }, { fd := 6, peer := some 5, accounted := true }, ?_, rfl⟩
    constructor <;> decide +kernel
  isClient := by decide +kernel
  isBackend := by decide +kernel
  positive := by decide
  backendPositive := by decide
  unparsed := by decide +kernel
  backendUnparsed := by decide +kernel

/-- The client's segments, each of which is written to the backend at once. -/
def clientReads (segments : List Bytes) : List Traffic.Turn :=
  segments.map fun segment => ⟨.read .client segment, { limit := 0, used := 0 }, [.ok 1000, .ok 0]⟩

/-- A request that comes in whole is rewritten. -/
theorem request_heads_rewritten_whole :
    Idle (reached unlimitedSetup pairedRun) 5 6 ∧
    ∀ sent, outbound (run (exchange 5 6) (reached unlimitedSetup pairedRun) (clientReads [plainGet])) 6 = some sent →
      sent <+: [] ++ [(⟨plainGet, []⟩ : ClientRequest)].flatMap
        (ClientRequest.output (reached unlimitedSetup pairedRun) 5) := by
  have fresh : (reached unlimitedSetup pairedRun).httpState 5 = {} := by
    have none : (reached unlimitedSetup pairedRun).httpStates.find 5 = none :=
      Option.isNone_iff_eq_none.mp (by decide +kernel)
    unfold LoadBalancer.httpState
    rw [none]
    rfl
  refine ⟨pairedRun_idle, request_heads_rewritten pairedRun_idle (by decide +kernel) ?_ (by decide) ?_⟩
  · intro request member
    rw [List.mem_singleton.mp member]
    decide +kernel
  · apply Meets.single
    exact Or.inr (Or.inr ⟨by decide +kernel, by decide +kernel, fun _ => ⟨by rw [fresh], by decide +kernel⟩⟩)

/-- A head whose method is cut in two goes on as it came. -/
theorem request_head_verbatim :
    ¬∀ (lb : LoadBalancer) (client backend : Fd) (requests : List ClientRequest) (turns : List Traffic.Turn) (base : Bytes),
      Idle lb client backend → outbound lb backend = some base → (∀ request ∈ requests, request.WellFormed) →
      turns.flatMap Traffic.Turn.fromClient <+: streamOf requests →
      ∀ sent, outbound (run (exchange client backend) lb turns) backend = some sent →
        sent <+: base ++ requests.flatMap (ClientRequest.output lb client) := by
  intro always
  have verbatim : outbound (run (exchange 5 6) (reached unlimitedSetup pairedRun)
      (clientReads [plainGet.take 2, plainGet.drop 2])) 6 = some plainGet := by decide +kernel
  have one : ∀ request ∈ [(⟨plainGet, []⟩ : ClientRequest)], request.WellFormed := by
    intro request member
    rw [List.mem_singleton.mp member]
    decide +kernel
  have rewritten := always _ 5 6 [⟨plainGet, []⟩] _ [] pairedRun_idle (by decide +kernel) one (by decide) _ verbatim
  revert rewritten
  decide +kernel

end Balancer.Guarantees
