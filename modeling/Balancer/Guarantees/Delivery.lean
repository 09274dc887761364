import Balancer.Guarantees.Injection

/-! How the cutting of a response into segments shows in what its client is given. -/

namespace Balancer.Guarantees
open Foundation Http Net Core Refinement Traffic

/-- The bytes a turn reads from the backend. -/
def fromBackend (turn : Traffic.Turn) : Bytes :=
  match turn.act with
  | .read .backend segment => segment
  | _ => []

/-- The turns read this stream from the backend, segment by segment. -/
structure Reads (turns : List Traffic.Turn) (stream : Bytes) : Prop where
  acts : ∀ turn ∈ turns, turn.act = .read .backend (fromBackend turn)
  bytes : turns.flatMap fromBackend = stream
  short : stream.length ≤ maxBufferSize

/-- The request of a client was handed on, and nothing of its response has come in. -/
structure Waiting (lb : LoadBalancer) (client backend : Fd) (front back : Connection) : Prop where
  linked : Linked lb backend client back front
  positive : 0 < client
  isBackend : lb.backendToClientMap.find backend = some client
  empty : back.readBuf = []
  drained : front.writeBuf = []
  requested : (lb.httpState client).requestParsed = true
  unanswered : (lb.httpState client).responseParsed = false
  fresh : (lb.httpState client).responseParser = .initial

/-- The client takes what is written to it, and the budget grants the message. -/
def Supplied (client backend : Fd) (lb : LoadBalancer) (turn : Traffic.Turn) : Prop :=
  Ready { lb.kernel with answers := turn.answers } client maxBufferSize ∧
    ∀ back, lb.connections.find backend = some back →
      Grants turn.budget { back with readBuf := back.readBuf ++ fromBackend turn }
        (responseMessage lb client (back.readBuf ++ fromBackend turn))

/-- When a segment is read before the cutting can show: nothing of the response
was parsed so far; or it was handed on and not declared complete, announces no
length and fits the client's buffer, and the segment begins with no method. -/
def Unbroken (start : LoadBalancer) (stream : Bytes) (client backend : Fd) (lb : LoadBalancer) (turn : Traffic.Turn) : Prop :=
  let state := lb.httpState client
  state.requestParsed = true ∧
    ((state.responseParsed = false ∧ state.responseParser = .initial) ∨
      (state.responseParsed = true ∧ (HttpResponseParser.initial.parse stream).parser.contentLength = 0 ∧
        (responseMessage start client stream).length ≤ maxBufferSize ∧
        isHttpRequest (readBufOf lb backend ++ fromBackend turn) = false))

/-- How far the client has been served after `delivered` bytes of the response. -/
inductive Served (start : LoadBalancer) (stream : Bytes) (client backend : Fd) (base : Bytes) (lb : LoadBalancer)
    (delivered : Bytes) : Prop
  | waiting (front back : Connection) : Linked lb backend client back front → SameRewriting start lb →
      front.writeBuf = [] → back.readBuf = delivered → outbound lb client = some base →
      (lb.httpState client).responseParsed = false →
      (HttpResponseParser.initial.parse delivered).complete = false →
      Served start stream client backend base lb delivered
  | answered (front back : Connection) (head more : Bytes) : Linked lb backend client back front →
      lb.backendToClientMap = start.backendToClientMap → front.writeBuf = [] → delivered = head ++ more →
      (HttpResponseParser.initial.parse head).complete = true →
      outbound lb client = some (base ++ (responseMessage start client head ++ more).take maxBufferSize) →
      back.readBuf = (responseMessage start client head ++ more).drop maxBufferSize →
      (more = [] ∨ (HttpResponseParser.initial.parse stream).parser.contentLength = 0) →
      ((lb.httpState client).responseParsed = true ∨ (lb.httpState client).requestParsed = false) →
      Served start stream client backend base lb delivered

section Responses
variable {start lb : LoadBalancer} {client backend : Fd} {front back : Connection} {stream base delivered : Bytes}

theorem isHttpRequest_append {buffer : Bytes} (isRequest : isHttpRequest buffer = true) (more : Bytes) :
    isHttpRequest (buffer ++ more) = true := by
  unfold isHttpRequest at isRequest ⊢
  simp only [Bool.and_eq_true, decide_eq_true_eq, List.any_eq_true, List.isPrefixOf_iff_prefix] at isRequest ⊢
  obtain ⟨long, method, known, begins⟩ := isRequest
  refine ⟨?_, method, known, begins.trans (List.prefix_append _ _)⟩
  rw [List.length_append]
  omega

/-- The rewriting of a response leaves its body alone. -/
theorem rewrittenResponse_body (lb : LoadBalancer) (client : Fd) (response : ParsedHttpResponse) (body : Bytes) :
    rewrittenResponse lb client { response with body := body } =
      { rewrittenResponse lb client response with body := body } := by
  unfold rewrittenResponse LoadBalancer.injectCookie applyCustomHeaders
  cases lb.settings.responseRules <;> cases lb.settings.cookie <;> rfl

theorem rewrittenResponse_kept_body (lb : LoadBalancer) (client : Fd) (response : ParsedHttpResponse) :
    (rewrittenResponse lb client response).body = response.body := by
  unfold rewrittenResponse LoadBalancer.injectCookie applyCustomHeaders
  cases lb.settings.responseRules <;> cases lb.settings.cookie <;> rfl

/-- Bytes behind a response without a length go on behind its rewriting. -/
theorem responseMessage_append (fresh : (start.httpState client).responseParser = .initial) (head more : Bytes)
    (done : (HttpResponseParser.initial.parse head).complete = true)
    (unannounced : (HttpResponseParser.initial.parse (head ++ more)).parser.contentLength = 0) :
    responseMessage start client (head ++ more) = responseMessage start client head ++ more := by
  have whole := (HttpResponseParser.parse_append_unannounced head more done unannounced).2
  unfold responseMessage
  rw [fresh, whole, rewrittenResponse_body]
  unfold serializeHttpResponse serializeRest
  dsimp only
  rw [rewrittenResponse_kept_body]
  simp only [List.append_assoc]

/-- The first bytes of a message that goes on are with the client, which is drained again. -/
structure Handed (before prepared after : LoadBalancer) (client backend : Fd) (message : Bytes) : Prop where
  pair : ∃ front back, Linked after backend client back front ∧ front.writeBuf = [] ∧
    back.readBuf = message.drop maxBufferSize
  given : ∀ sent, outbound before client = some sent →
    outbound after client = some (sent ++ message.take maxBufferSize)
  clients : after.backendToClientMap = before.backendToClientMap
  parsing : KeepsParsing false backend prepared after

theorem handed_of_passing {prepared after : LoadBalancer} {message : Bytes}
    (linked : Linked lb backend client back front) (drained : front.writeBuf = []) (nonempty : message ≠ [])
    (ready : Ready lb.kernel client maxBufferSize)
    (passing : Passing lb prepared after false backend client back front message true) :
    Handed lb prepared after client backend message := by
  have room : front.writeAvailable = maxBufferSize := by
    rw [writeAvailable_eq (by simp [drained]), drained]
    rfl
  have size : 0 < message.length := List.length_pos_iff.mpr nonempty
  have full (bytes : Bytes) : bytes.take (min bytes.length maxBufferSize) = bytes.take maxBufferSize ∧
      bytes.drop (min bytes.length maxBufferSize) = bytes.drop maxBufferSize := by
    rcases Nat.le_total bytes.length maxBufferSize with short | long
    · rw [Nat.min_eq_left short, List.take_length, List.drop_length, List.take_of_length_le short,
        List.drop_of_length_le short]
      exact ⟨rfl, rfl⟩
    · rw [Nat.min_eq_right long]
      exact ⟨rfl, rfl⟩
  have enough : Ready lb.kernel client (front.writeBuf.length + min message.length front.writeAvailable) := by
    apply ready.mono
    rw [drained, room, List.length_nil, Nat.zero_add]
    exact Nat.min_le_right _ _
  cases passing with
  | hand moves parsing =>
    obtain ⟨back', front', there, rest, _, _, written⟩ := moves.ends
    refine ⟨⟨front', back', there, written ?_ enough, ?_⟩, ?_, moves.setting.clients, parsing⟩
    · rw [room]
      simp only [maxBufferSize]
      omega
    · rw [rest, room, (full message).2]
    · intro sent before
      rw [linked.symm.outbound_source] at before
      cases before
      rw [moves.given, room, (full message).1]
  | close closes => exact absurd enough closes.unready

/-- The state in which `forward` is called for a segment of the backend. -/
def received (backend : Fd) (lb : LoadBalancer) (turn : Traffic.Turn) : LoadBalancer :=
  grown (environment lb turn.budget turn.answers) backend (fromBackend turn)

theorem received_eq (backend : Fd) (lb : LoadBalancer) (turn : Traffic.Turn) :
    ∃ connections, received backend lb turn =
      { lb with budget := turn.budget, kernel := { lb.kernel with answers := turn.answers }, connections := connections } :=
  grown_frame (environment lb turn.budget turn.answers) backend (fromBackend turn)

theorem exchange_received {turn : Traffic.Turn} (reads : turn.act = .read .backend (fromBackend turn)) (client backend : Fd)
    (lb : LoadBalancer) :
    exchange client backend lb turn = (received backend lb turn).httpForward backend client := by
  unfold exchange received
  dsimp only
  rw [reads]

theorem received_linked (linked : Linked lb backend client back front) (turn : Traffic.Turn) :
    Linked (received backend lb turn) backend client { back with readBuf := back.readBuf ++ fromBackend turn } front :=
  grown_linked (environment lb turn.budget turn.answers) { linked with } (fromBackend turn)

theorem received_outbound (linked : Linked lb backend client back front) (turn : Traffic.Turn) :
    outbound (received backend lb turn) client = outbound lb client := by
  rw [(received_linked linked turn).symm.outbound_source, linked.symm.outbound_source]
  unfold received
  rw [grown_kernel]
  rfl

/-- A first segment, or one behind segments of which nothing was parsed. -/
theorem served_of_waiting (positive : 0 < client) (isBackend : start.backendToClientMap.find backend = some client)
    (fresh : (start.httpState client).responseParser = .initial) (linked : Linked lb backend client back front)
    (same : SameRewriting start lb) (drained : front.writeBuf = [])
    (given : outbound lb client = some base) (unanswered : (lb.httpState client).responseParsed = false)
    (parser : (lb.httpState client).responseParser = .initial) {turn : Traffic.Turn}
    (reads : turn.act = .read .backend (fromBackend turn)) (supplied : Supplied client backend lb turn)
    (text : isHttpRequest (back.readBuf ++ fromBackend turn) = false) :
    Served start stream client backend base (exchange client backend lb turn) (back.readBuf ++ fromBackend turn) := by
  have linked' := received_linked linked turn
  have given' := received_outbound linked turn
  obtain ⟨connections, frame⟩ := received_eq backend lb turn
  have states (fd : Fd) : (received backend lb turn).httpState fd = lb.httpState fd := by
    rw [frame]
    rfl
  have same' : SameRewriting start (received backend lb turn) := by
    rw [frame]
    exact ⟨same.settings, same.order, same.keys, same.clock, same.clients⟩
  have clientOf : (received backend lb turn).clientOf backend = client := by
    rw [clientOf_congr same'.clients]
    unfold LoadBalancer.clientOf
    rw [isBackend]
    rfl
  have message (buffer : Bytes) :
      responseMessage (received backend lb turn) client buffer = responseMessage start client buffer :=
    responseMessage_congr same' (by rw [states, parser, fresh]) buffer
  have ready : Ready (received backend lb turn).kernel client maxBufferSize := by
    rw [frame]
    exact supplied.1
  have grants : Grants (received backend lb turn).budget { back with readBuf := back.readBuf ++ fromBackend turn }
      (responseMessage (received backend lb turn) client (back.readBuf ++ fromBackend turn)) := by
    have granted := supplied.2 back linked.sending
    rw [responseMessage_congr same (by rw [parser, fresh])] at granted
    rw [message, frame]
    exact granted
  rw [exchange_received reads]
  generalize received backend lb turn = state at *
  generalize buffered : back.readBuf ++ fromBackend turn = buffer at *
  by_cases empty : buffer = []
  · rw [httpForward_empty state linked' empty]
    refine .waiting front _ linked' same' drained rfl (given'.trans given) (by rw [states, unanswered]) ?_
    rw [empty]
    decide +kernel
  by_cases complete : (HttpResponseParser.initial.parse buffer).complete = true
  · obtain ⟨prepared, go, message', ready', others, kind, passing⟩ := httpForward_other state linked' empty text
    rw [clientOf] at kind others
    cases kind with
    | plain none _ => exact absurd none (Nat.ne_of_gt positive)
    | again _ parsed _ => simp [states, unanswered] at parsed
    | refuse _ _ _ _ _ denied => exact absurd grants denied
    | wait _ _ incomplete _ =>
      rw [states, parser] at incomplete
      rw [complete] at incomplete
      cases incomplete
    | rewrite _ _ _ _ parsing =>
      have handed := handed_of_passing linked' drained (responseMessage_ne_nil state client buffer) ready passing
      obtain ⟨front', back', there, drained', rest⟩ := handed.pair
      refine .answered front' back' buffer [] there (handed.clients.trans same'.clients) drained' ?_ complete ?_ ?_
        (Or.inl rfl) ?_
      · rw [List.append_nil]
      · rw [handed.given base (given'.trans given), message, List.append_nil]
      · rw [rest, message, List.append_nil]
      · rcases handed.parsing with all | ⟨_, reset, _⟩
        · left
          rw [(all client).responseParsed, parsing.responseParsed]
        · right
          rw [clientOf_congr ready'.clients, clientOf] at reset
          rw [reset]
  · have incomplete : (HttpResponseParser.initial.parse buffer).complete = false := by simpa using complete
    obtain ⟨kinds, result, after⟩ := httpForward_waits state linked' empty text (by rw [clientOf]; exact positive)
      (by rw [clientOf, states]; exact unanswered) (by rw [clientOf, states, parser]; exact incomplete)
    rw [clientOf] at after
    rw [result]
    refine .waiting front _ { linked' with } ?_ drained rfl (given'.trans given) ?_ incomplete
    · exact ⟨same'.settings, same'.order, same'.keys, same'.clock, same'.clients⟩
    · rw [after]
      simp [states, unanswered]

/-- A segment behind a response that was handed on and that is not declared complete. -/
theorem served_of_answered (positive : 0 < client) (isBackend : start.backendToClientMap.find backend = some client)
    (linked : Linked lb backend client back front) (clients : lb.backendToClientMap = start.backendToClientMap)
    (drained : front.writeBuf = []) {head more : Bytes}
    (complete : (HttpResponseParser.initial.parse head).complete = true)
    (given : outbound lb client = some (base ++ (responseMessage start client head ++ more).take maxBufferSize))
    (buffer : back.readBuf = (responseMessage start client head ++ more).drop maxBufferSize)
    (unannounced : (HttpResponseParser.initial.parse stream).parser.contentLength = 0)
    (parsed : (lb.httpState client).responseParsed = true) {turn : Traffic.Turn}
    (reads : turn.act = .read .backend (fromBackend turn)) (supplied : Supplied client backend lb turn)
    (fits : (responseMessage start client head ++ (more ++ fromBackend turn)).length ≤ maxBufferSize)
    (text : isHttpRequest (back.readBuf ++ fromBackend turn) = false) :
    Served start stream client backend base (exchange client backend lb turn) (head ++ (more ++ fromBackend turn)) := by
  have before : (responseMessage start client head ++ more).length ≤ maxBufferSize := by
    simp only [List.length_append] at fits ⊢
    omega
  rw [List.take_of_length_le before] at given
  rw [List.drop_of_length_le before] at buffer
  have linked' := received_linked linked turn
  have given' := (received_outbound linked turn).trans given
  rw [buffer, List.nil_append] at text
  rw [buffer, List.nil_append] at linked'
  obtain ⟨connections, frame⟩ := received_eq backend lb turn
  have states (fd : Fd) : (received backend lb turn).httpState fd = lb.httpState fd := by
    rw [frame]
    rfl
  have clients' : (received backend lb turn).backendToClientMap = start.backendToClientMap := by
    rw [frame]
    exact clients
  have clientOf : (received backend lb turn).clientOf backend = client := by
    rw [clientOf_congr clients']
    unfold LoadBalancer.clientOf
    rw [isBackend]
    rfl
  have ready : Ready (received backend lb turn).kernel client maxBufferSize := by
    rw [frame]
    exact supplied.1
  rw [exchange_received reads]
  generalize received backend lb turn = state at *
  generalize fromBackend turn = segment at *
  have whole : (responseMessage start client head ++ (more ++ segment)).take maxBufferSize =
      responseMessage start client head ++ (more ++ segment) := List.take_of_length_le fits
  have none : (responseMessage start client head ++ (more ++ segment)).drop maxBufferSize = [] :=
    List.drop_of_length_le fits
  by_cases empty : segment = []
  · rw [httpForward_empty state linked' empty]
    refine .answered front _ head (more ++ segment) linked' clients' drained rfl complete ?_ ?_ (Or.inr unannounced) ?_
    · rw [whole, given', empty, List.append_nil]
    · rw [none, empty]
    · exact Or.inl (by rw [states, parsed])
  obtain ⟨prepared, go, message, ready', others, kind, passing⟩ := httpForward_other state linked' empty text
  rw [clientOf] at kind others
  cases kind with
  | plain zero _ => exact absurd zero (Nat.ne_of_gt positive)
  | rewrite _ _ unparsed _ _ => simp [states, parsed] at unparsed
  | refuse _ _ unparsed _ _ _ => simp [states, parsed] at unparsed
  | wait _ unparsed _ _ => simp [states, parsed] at unparsed
  | again _ _ parsing =>
    have handed := handed_of_passing linked' drained empty ready passing
    obtain ⟨front', back', there, drained', rest⟩ := handed.pair
    have short : segment.length ≤ maxBufferSize := by
      simp only [List.length_append] at fits
      omega
    refine .answered front' back' head (more ++ segment) there (handed.clients.trans clients') drained' rfl complete ?_ ?_
      (Or.inr unannounced) ?_
    · rw [handed.given _ given', whole]
      rw [List.take_of_length_le short]
      simp only [List.append_assoc]
    · rw [rest, none, List.drop_of_length_le short]
    · rcases handed.parsing with all | ⟨_, reset, _⟩
      · left
        rw [(all client).responseParsed, parsing.responseParsed, states, parsed]
      · right
        rw [clientOf_congr ready'.clients, clientOf] at reset
        rw [reset]

/-- What the client has been given once the whole response was read. -/
theorem Served.given (fresh : (start.httpState client).responseParser = .initial)
    (served : Served start stream client backend base lb stream) :
    outbound lb client = some (base ++ if (HttpResponseParser.initial.parse stream).complete then
      (responseMessage start client stream).take maxBufferSize else []) := by
  cases served with
  | waiting front back linked same drained buffer given unanswered incomplete =>
    rw [given, incomplete]
    simp
  | answered front back head more linked clients drained split complete given buffer rest parsed =>
    rcases rest with none | unannounced
    · rw [none, List.append_nil] at split given
      rw [split, given, if_pos complete]
    · rw [split] at unannounced ⊢
      rw [given, if_pos (HttpResponseParser.parse_append_unannounced head more complete unannounced).1,
        responseMessage_append fresh head more complete unannounced]

/-- One segment of the response. -/
theorem served_step (waiting : Waiting start client backend front back) (text : isHttpRequest stream = false)
    {turn : Traffic.Turn} (reads : turn.act = .read .backend (fromBackend turn)) (supplied : Supplied client backend lb turn)
    (unbroken : Unbroken start stream client backend lb turn) (prefixed : delivered ++ fromBackend turn <+: stream)
    (served : Served start stream client backend base lb delivered) :
    Served start stream client backend base (exchange client backend lb turn) (delivered ++ fromBackend turn) := by
  obtain ⟨requested, phase⟩ := unbroken
  cases served with
  | waiting front' back' linked same drained buffer given unanswered _ =>
    have parser : (lb.httpState client).responseParser = .initial := by
      rcases phase with ⟨_, parser⟩ | ⟨parsed, _⟩
      · exact parser
      · simp [unanswered] at parsed
    rw [← buffer] at prefixed ⊢
    have plain : isHttpRequest (back'.readBuf ++ fromBackend turn) = false := by
      obtain ⟨rest, whole⟩ := prefixed
      by_contra isRequest
      have longer := isHttpRequest_append (by simpa using isRequest) rest
      rw [whole, text] at longer
      cases longer
    exact served_of_waiting waiting.positive waiting.isBackend waiting.fresh linked same drained given unanswered parser
      reads supplied plain
  | answered front' back' head more linked clients drained split complete given buffer _ kept =>
    have parsed : (lb.httpState client).responseParsed = true := by
      rcases kept with parsed | reset
      · exact parsed
      · simp [requested] at reset
    obtain ⟨unannounced, fits, plain⟩ : (HttpResponseParser.initial.parse stream).parser.contentLength = 0 ∧
        (responseMessage start client stream).length ≤ maxBufferSize ∧
        isHttpRequest (readBufOf lb backend ++ fromBackend turn) = false := by
      rcases phase with ⟨unparsed, _⟩ | ⟨_, rest⟩
      · simp [parsed] at unparsed
      · exact rest
    have readBuf : readBufOf lb backend = back'.readBuf := by
      unfold readBufOf
      rw [linked.sending]
      rfl
    rw [readBuf] at plain
    rw [split, List.append_assoc] at prefixed ⊢
    obtain ⟨rest, whole⟩ := prefixed
    have length : (responseMessage start client head ++ (more ++ fromBackend turn)).length ≤ maxBufferSize := by
      rw [← whole, List.append_assoc] at unannounced fits
      rw [responseMessage_append waiting.fresh head _ complete unannounced] at fits
      simp only [List.length_append] at fits ⊢
      omega
    exact served_of_answered waiting.positive waiting.isBackend linked clients drained complete given buffer unannounced
      parsed reads supplied length plain

end Responses

/-- While no segment is read after a part of the response was parsed, or after it
was declared complete, the client is given the same as from one segment. -/
theorem response_segments_delivered {lb : LoadBalancer} {client backend : Fd} {front back : Connection} {stream : Bytes}
    {turns : List Traffic.Turn} {whole : Traffic.Turn} (waiting : Waiting lb client backend front back) (reads : Reads turns stream)
    (readsWhole : Reads [whole] stream)
    (supplied : Meets (exchange client backend) (Supplied client backend) lb turns)
    (suppliedWhole : Supplied client backend lb whole) (text : isHttpRequest stream = false)
    (unbroken : Meets (exchange client backend) (Unbroken lb stream client backend) lb turns) :
    outbound (run (exchange client backend) lb turns) client = outbound (exchange client backend lb whole) client := by
  have begins : Served lb stream client backend (sentOn lb.kernel.sockets client ++ front.writeBuf) lb [] := by
    refine .waiting front back waiting.linked ⟨rfl, rfl, rfl, rfl, rfl⟩ waiting.drained waiting.empty
      waiting.linked.symm.outbound_source waiting.unanswered ?_
    decide +kernel
  -- by induction on the segments, each of which is read behind a part of the stream
  have served (turns : List Traffic.Turn) (acts : ∀ turn ∈ turns, turn.act = .read .backend (fromBackend turn))
      (prefixed : turns.flatMap fromBackend <+: stream)
      (supplied : Meets (exchange client backend) (Supplied client backend) lb turns)
      (unbroken : Meets (exchange client backend) (Unbroken lb stream client backend) lb turns) :
      Served lb stream client backend (sentOn lb.kernel.sockets client ++ front.writeBuf)
        (run (exchange client backend) lb turns) (turns.flatMap fromBackend) := by
    induction turns using List.reverseRecOn with
    | nil => exact begins
    | append_singleton turns turn ih =>
      have last : (turns ++ [turn]).flatMap fromBackend = turns.flatMap fromBackend ++ fromBackend turn := by
        simp
      rw [last] at prefixed ⊢
      have before := ih (fun turn member => acts turn (by simp [member])) ((List.prefix_append _ _).trans prefixed)
        supplied.init unbroken.init
      rw [run_append]
      exact served_step waiting text (acts turn (by simp)) supplied.last unbroken.last prefixed before
  have first := served turns reads.acts (by rw [reads.bytes]) supplied unbroken
  have one : Unbroken lb stream client backend lb whole :=
    ⟨waiting.requested, Or.inl ⟨waiting.unanswered, waiting.fresh⟩⟩
  have second := served [whole] readsWhole.acts (by rw [readsWhole.bytes]) (.single suppliedWhole) (.single one)
  rw [reads.bytes] at first
  rw [readsWhole.bytes] at second
  exact (first.given waiting.fresh).trans (second.given waiting.fresh).symm

/-- A segment that is written to the client at once. -/
def backendRead (segment : Bytes) : Traffic.Turn :=
  ⟨.read .backend segment, { limit := 0, used := 0 }, [.ok maxBufferSize, .ok 0]⟩

theorem backendRead_reads (segments : List Bytes) (short : segments.flatten.length ≤ maxBufferSize) :
    Reads (segments.map backendRead) segments.flatten where
  acts := by
    intro turn member
    obtain ⟨segment, _, same⟩ := List.mem_map.mp member
    rw [← same]
    rfl
  bytes := by
    rw [List.flatMap_map]
    show segments.flatMap id = segments.flatten
    rw [List.flatMap_id]
  short := short

theorem backendRead_supplied {lb : LoadBalancer} {client : Fd}
    (writable : (lb.kernel.sockets.find client).map Socket.writeShut = some false) (backend : Fd) (segment : Bytes) :
    Supplied client backend lb (backendRead segment) := by
  obtain ⟨socket, isOpen, open'⟩ := Option.map_eq_some_iff.mp writable
  exact ⟨⟨maxBufferSize, [.ok 0], socket, rfl, Nat.le_refl _, isOpen, open'⟩, fun back _ => grants_unlimited rfl _ _⟩

/-- A response parser that has read nothing, field by field. -/
def isFresh (parser : HttpResponseParser) : Bool :=
  parser.message.start = {} ∧ parser.message.headers.keys = ∅ ∧ parser.message.body = [] ∧
    parser.state = .startLine ∧ parser.hasError = false ∧ parser.errorMessage = [] ∧ parser.contentLength = 0

theorem isFresh_eq {parser : HttpResponseParser} (fresh : isFresh parser = true) : parser = .initial := by
  obtain ⟨⟨start, headers, body⟩, state, hasError, errorMessage, contentLength⟩ := parser
  simp only [isFresh, decide_eq_true_eq] at fresh
  obtain ⟨rfl, keys, rfl, rfl, rfl, rfl, rfl⟩ := fresh
  have none : headers = ∅ := by
    ext name : 1
    rw [FiniteMap.find_eq_none.mpr (by simp [keys]), FiniteMap.find_empty]
  rw [none]
  rfl

theorem requestedRun_waiting : Waiting (reached unlimitedSetup requestedRun) 5 6
    { fd := 5, peer := some 6, accounted := true, bytesRead := 18 }
    { fd := 6, peer := some 5, accounted := true, bytesWritten := 77 } where
  linked := requestedRun_linked
  positive := by decide
  isBackend := by decide +kernel
  empty := rfl
  drained := rfl
  requested := by decide +kernel
  unanswered := by decide +kernel
  fresh := by
    apply isFresh_eq
    decide +kernel

def helloHead : Bytes := ascii "HTTP/1.1 200 OK\r\n\r\n"

/-- The status line is cut in two before any of it was parsed. -/
theorem response_segments_delivered_early :
    outbound (run (exchange 5 6) (reached unlimitedSetup requestedRun)
        ([helloHead.take 2, helloHead.drop 2 ++ ascii "ab"].map backendRead)) 5 =
      outbound (exchange 5 6 (reached unlimitedSetup requestedRun) (backendRead (helloHead ++ ascii "ab"))) 5 := by
  have reads := backendRead_reads [helloHead.take 2, helloHead.drop 2 ++ ascii "ab"] (by decide)
  have readsWhole := backendRead_reads [helloHead ++ ascii "ab"] (by decide)
  apply response_segments_delivered requestedRun_waiting reads readsWhole
  · apply Meets.cons (backendRead_supplied (by decide +kernel) 6 _)
    exact .single (backendRead_supplied (by decide +kernel) 6 _)
  · exact backendRead_supplied (by decide +kernel) 6 _
  · decide
  · refine Meets.cons ⟨by decide +kernel, Or.inl ⟨by decide +kernel, isFresh_eq (by decide +kernel)⟩⟩ (.single ?_)
    exact ⟨by decide +kernel, Or.inl ⟨by decide +kernel, isFresh_eq (by decide +kernel)⟩⟩

/-- Of a response without a length the second segment is lost. -/
theorem response_segment_lost :
    ¬∀ (lb : LoadBalancer) (client backend : Fd) (front back : Connection) (stream : Bytes) (turns : List Traffic.Turn)
      (whole : Traffic.Turn), Waiting lb client backend front back → Reads turns stream → Reads [whole] stream →
      Meets (exchange client backend) (Supplied client backend) lb turns → Supplied client backend lb whole →
      outbound (run (exchange client backend) lb turns) client = outbound (exchange client backend lb whole) client := by
  intro always
  have reads := backendRead_reads [helloHead ++ ascii "a", ascii "b"] (by decide)
  have readsWhole := backendRead_reads [helloHead ++ ascii "ab"] (by decide)
  have supplied : Meets (exchange 5 6) (Supplied 5 6) (reached unlimitedSetup requestedRun)
      ([helloHead ++ ascii "a", ascii "b"].map backendRead) := by
    apply Meets.cons (backendRead_supplied (by decide +kernel) 6 _)
    exact .single (backendRead_supplied (by decide +kernel) 6 _)
  have same := always _ 5 6 _ _ _ _ _ requestedRun_waiting reads readsWhole supplied
    (backendRead_supplied (by decide +kernel) 6 _)
  revert same
  decide +kernel

end Balancer.Guarantees
