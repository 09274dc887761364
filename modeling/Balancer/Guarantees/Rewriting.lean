import Balancer.Traffic.Rewriting
import Balancer.Guarantees.Registry

/-! What becomes of the bytes behind a request when the request is rewritten in
the read buffer. -/

namespace Balancer.Guarantees
open Foundation Http Net Core Refinement Traffic

/-- A fresh parser completes on the first `size` bytes of the buffer and takes
them all. -/
def FramesRequest (buffer : Bytes) (size : Nat) : Prop :=
  size ≤ buffer.length ∧ (HttpRequestParser.initial.parse (buffer.take size)).complete = true ∧
    (HttpRequestParser.initial.parse (buffer.take size)).consumed = size

instance (buffer : Bytes) (size : Nat) : Decidable (FramesRequest buffer size) :=
  inferInstanceAs (Decidable (_ ∧ _ ∧ _))

/-- The request in the read buffer of `fd` as `parse_and_modify_http_request`
changes it. -/
def modifiedRequest (lb : LoadBalancer) (fd : Fd) (buffer : Bytes) : HttpRequest :=
  rewrittenRequest lb fd ((lb.httpState fd).parser.parse buffer).parser.message

/-- After the rewriting the buffer holds the modified request and then the bytes
that stood behind the first `size` ones. -/
def KeepsRest (lb : LoadBalancer) (fd : Fd) (buffer : Bytes) (size : Nat) : Prop :=
  ((lb.parseAndModifyHttpRequest fd).2.connections.find fd).map Connection.readBuf =
    some (serializeHttpRequest lb.order (modifiedRequest lb fd buffer) ++ buffer.drop size)

/-- A fresh parser reads the same request from the whole buffer as from the
bytes it completes on. -/
theorem FramesRequest.parse_eq {buffer : Bytes} {size : Nat} (framed : FramesRequest buffer size) :
    HttpRequestParser.initial.parse buffer = HttpRequestParser.initial.parse (buffer.take size) := by
  have longer := HttpRequestParser.parse_append .initial (buffer.take size) (buffer.drop size) framed.2.1
  rwa [List.take_append_drop] at longer

/-- A rewriting that succeeds leaves exactly the modified request. -/
theorem parseAndModifyHttpRequest_readBuf {lb : LoadBalancer} {fd : Fd} {conn : Connection}
    (found : lb.connections.find fd = some conn) (succeeds : (lb.parseAndModifyHttpRequest fd).1 = true) :
    ((lb.parseAndModifyHttpRequest fd).2.connections.find fd).map Connection.readBuf =
      some (serializeHttpRequest lb.order (modifiedRequest lb fd conn.readBuf)) := by
  by_cases isRequest : isHttpRequest conn.readBuf = true
  · by_cases complete : ((lb.httpState fd).parser.parse conn.readBuf).complete = true
    · obtain ⟨stored, wire, _, _, _, result⟩ := parseAndModifyHttpRequest_complete lb found isRequest complete
      rw [result] at succeeds ⊢
      have here : stored.connections.find fd = some conn := wire.connections ▸ found
      rcases (replaceReadBuffer_prepared stored here _).1 with ⟨_, replaced⟩ | ⟨refused, _⟩
      · obtain ⟨blocked, connections⟩ := replaced.connections
        rw [connections, FiniteMap.find_insert_self]
        rfl
      · rw [succeeds] at refused
        cases refused
    · rw [parseAndModifyHttpRequest_incomplete lb found isRequest (by simpa using complete)] at succeeds
      cases succeeds
  · simp [LoadBalancer.parseAndModifyHttpRequest, found, isRequest] at succeeds

/-- The bytes behind the request are kept exactly when there are none. The
modified request is that of the first `size` bytes if the parser of the client
is a fresh one. -/
theorem request_rest_kept_iff {lb : LoadBalancer} {fd : Fd} {conn : Connection} {size : Nat}
    (found : lb.connections.find fd = some conn) (framed : FramesRequest conn.readBuf size)
    (succeeds : (lb.parseAndModifyHttpRequest fd).1 = true) :
    (KeepsRest lb fd conn.readBuf size ↔ conn.readBuf.length = size) ∧
      ((lb.httpState fd).parser = .initial → modifiedRequest lb fd conn.readBuf =
        rewrittenRequest lb fd (HttpRequestParser.initial.parse (conn.readBuf.take size)).parser.message) := by
  have left := parseAndModifyHttpRequest_readBuf found succeeds
  have within := framed.1
  constructor
  · unfold KeepsRest
    rw [left, Option.some.injEq, List.self_eq_append_right, List.drop_eq_nil_iff]
    constructor
    · intro short
      omega
    · intro whole
      omega
  · intro fresh
    unfold modifiedRequest
    rw [fresh, framed.parse_eq]

/-- A balancer in HTTP mode. -/
def httpSetup : Setup := { plainSetup with settings := { mode := .http }, order := .byInsertion }

def plainGet : Bytes := ascii "GET / HTTP/1.1\r\n\r\n"

/-- The client of `connectingRun` has sent some bytes, which wait for the backend. -/
def waitingRun (bytes : Bytes) : List Input :=
  connectingRun ++ [⟨.arrive 5 0 bytes, []⟩, ⟨.io 5 .read, [.ok 100]⟩]

theorem request_rest_kept_single :
    FramesRequest plainGet 18 ∧ KeepsRest (reached httpSetup (waitingRun plainGet)) 5 plainGet 18 := by
  have found : (reached httpSetup (waitingRun plainGet)).connections.find 5 =
      some { fd := 5, peer := some 6, accounted := true, readBuf := plainGet, bytesRead := 18 } := by decide +kernel
  have framed : FramesRequest plainGet 18 := by decide +kernel
  have succeeds : ((reached httpSetup (waitingRun plainGet)).parseAndModifyHttpRequest 5).1 = true := by
    decide +kernel
  exact ⟨framed, (request_rest_kept_iff found framed succeeds).1.mpr (by decide)⟩

/-- Of two requests in one buffer the second is lost. -/
theorem pipelined_request_lost :
    ¬∀ (lb : LoadBalancer) (fd : Fd) (conn : Connection) (size : Nat), lb.connections.find fd = some conn →
      FramesRequest conn.readBuf size → (lb.parseAndModifyHttpRequest fd).1 = true →
        KeepsRest lb fd conn.readBuf size := by
  intro always
  have found : (reached httpSetup (waitingRun (plainGet ++ plainGet))).connections.find 5 =
      some { fd := 5, peer := some 6, accounted := true, readBuf := plainGet ++ plainGet, bytesRead := 36 } := by
    decide +kernel
  have framed : FramesRequest (plainGet ++ plainGet) 18 := by decide +kernel
  have succeeds : ((reached httpSetup (waitingRun (plainGet ++ plainGet))).parseAndModifyHttpRequest 5).1 = true := by
    decide +kernel
  have kept := always _ 5 _ 18 found framed succeeds
  have left := parseAndModifyHttpRequest_readBuf found succeeds
  unfold KeepsRest at kept
  rw [left, Option.some.injEq, List.self_eq_append_right] at kept
  revert kept
  decide

end Balancer.Guarantees
