import Balancer.Core.Exposition
import Balancer.Core.HealthProbe

/-! `MetricsServer`: how a request for the page is read and answered, whatever `recv` and `send` take at a time. -/

namespace Balancer.Core
open Foundation Http

/-- What a call of `recv` does. It never takes nothing. -/
inductive RecvAnswer where
  | took (first : UInt8) (rest : Bytes)
  | closed
  | failed (again : Bool)
  deriving DecidableEq

/-- What a call of `send` does. -/
inductive SendAnswer where
  | took (count : Nat)
  | failed (again : Bool)
  deriving DecidableEq

/-- How far the loop over `recv` is. -/
inductive Reading where
  | waiting (buffer : Bytes)
  | dropped
  | request (text : Bytes)
  deriving DecidableEq

/-- How far the loop over `send` is. -/
inductive Sending where
  | waiting
  | broken
  | done
  deriving DecidableEq

namespace MetricsServer

/-- The buffer has a byte more, for a zero at its end. -/
def bufferSize : Nat := 4095

/-- Both calls of `strstr`, which stop at a zero. -/
def endsHead (buffer : Bytes) : Bool :=
  let text := buffer.takeWhile fun byte => byte != 0
  (findText text (ascii "\r\n\r\n")).isSome || (findText text (ascii "\n\n")).isSome

/-- The loop over `recv`. The end of the stream leaves `errno` as it was before, and `stale` says that this was `EAGAIN`. -/
def readRequest (stale : Bool) (buffer : Bytes) : List RecvAnswer → Reading
  | [] => if buffer.length < bufferSize then .waiting buffer else .request buffer
  | answer :: later =>
      if buffer.length < bufferSize then
        match answer with
        | .closed => if stale then .request buffer else .dropped
        | .failed again => if again then .request buffer else .dropped
        | .took first rest =>
            let buffer := buffer ++ (first :: rest).take (bufferSize - buffer.length)
            if endsHead buffer then .request buffer else readRequest stale buffer later
      else .request buffer

def wantsMetrics (request : Bytes) : Bool :=
  (findText request (ascii "GET /metrics")).isSome || (findText request (ascii "GET /")).isSome

def notFound : Bytes := ascii "HTTP/1.1 404 Not Found\r\n\r\n"

def metricsHead (length : Nat) : Bytes :=
  ascii "HTTP/1.1 200 OK\r\n" ++
    ascii "Content-Type: text/plain; version=0.0.4\r\n" ++
    ascii "Content-Length: " ++ decimal length ++ ascii "\r\n" ++
    ascii "Connection: close\r\n" ++
    ascii "\r\n"

/-- The loop of `send_response`: what was sent of a text, and how far it is. -/
def sendResponse (text : Bytes) : List SendAnswer → Bytes × Sending
  | [] => ([], if text = [] then .done else .waiting)
  | answer :: later =>
      if text = [] then ([], .done)
      else
        match answer with
        | .failed again => if again then sendResponse text later else ([], .broken)
        | .took count =>
            let sent := sendResponse (text.drop count) later
            (text.take count ++ sent.1, sent.2)

/-- `handle_request`, where the page is what `export_prometheus` says by then. -/
def handleRequest (page : Bytes) (stale : Bool) (received : List RecvAnswer) (sends : List SendAnswer) :
    Bytes × Sending :=
  match readRequest stale [] received with
  | .waiting _ => ([], .waiting)
  | .dropped => ([], .done)
  | .request text =>
      sendResponse (if wantsMetrics text then metricsHead page.length ++ page else notFound) sends

end MetricsServer

end Balancer.Core
