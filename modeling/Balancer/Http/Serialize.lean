import Balancer.Http.Parser
import Mathlib.Data.List.Sort

/-! The two serialisers of `HttpDataForwarder`. The header maps are unordered, so
a serialiser is a function of the order in which their entries are visited. -/

namespace Balancer.Http
open Foundation

/-- An iteration order of `std::unordered_map`: every key once. -/
structure HeaderOrder where
  names : Headers → List Bytes
  nodup : ∀ headers, (names headers).Nodup
  mem_names : ∀ headers name, name ∈ names headers ↔ name ∈ headers.keys

/-- The order of the names themselves, one of the possible ones. -/
def HeaderOrder.byName : HeaderOrder where
  names := fun headers => headers.keys.sort fun first second => first ≤ second
  nodup := fun headers => headers.keys.sort_nodup _
  mem_names := by simp

theorem insertionSort_eq_of_perm {first second : List Bytes} (same : first.Perm second) :
    first.insertionSort (· ≤ ·) = second.insertionSort (· ≤ ·) := by
  have perm : (first.insertionSort (· ≤ ·)).Perm (second.insertionSort (· ≤ ·)) :=
    (first.perm_insertionSort _).trans (same.trans (second.perm_insertionSort _).symm)
  exact perm.eq_of_pairwise (fun _ _ _ _ => List.le_antisymm) (first.pairwise_insertionSort _)
    (second.pairwise_insertionSort _)

/-- The same order, found by insertion, so that it evaluates. -/
def HeaderOrder.byInsertion : HeaderOrder where
  names := fun headers => headers.keys.val.liftOn (fun names => names.insertionSort (· ≤ ·))
    fun _ _ => insertionSort_eq_of_perm
  nodup := by
    rintro ⟨find, ⟨⟨names⟩, nodup⟩, domain⟩
    exact (names.perm_insertionSort _).nodup_iff.mpr nodup
  mem_names := by
    rintro ⟨find, ⟨⟨names⟩, nodup⟩, domain⟩ name
    exact (names.perm_insertionSort _).mem_iff

noncomputable instance : Inhabited HeaderOrder :=
  ⟨⟨fun headers => headers.keys.toList, fun headers => headers.keys.nodup_toList, by simp⟩⟩

def crlf : Bytes := [13, 10]

def headerLine (headers : Headers) (name : Bytes) : Bytes :=
  name ++ ascii ": " ++ (headers.find name).getD [] ++ crlf

/-- The header lines, the empty line and the body. -/
def serializeRest {ρ : Type} (order : HeaderOrder) (message : Message ρ) : Bytes :=
  (order.names message.headers).flatMap (headerLine message.headers) ++ crlf ++ message.body

def serializeHttpRequest (order : HeaderOrder) (request : HttpRequest) : Bytes :=
  let query := if request.start.queryString = [] then [] else ascii "?" ++ request.start.queryString
  methodToString request.start.method ++ ascii " " ++ request.start.path ++ query ++ ascii " " ++
    versionToString request.start.version ++ crlf ++ serializeRest order request

def serializeHttpResponse (order : HeaderOrder) (response : ParsedHttpResponse) : Bytes :=
  ascii "HTTP/" ++ versionToString response.start.version ++ ascii " " ++
    decimalInt response.start.statusCode ++ ascii " " ++ response.start.reasonPhrase ++ crlf ++
    serializeRest order response

end Balancer.Http
