import Balancer.Core.ConfigManager

/-! Whether a configuration remembers the files that were loaded before the last one. -/

namespace Balancer.Guarantees
open Foundation Http Core

section Loads
variable {ν : Type} (yaml : Yaml ν) (path : Bytes)

end Loads

section Sample

/-- A parsed document. -/
inductive Tree where
  | scalar (text : Bytes)
  | sequence (items : List Tree)
  | map (entries : List (Bytes × Tree))

/-- Texts the sample below knows, with what they are parsed to. -/
def filteredText : Bytes := ascii "ip_filter: {blacklist: [10.0.0.1]}"

def emptyText : Bytes := ascii "{}"

def sampleParse (text : Bytes) : Option Tree :=
  if text = filteredText then
    some (.map [(ascii "ip_filter", .map [(ascii "blacklist", .sequence [.scalar (ascii "10.0.0.1")])])])
  else if text = emptyText then some (.map [])
  else none

/-- yaml-cpp as far as these texts go. -/
def sampleYaml : Yaml Tree where
  parse := sampleParse
  child
    | .scalar _, _ => none
    | .sequence _, _ => some none
    | .map entries, key => some ((entries.find? fun entry => entry.1 = key).map Prod.snd)
  isSequence
    | .sequence _ => true
    | _ => false
  isMap
    | .map _ => true
    | _ => false
  elements
    | .sequence items => items
    | _ => []
  entries
    | .map entries => entries.map fun entry => (.scalar entry.1, entry.2)
    | _ => []
  asString
    | .scalar text => some text
    | _ => none
  asBool
    | .scalar text => if text = ascii "true" then some true else if text = ascii "false" then some false else none
    | _ => none
  asUint16
    | .scalar text => if text.all isDigit then some (decimalValue text) else none
    | _ => none
  asUint32
    | .scalar text => if text.all isDigit then some (decimalValue text) else none
    | _ => none
  stray := 0

theorem document_of_reads {ν : Type} {yaml : Yaml ν} {path text : Bytes} {root : ν} (parsed : yaml.parse text = some root)
    (reads : ∀ field ∈ Field.all, (yaml.readField path root field).isSome) :
    yaml.document path text = some fun field => (yaml.readField path root field).join := by
  unfold Yaml.document
  rw [parsed, Option.bind_eq_bind, Option.bind_some, if_pos reads]

end Sample

end Balancer.Guarantees
