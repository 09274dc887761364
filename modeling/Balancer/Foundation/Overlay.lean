import Mathlib.Data.List.Induction

/-! Records with one value for every index, and patches that are laid over them. A patch has
values for some of the indices; the others keep what is below. -/

namespace Balancer.Foundation

section Overlays
variable {ι : Type} {Value : ι → Type}

/-- Values for some of the indices. -/
abbrev Patch (Value : ι → Type) := ∀ index, Option (Value index)

def overlay (patch : Patch Value) (base : ∀ index, Value index) : ∀ index, Value index :=
  fun index => (patch index).getD (base index)

variable {patch : Patch Value} {patches : List (Patch Value)} {base first second : ∀ index, Value index}

end Overlays

end Balancer.Foundation
