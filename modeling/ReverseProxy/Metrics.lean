import ReverseProxy.Text

set_option autoImplicit false

namespace ReverseProxy

structure Series where
  name : String
  labels : List (String × String)
  value : Nat
deriving DecidableEq, Repr, Inhabited

def Series.text (s : Series) : String :=
  let labels := s.labels.map fun (label, value) => label ++ "=" ++ value
  s.name ++ "\x7b" ++ Text.join "," (labels.mergeSort fun a b => decide (a ≤ b)) ++ "\x7d"

/-- A counter shows itself once it has counted something. -/
def Series.counter (name : String) (labels : List (String × String)) (value : Nat) : List Series :=
  if value = 0 then [] else [⟨name, labels, value⟩]

def tally {α : Type} [BEq α] (a : α) : List (α × Nat) → List (α × Nat)
  | [] => [(a, 1)]
  | p :: ps => if p.1 == a then (p.1, p.2 + 1) :: ps else p :: tally a ps

end ReverseProxy
