import ReverseProxy.Chars

set_option autoImplicit false

namespace ReverseProxy.Url.Punycode

def limit : Nat := 1 <<< 32

def digit? (c : Char) : Option Nat :=
  if 'a' ≤ c ∧ c ≤ 'z' then some (c.toNat - 97)
  else if '0' ≤ c ∧ c ≤ '9' then some (c.toNat - 22)
  else none

def threshold (place bias : Nat) : Nat :=
  if place ≤ bias then 1 else if bias + 26 ≤ place then 26 else place - bias

def guarded (n : Nat) : Option Nat := if n < limit then some n else none

/-- Adds the number in front of `cs` to `sum`; also gives what follows it. -/
def number? (bias : Nat) : Nat → Nat → Nat → List Char → Option (Nat × List Char)
  | _, _, _, [] => none
  | place, weight, sum, c :: cs => do
    let digit ← digit? c
    let sum ← guarded (sum + digit * weight)
    if digit < threshold place bias then return (sum, cs)
    else
      let weight ← guarded (weight * (36 - threshold place bias))
      number? bias (place + 36) weight sum cs

theorem length_lt_of_number? (bias place weight sum n : Nat) (cs rest : List Char)
    (h : number? bias place weight sum cs = some (n, rest)) : rest.length < cs.length := by
  induction cs generalizing place weight sum with
  | nil => simp [number?] at h
  | cons c cs ih =>
    simp only [number?, Option.bind_eq_bind, Option.bind_eq_some_iff] at h
    obtain ⟨d, _, m, _, h⟩ := h
    split at h
    · injection h with h
      injection h with _ h
      simp [h]
    · obtain ⟨w, _, h⟩ := Option.bind_eq_some_iff.1 h
      have := ih _ _ _ h
      simp only [List.length_cons]
      omega

/-- The bias of the next number after one that inserted over a distance of `delta`. -/
def settled (delta place : Nat) : Nat :=
  if 455 < delta then settled (delta / 35) (place + 36) else place + 36 * delta / (delta + 38)
termination_by delta

def adapted (delta count : Nat) (first : Bool) : Nat :=
  let delta := if first then delta / 700 else delta / 2
  settled (delta + delta / count) 0

def insertAt (i : Nat) (c : Char) (cs : List Char) : List Char := cs.take i ++ c :: cs.drop i

/-- Inserts the characters that `cs` encodes into `out`, from code point `n` and position `i` on. -/
def inserted? (n i bias : Nat) (out cs : List Char) : Option (List Char) :=
  if cs.isEmpty then some out
  else
    match _h : number? bias 36 1 i cs with
    | none => none
    | some (sum, rest) =>
      let count := out.length + 1
      let n := n + sum / count
      let place := sum % count
      if n.isValidChar then
        inserted? n (place + 1) (adapted (sum - i) count (i == 0))
          (insertAt place (Char.ofNat n) out) rest
      else none
termination_by cs.length
decreasing_by exact length_lt_of_number? _ _ _ _ _ _ _ (by assumption)

def decode? (cs : List Char) : Option (List Char) :=
  match Chars.cutLast? '-' cs with
  | some ([], _) => none
  | some (plain, rest) => inserted? 128 0 72 plain rest
  | none => inserted? 128 0 72 [] cs

end ReverseProxy.Url.Punycode
