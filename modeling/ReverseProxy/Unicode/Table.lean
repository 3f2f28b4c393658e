import ReverseProxy.Chars

set_option autoImplicit false

namespace ReverseProxy.Unicode

/-- The code points `first`, `first + step` and so on up to `last`, with the numbers given for
them. -/
structure Row where
  first : Nat
  last : Nat
  step : Nat
  values : List Nat
deriving DecidableEq, Repr

def Row.holds (r : Row) (c : Char) : Bool :=
  r.first ≤ c.toNat && c.toNat ≤ r.last && (c.toNat - r.first) % r.step == 0

abbrev Table := List Row

namespace Table

def row? (t : Table) (c : Char) : Option Row := t.find? (·.holds c)

def contains (t : Table) (c : Char) : Bool := t.any (·.holds c)

def codePoint? (cs : List Char) : Option Nat := Chars.digitsValue 16 Chars.hexDigit? cs

def span? (cs : List Char) : Option (Nat × Nat × Nat) :=
  match Chars.cutFirst? '-' cs, Chars.cutFirst? '~' cs with
  | some (a, b), _ => do return (← codePoint? a, ← codePoint? b, 1)
  | none, some (a, b) => do return (← codePoint? a, ← codePoint? b, 2)
  | none, none => (codePoint? cs).map fun n => (n, n, 1)

def values? (cs : List Char) : Option (List Nat) :=
  if cs.isEmpty then some [] else (Chars.splitOn '.' cs).mapM codePoint?

def rowOfText? (cs : List Char) : Option Row := do
  let (keys, values) := (Chars.cutFirst? '=' cs).getD (cs, [])
  let (first, last, step) ← span? keys
  return ⟨first, last, step, ← values? values⟩

def ofLines (lines : List String) : Table :=
  lines.flatMap fun line => (Chars.splitOn ' ' line.toList).filterMap rowOfText?

end Table

end ReverseProxy.Unicode
