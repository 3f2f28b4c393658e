import ReverseProxy.Text

set_option autoImplicit false

namespace ReverseProxy

structure Duration where
  nanos : Nat
deriving DecidableEq, Repr, Inhabited

namespace Duration

def ofMicros (n : Nat) : Duration := ⟨n * 1000⟩

def ofMillis (n : Nat) : Duration := ⟨n * 1000000⟩

def millis (d : Duration) : Nat := d.nanos / 1000000

/-- `n / 10 ^ places` without zeros at the end of its fraction. -/
def decimalText (places n : Nat) : String :=
  let fraction := Chars.dropEndWhile (· == '0') (Chars.paddedNat places (n % Nat.pow 10 places))
  let whole := Text.ofNat (n / Nat.pow 10 places)
  if fraction.isEmpty || places == 0 then whole else whole ++ "." ++ String.ofList fraction

def text (d : Duration) : String :=
  if 1000000000 ≤ d.nanos then decimalText 9 d.nanos ++ "s"
  else if 1000000 ≤ d.nanos then decimalText 6 d.nanos ++ "ms"
  else if 1000 ≤ d.nanos then decimalText 3 d.nanos ++ "µs"
  else Text.ofNat d.nanos ++ "ns"

end Duration
end ReverseProxy
