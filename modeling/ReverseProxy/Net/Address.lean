import ReverseProxy.Text

set_option autoImplicit false

namespace ReverseProxy.Net

def octet? (cs : List Char) : Option Nat :=
  match cs with
  | '0' :: _ :: _ => none
  | _ => if cs.length ≤ 3 then (Chars.decimal? cs).filter (· ≤ 255) else none

def ipv4? (cs : List Char) : Option (List Nat) := do
  let octets ← (Chars.splitOn '.' cs).mapM octet?
  if octets.length = 4 then some octets else none

def group? (cs : List Char) : Option Nat :=
  if cs.length ≤ 4 then Chars.digitsValue 16 Chars.hexDigit? cs else none

/-- Groups with colons between them; the last may be an IPv4 address, which makes two. -/
def pieces? (mixed : Bool) : List (List Char) → Option (List Nat)
  | [] => some []
  | [p] =>
    match group? p with
    | some g => some [g]
    | none =>
      if mixed then
        match ipv4? p with
        | some [a, b, c, d] => some [a * 256 + b, c * 256 + d]
        | _ => none
      else none
  | p :: ps => do
    let g ← group? p
    let gs ← pieces? mixed ps
    some (g :: gs)

def groups? (mixed : Bool) (cs : List Char) : Option (List Nat) :=
  if cs.isEmpty then some [] else pieces? mixed (Chars.splitOn ':' cs)

def cutAtGap? : List Char → Option (List Char × List Char)
  | ':' :: ':' :: r => some ([], r)
  | c :: r => (cutAtGap? r).map fun (a, b) => (c :: a, b)
  | [] => none

/-- The eight groups of an IPv6 address; `::` stands for at least one. -/
def ipv6? (cs : List Char) : Option (List Nat) :=
  match cutAtGap? cs with
  | some (front, back) => do
    let front ← groups? false front
    let back ← groups? true back
    if front.length + back.length ≤ 7 then
      some (front ++ List.replicate (8 - (front.length + back.length)) 0 ++ back)
    else none
  | none => (groups? true cs).filter (·.length = 8)

inductive SocketAddress where
  | v4 (octets : List Nat) (port : Nat)
  | v6 (groups : List Nat) (scope : Nat) (port : Nat)
deriving DecidableEq, Repr, Inhabited

namespace SocketAddress

def port? (cs : List Char) : Option Nat := (Chars.decimal? cs).filter (· < 65536)

def parseV6? (cs : List Char) : Option SocketAddress := do
  let (inside, rest) ← Chars.cutFirst? ']' cs
  let port ← match rest with
    | ':' :: r => port? r
    | _ => none
  match Chars.cutFirst? '%' inside with
  | none => some (.v6 (← ipv6? inside) 0 port)
  | some (address, scope) =>
    some (.v6 (← ipv6? address) (← (Chars.decimal? scope).filter (· < 1 <<< 32)) port)

def parse? (s : String) : Option SocketAddress :=
  match s.toList with
  | '[' :: cs => parseV6? cs
  | cs => do
    let (host, port) ← Chars.cutFirst? ':' cs
    some (.v4 (← ipv4? host) (← port? port))

end SocketAddress

def hexText (n : Nat) : String := String.ofList (Nat.toDigits 16 n)

def longestZeroRun (gs : List Nat) : Nat × Nat :=
  let runs := (List.range gs.length).map fun i => (i, ((gs.drop i).takeWhile (· == 0)).length)
  runs.foldl (fun best run => if best.2 < run.2 then run else best) (0, 0)

def ipv4Text (octets : List Nat) : String := Text.join "." (octets.map Text.ofNat)

def ipv6Text (gs : List Nat) : String :=
  match gs with
  | [0, 0, 0, 0, 0, 0xffff, a, b] =>
    "::ffff:" ++ ipv4Text [a / 256, a % 256, b / 256, b % 256]
  | _ =>
    let (start, len) := longestZeroRun gs
    let words := fun (part : List Nat) => Text.join ":" (part.map hexText)
    if 1 < len then words (gs.take start) ++ "::" ++ words (gs.drop (start + len)) else words gs

def SocketAddress.text : SocketAddress → String
  | .v4 octets port => ipv4Text octets ++ ":" ++ Text.ofNat port
  | .v6 gs scope port =>
    let zone := if scope = 0 then "" else "%" ++ Text.ofNat scope
    "[" ++ ipv6Text gs ++ zone ++ "]:" ++ Text.ofNat port

end ReverseProxy.Net
