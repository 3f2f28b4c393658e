import ReverseProxy.Net.Address
import ReverseProxy.Text.Utf8
import ReverseProxy.Url.Domain

set_option autoImplicit false

namespace ReverseProxy.Url

inductive Error where
  | relative
  | emptyHost
  | invalidPort
  | invalidIpv6
  | invalidIpv4
  | invalidName
  | invalidCharacter
deriving DecidableEq, Repr

def Error.message : Error → String
  | .relative => "relative URL without a base"
  | .emptyHost => "empty host"
  | .invalidPort => "invalid port number"
  | .invalidIpv6 => "invalid IPv6 address"
  | .invalidIpv4 => "invalid IPv4 address"
  | .invalidName => "invalid international domain name"
  | .invalidCharacter => "invalid domain character"

inductive Kind where
  | web
  | file
  | other
deriving DecidableEq, Repr

def Kind.ofScheme (s : String) : Kind :=
  if s = "file" then .file
  else if ["http", "https", "ws", "wss", "ftp"].contains s then .web
  else .other

def isSchemeRest (c : Char) : Bool := c.isAlphanum || c == '+' || c == '-' || c == '.'

def scheme? (cs : List Char) : Option (String × List Char) :=
  match cs with
  | c :: _ =>
    if c.isAlpha then
      let name := cs.takeWhile isSchemeRest
      match cs.drop name.length with
      | ':' :: rest => some (String.ofList (Chars.lower name), rest)
      | _ => none
    else none
  | [] => none

/-- A part of a dotted number, in base 16, 8 or 10; `none` inside when it is too large. -/
def numberPart? (cs : List Char) : Option (Option Nat) :=
  let read := fun (base : Nat) (digit? : Char → Option Nat) (ds : List Char) =>
    if ds.isEmpty then some (some 0)
    else (Chars.digitsValue base digit? ds).map fun n => if n < 1 <<< 32 then some n else none
  match cs with
  | [] => none
  | '0' :: 'x' :: ds => read 16 Chars.hexDigit? ds
  | '0' :: 'X' :: ds => read 16 Chars.hexDigit? ds
  | '0' :: d :: ds => read 8 Chars.octalDigit? (d :: ds)
  | ds => read 10 Chars.decimalDigit? ds

def dottedParts (cs : List Char) : List (List Char) :=
  let parts := Chars.splitOn '.' cs
  if parts.getLast? = some [] then parts.dropLast else parts

def endsInNumber (cs : List Char) : Bool :=
  match (dottedParts cs).getLast? with
  | some p => (!p.isEmpty && p.all Char.isDigit) || (numberPart? p).isSome
  | none => false

/-- One to four numbers; the last fills the bytes that are left. -/
def isIpv4 (cs : List Char) : Bool :=
  let parts := dottedParts cs
  match parts.mapM fun p => (numberPart? p).bind id with
  | some numbers =>
    match numbers.getLast? with
    | some last =>
      parts.length ≤ 4 && last < Nat.pow 256 (5 - numbers.length) && numbers.dropLast.all (· ≤ 255)
    | none => false
  | none => false

def bracketed? (cs : List Char) : Option (Except Error Unit) :=
  match cs with
  | '[' :: r =>
    match r.getLast? with
    | some ']' => some (if (Net.ipv6? r.dropLast).isSome then .ok () else .error .invalidIpv6)
    | _ => some (.error .invalidIpv6)
  | _ => none

def checkHost (cs : List Char) : Except Error Unit :=
  match bracketed? cs with
  | some result => result
  | none =>
    match Utf8.decode? (Utf8.percentDecode (Text.utf8 (String.ofList cs))) with
    | none => .error .invalidName
    | some decoded =>
      match domain? decoded with
      | none => .error .invalidName
      | some name =>
        if name.isEmpty then .error .emptyHost
        else if endsInNumber name && !isIpv4 name then .error .invalidIpv4
        else .ok ()

def isForbiddenInHost (c : Char) : Bool :=
  ['\x00', '\t', '\n', '\r', ' ', '#', '/', ':', '<', '>', '?', '@', '[', '\\', ']', '^',
    '|'].contains c

def checkOpaqueHost (cs : List Char) : Except Error Unit :=
  match bracketed? cs with
  | some result => result
  | none => if cs.any isForbiddenInHost then .error .invalidCharacter else .ok ()

def endsAuthority (kind : Kind) (c : Char) : Bool :=
  c == '/' || c == '?' || c == '#' || (kind != .other && c == '\\')

def hostText (kind : Kind) : Bool → List Char → List Char
  | _, [] => []
  | inside, c :: cs =>
    if (c == ':' && !inside) || endsAuthority kind c then []
    else c :: hostText kind (if c == '[' then true else if c == ']' then false else inside) cs

def checkPort : Nat → List Char → Except Error Unit
  | _, [] => .ok ()
  | n, c :: cs =>
    if c.isDigit then
      let n := n * 10 + (c.toNat - 48)
      if 65535 < n then .error .invalidPort else checkPort n cs
    else if c == '/' || c == '\\' || c == '?' || c == '#' then .ok ()
    else .error .invalidPort

/-- Everything up to the path. User data ends at the last `@` before it. -/
def checkAuthority (kind : Kind) (cs : List Char) : Except Error Unit := do
  let front := cs.takeWhile fun c => !endsAuthority kind c
  let (userinfo, afterUser) := match Chars.cutLast? '@' front with
    | some (user, _) => (some user, cs.drop (user.length + 1))
    | none => (none, cs)
  if userinfo = some [] ∧ (afterUser.head?.any (endsAuthority kind)) then .error .emptyHost
  else
    let host := hostText kind false afterUser
    let rest := afterUser.drop host.length
    if kind = .web then
      if host.isEmpty then .error .emptyHost else checkHost host
    else checkOpaqueHost host
    if host.isEmpty ∧ rest.head? = some ':' then .error .emptyHost
    match rest with
    | ':' :: r => checkPort 0 r
    | _ => .ok ()
    if host.isEmpty ∧ (userinfo.any fun u => u ≠ [] ∧ u ≠ [':']) then .error .emptyHost

def isDriveLetter (cs : List Char) : Bool :=
  match cs with
  | [c, m] => c.isAlpha && (m == ':' || m == '|')
  | _ => false

def checkFile (cs : List Char) : Except Error Unit :=
  match cs with
  | a :: b :: r =>
    if (a == '/' || a == '\\') && (b == '/' || b == '\\') then
      let host := r.takeWhile fun c => !(c == '/' || c == '\\' || c == '?' || c == '#')
      if host.isEmpty || isDriveLetter host then .ok () else checkHost host
    else .ok ()
  | _ => .ok ()

/-- Surrounding controls and spaces and every tab or line break are dropped before reading. -/
def cleaned (s : String) : List Char :=
  let isEdge := fun (c : Char) => decide (c ≤ ' ')
  (Chars.dropEndWhile isEdge (s.toList.dropWhile isEdge)).filter fun c =>
    c != '\t' && c != '\n' && c != '\r'

def check (s : String) : Except Error Unit :=
  match scheme? (cleaned s) with
  | none => .error .relative
  | some (scheme, rest) =>
    match Kind.ofScheme scheme with
    | .file => checkFile rest
    | .web => checkAuthority .web (rest.dropWhile fun c => c == '/' || c == '\\')
    | .other =>
      match rest with
      | '/' :: '/' :: r => checkAuthority .other r
      | _ => .ok ()

end ReverseProxy.Url
