import ReverseProxy.Text

set_option autoImplicit false

namespace ReverseProxy.Pool

inductive Domain where
  | any
  | suffix (s : String)
  | exact (s : String)
deriving DecidableEq, Repr, Inhabited

def anyDomain : String := "*"

namespace Domain

def parse (pattern : String) : Domain :=
  let pattern := Text.lower (Text.trim pattern)
  if pattern = anyDomain then .any
  else
    match Text.stripStart? "*." pattern with
    | some s => .suffix s
    | none => .exact pattern

/-- The host of a `Host` header: what brackets hold, or what stands before `:` and digits. -/
def hostOf (header : String) : String :=
  let h := Text.trim header
  match h.toList with
  | '[' :: r =>
    match Chars.cutFirst? ']' r with
    | some (inside, _) => String.ofList inside
    | none => h
  | _ =>
    match Text.cutLast? ':' h with
    | some (name, port) => if port.toList.all Char.isDigit then name else h
    | none => h

def covers : Domain → String → Bool
  | .any, _ => true
  | .exact s, host => host == s
  | .suffix s, host => host == s || Text.hasEnd ("." ++ s) host

def serves (d : Domain) (header : String) : Bool := d.covers (Text.lower (hostOf header))

end Domain
end ReverseProxy.Pool
