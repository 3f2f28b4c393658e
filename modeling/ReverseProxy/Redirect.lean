import ReverseProxy.Routing.Decision

set_option autoImplicit false

namespace ReverseProxy.Redirect
open Routing

/-- The host of `host` or `host:port`. Brackets are removed. -/
def hostWithoutPort (authority : String) : String :=
  let beforePort := match Text.cutLast? ':' authority with
    | some (host, _) => if host.toList.contains ':' then authority else host
    | none => authority
  match authority.toList with
  | '[' :: r =>
    match Chars.cutFirst? ']' r with
    | some (host, _) => String.ofList host
    | none => beforePort
  | _ => beforePort

def hostText (host : String) : String :=
  if host.toList.contains ':' then "[" ++ host ++ "]" else host

def portText (scheme : Scheme) : Option UInt16 → String
  | some p => if p.toNat = scheme.defaultPort then "" else ":" ++ Text.ofNat p.toNat
  | none => ""

def location (target : RedirectTarget) (requestHost pathAndQuery : String) : String :=
  match target.location.filter (· ≠ "") with
  | some l => l
  | none =>
    let host := target.host.getD (hostWithoutPort requestHost)
    let slash := if Text.hasStart "/" pathAndQuery then "" else "/"
    target.scheme.text ++ "://" ++ hostText host ++ portText target.scheme target.port ++ slash ++
      pathAndQuery

end ReverseProxy.Redirect
