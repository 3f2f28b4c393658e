import ReverseProxy.Text

set_option autoImplicit false

namespace ReverseProxy

structure Endpoint where
  host : String
  port : UInt16
deriving DecidableEq, Repr, Inhabited

namespace Endpoint

inductive Error where
  | blankHost
  | portOutOfRange (port : Int)
  | malformed (text : String)
deriving DecidableEq, Repr

def Error.message : Error → String
  | .blankHost => "endpoint host must not be blank"
  | .portOutOfRange port => "endpoint port " ++ Text.ofInt port ++ " is outside 0..=65535"
  | .malformed text => "endpoint '" ++ text ++ "' is not in host:port form"

def unbracket (s : String) : String :=
  (((Text.stripStart? "[" s).bind (Text.stripEnd? "]"))).getD s

def new (host : String) (port : Int) : Except Error Endpoint :=
  let host := unbracket (Text.trim host)
  if host = "" then .error .blankHost
  else if 0 ≤ port ∧ port ≤ 65535 then .ok ⟨Text.lower host, port.toNat.toUInt16⟩
  else .error (.portOutOfRange port)

/-- Reads `host:port`, with or without `http://` before it and slashes behind it. -/
def parse (s : String) : Except Error Endpoint :=
  let s := Text.trim s
  let s := Text.trimEndOf '/' ((Text.stripStart? "http://" s).getD s)
  match Text.cutLast? ':' s with
  | none => .error (.malformed s)
  | some (host, port) =>
    match Text.signed? (1 <<< 63) port with
    | none => .error (.malformed s)
    | some port => new host port

def text (e : Endpoint) : String :=
  let port := Text.ofNat e.port.toNat
  if e.host.toList.contains ':' then "[" ++ e.host ++ "]:" ++ port else e.host ++ ":" ++ port

def before (a b : Endpoint) : Bool := a.host < b.host || (a.host == b.host && a.port ≤ b.port)

structure Stats where
  totalRequests : Nat := 0
  lastActivityMs : Nat := 0
deriving DecidableEq, Repr, Inhabited

def Stats.touch (s : Stats) (nowMs : Nat) : Stats := { s with lastActivityMs := nowMs }

def Stats.record (s : Stats) (nowMs : Nat) : Stats :=
  { totalRequests := s.totalRequests + 1, lastActivityMs := nowMs }

end Endpoint
end ReverseProxy
