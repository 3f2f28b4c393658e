import ReverseProxy.Http.Message
import ReverseProxy.Pool.Refusal

set_option autoImplicit false

namespace ReverseProxy.Forward

inductive Failure where
  | poolExhausted (endpoint : Endpoint) (waited : Duration)
  | connect (endpoint : Endpoint) (reason : String)
  | stuck (endpoint : Endpoint) (after : Duration)
  /-- The connection stood, but the exchange over it broke down. -/
  | exchange (endpoint : Endpoint) (reason : String)
  | clientGone
  | poolClosed (poolId : String)
  | invalidTarget (reason : String)
deriving DecidableEq, Repr

/-- The status recorded for a request that nobody waits for any more. -/
def clientClosedRequest : Http.Status := 499

namespace Failure

def message : Failure → String
  | .poolExhausted e waited => "no free connection to " ++ e.text ++ " after " ++ waited.text
  | .connect e reason => "connect to " ++ e.text ++ " failed: " ++ reason
  | .stuck e after => e.text ++ " sent nothing for " ++ after.text
  | .exchange e reason => "upstream " ++ e.text ++ " failed: " ++ reason
  | .clientGone => "client disconnected"
  | .poolClosed id => "pool '" ++ id ++ "' was closed"
  | .invalidTarget reason => "invalid forwarding target: " ++ reason

def status : Failure → Http.Status
  | .poolExhausted _ _ => 503
  | .connect _ _ => 503
  | .poolClosed _ => 503
  | .stuck _ _ => 500
  | .exchange _ _ => 500
  | .invalidTarget _ => 500
  | .clientGone => clientClosedRequest

def endpoint? : Failure → Option Endpoint
  | .poolExhausted e _ => some e
  | .connect e _ => some e
  | .stuck e _ => some e
  | .exchange e _ => some e
  | _ => none

def reportsUnreachable (markStuck : Bool) : Failure → Bool
  | .connect _ _ => true
  | .stuck _ _ => markStuck
  | _ => false

/-- A pool that cannot count its slots is no failure that a request could be answered with. -/
def ofRefusal? : Pool.Refusal → Option Failure
  | .exhausted e waited => some (.poolExhausted e waited)
  | .closed id => some (.poolClosed id)
  | .tooManySlots _ => none

end Failure
end ReverseProxy.Forward
