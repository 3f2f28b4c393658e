import ReverseProxy.Duration
import ReverseProxy.Endpoint

set_option autoImplicit false

namespace ReverseProxy.Pool

inductive Refusal where
  | exhausted (endpoint : Endpoint) (waited : Duration)
  | closed (poolId : String)
  | tooManySlots (poolId : String)
deriving DecidableEq, Repr

def Refusal.message : Refusal → String
  | .exhausted e waited => "no free connection slot for " ++ e.text ++ " within " ++ waited.text
  | .closed id => "pool '" ++ id ++ "' is closed"
  | .tooManySlots id => "pool '" ++ id ++ "' has too many slots"

end ReverseProxy.Pool
