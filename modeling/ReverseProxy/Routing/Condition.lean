import ReverseProxy.Http.Header
import ReverseProxy.Http.Uri

set_option autoImplicit false

namespace ReverseProxy.Routing

structure RequestView where
  method : String
  uri : Http.Uri
  headers : Http.Headers
  secure : Bool
deriving DecidableEq, Repr, Inhabited

def RequestView.host? (r : RequestView) : Option String := (r.headers.text? "host").or r.uri.authority

def RequestView.path (r : RequestView) : String := r.uri.path

/-- Lower case as far as it leads to ASCII: a Kelvin sign is a `k` too. -/
def lowerHost (s : String) : String :=
  String.ofList (s.toList.map fun c => if c = '\u212A' then 'k' else c.toLower)

inductive Condition where
  /-- Met by the host itself or with anything behind its last colon, in any case. -/
  | host (lower : String)
  | pathPrefix (start : String)
deriving DecidableEq, Repr

def Condition.ofHost (host : String) : Condition := .host (lowerHost host)

def Condition.holds (r : RequestView) : Condition → Bool
  | .host expected =>
    match r.host? with
    | some h =>
      let h := lowerHost h
      h == expected || (Text.cutLast? ':' h).any fun (name, _) => name == expected
    | none => false
  | .pathPrefix start => Text.hasStart start r.path

def allHold (r : RequestView) (cs : List Condition) : Bool := cs.all (Condition.holds r)

end ReverseProxy.Routing
