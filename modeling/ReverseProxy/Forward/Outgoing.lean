import ReverseProxy.Forward.Failure
import ReverseProxy.Http.Uri
import ReverseProxy.Request.Context

set_option autoImplicit false

namespace ReverseProxy.Forward

structure Outgoing where
  method : String
  authority : String
  pathAndQuery : String
  version : Http.Version
  headers : Http.Headers
  body : Bytes
deriving DecidableEq, Repr, Inhabited

namespace Outgoing

def text (o : Outgoing) : String :=
  "http://" ++ o.authority ++ (if Text.hasStart "/" o.pathAndQuery || o.pathAndQuery = "*" then ""
    else "/") ++ o.pathAndQuery

def keepHost (host : String) (h : Http.Headers) : Except Failure Http.Headers :=
  if host = "" then .ok h
  else
    match Http.headerValue? (Bytes.ofText host) with
    | some v => .ok (h.insert "host" v)
    | none => .error (.invalidTarget "host header: failed to parse header value")

/-- Points a request at a backend. While a response is being captured the backend does not see the
client's validators, so that it answers in full. -/
def ofIncoming (r : Request.Incoming) (backend : Endpoint) (capturing : Bool) :
    Except Failure Outgoing := do
  let headers := if capturing then r.head.headers.stripValidators else r.head.headers
  match Http.Uri.authority? backend.text with
  | .error cause => .error (.invalidTarget cause.message)
  | .ok authority => .ok {
      method := r.head.method
      authority
      pathAndQuery := r.head.uri.pathAndQuery?.getD "/"
      version := .http11
      headers := ← keepHost r.head.host headers
      body := r.body }

end Outgoing
end ReverseProxy.Forward
