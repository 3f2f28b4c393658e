import ReverseProxy.Pages
import ReverseProxy.Redirect
import ReverseProxy.Request.Context
import ReverseProxy.Routing.Mapper
import ReverseProxy.Forward.Failure

set_option autoImplicit false

namespace ReverseProxy.Reply
open Request Routing

def confirmKeepAlive (c : Context) (h : Http.Headers) : Http.Headers :=
  if c.head.keepAlive && c.head.version.isHttp1 then
    h.insert "connection" (Bytes.ofText "keep-alive")
  else h

def plain (c : Context) (r : Http.Response) : Http.Response :=
  let h := r.headers.insert "content-length" (Bytes.ofText (Text.ofNat r.body.length))
  { r with headers := confirmKeepAlive c h }

def page (pages : Pages) (c : Context) (spec : Option PageSpec) (fallback : Http.Status) :
    Http.Response :=
  match spec with
  | some s =>
    let r := plain c (pages.render s.status s.resource)
    { r with headers := applyMutations r.headers s.headers }
  | none => plain c (pages.render fallback none)

def notFound (pages : Pages) (m : Mapper) (c : Context) : Http.Response :=
  page pages c (c.decision.page.or (m.notFoundPage c.decision.routeId)) 404

/-- Only a decision that is an internal error itself brings the page for it. -/
def internalError (pages : Pages) (m : Mapper) (c : Context) : Http.Response :=
  let own := if c.decision.action = .internalError then c.decision.page else none
  page pages c (own.or (m.internalErrorPage c.decision.routeId)) 500

def resource (pages : Pages) (c : Context) : Http.Response :=
  plain c (pages.render 200 c.decision.resource)

/-- A redirect with a location that no header can hold is an internal error. -/
def redirect (pages : Pages) (m : Mapper) (c : Context) : Http.Response :=
  let target := c.decision.redirect.getD {}
  let location := Redirect.location target c.head.host (c.head.uri.pathAndQuery?.getD "/")
  match Http.headerValue? (Bytes.ofText location) with
  | none => internalError pages m c
  | some v =>
    let status := if Http.Status.isRedirection target.status then target.status else 302
    plain c ⟨status, Http.Headers.empty.insert "location" v, []⟩

/-- The answer to a request that could not be forwarded. It says nothing about the backend. -/
def failure (pages : Pages) (m : Mapper) (c : Context) (status : Http.Status) : Http.Response :=
  if status = 500 then internalError pages m c else plain c (pages.render status none)

end ReverseProxy.Reply
