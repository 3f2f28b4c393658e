import ReverseProxy.Endpoint
import ReverseProxy.Http.Message

set_option autoImplicit false

namespace ReverseProxy.Routing

inductive Action where
  | proxy
  | proxyAndCache
  | static
  | redirect
  | notFound
  | internalError
  | acmeChallenge
deriving DecidableEq, Repr, Inhabited

namespace Action

def id : Action → String
  | .proxy => "proxy"
  | .proxyAndCache => "proxy_and_cache"
  | .static => "static"
  | .redirect => "redirect"
  | .notFound => "not_found"
  | .internalError => "internal_error"
  | .acmeChallenge => "acme_challenge"

def all : List Action :=
  [.proxy, .proxyAndCache, .static, .redirect, .notFound, .internalError, .acmeChallenge]

def ofId? (s : String) : Option Action := all.find? (·.id == s)

def isProxy (a : Action) : Bool := a == .proxy || a == .proxyAndCache

end Action

inductive Mutation where
  | set (name : String) (value : Bytes)
  | add (name : String) (value : Bytes)
  | remove (name : String)
deriving DecidableEq, Repr

def Mutation.apply (h : Http.Headers) : Mutation → Http.Headers
  | .set name value => h.insert name value
  | .add name value => h.append name value
  | .remove name => h.remove name

def applyMutations (h : Http.Headers) (ms : List Mutation) : Http.Headers :=
  ms.foldl Mutation.apply h

inductive Scheme where
  | http
  | https
deriving DecidableEq, Repr, Inhabited

def Scheme.text : Scheme → String
  | .http => "http"
  | .https => "https"

def Scheme.defaultPort : Scheme → Nat
  | .http => 80
  | .https => 443

structure RedirectTarget where
  /-- Used as it stands, unless it is empty. -/
  location : Option String := none
  scheme : Scheme := .http
  host : Option String := none
  port : Option UInt16 := none
  status : Http.Status := 302
deriving DecidableEq, Repr, Inhabited

structure PageSpec where
  status : Http.Status
  resource : Option String
  headers : List Mutation
deriving DecidableEq, Repr

structure Decision where
  action : Action
  routeId : String
  target : Option Endpoint := none
  redirect : Option RedirectTarget := none
  resource : Option String := none
  page : Option PageSpec := none
  headers : List Mutation := []
  userId : Option String := none
  sessionId : Option String := none
  reason : Option String := none
deriving DecidableEq, Repr

namespace Decision

def notFound (routeId : String) : Decision := { action := .notFound, routeId }

def internalError (routeId reason : String) : Decision :=
  { action := .internalError, routeId, reason := some reason }

def proxy (routeId : String) (target : Endpoint) (cache : Bool) : Decision :=
  { action := if cache then .proxyAndCache else .proxy, routeId, target := some target }

/-- Stands in where there is no decision. -/
def noRoute : Decision := internalError "no-route" "no route"

end Decision
end ReverseProxy.Routing
