import ReverseProxy.Config.Load
import ReverseProxy.Proxy.Dispatch

set_option autoImplicit false

/-!
# The server

A proxy built from a checked configuration, behind a layer that gives every request an id and every
whole response its length. A reload exchanges the mapper and the pools and keeps everything else.
-/
namespace ReverseProxy

inductive BuildError where
  | pages (root : String) (cause : FileError)
  | invalid (findings : List Config.Finding)
  | routing (cause : Routing.BuildError)
  /-- A limit exceeds `Pool.maxSlots`. -/
  | tooManySlots
deriving DecidableEq, Repr

def BuildError.message : BuildError → String
  | .pages root cause => "cannot load static pages from '" ++ root ++ "': " ++ cause.message
  | .invalid fs => "invalid configuration: " ++ Config.findingsText fs
  | .routing cause => cause.message
  | .tooManySlots => "a limit exceeds " ++ Text.ofNat Pool.maxSlots

def Pages.ofConfig (c : Config) (readRoot : String → Except FileError Pages) :
    Except BuildError Pages :=
  match c.pages.root with
  | some root => (readRoot root).mapError (.pages root)
  | none => .ok .empty

structure Server where
  proxy : Proxy
  requestTimeoutMs : Nat

namespace Server

def build (c : Config) (pages : Pages) (nowMs : Nat) : Except BuildError Server :=
  if c.findings ≠ [] then .error (.invalid c.findings)
  else if !Pool.slotsFit c.pools (Routing.configuredEndpoints c) then .error .tooManySlots
  else
    match Routing.Mapper.build c with
    | .error cause => .error (.routing cause)
    | .ok mapper =>
      if Pool.maxSlots < c.listener.maxConnections.toNat then .error .tooManySlots
      else .ok {
        proxy := .new c mapper pages c.observability.accessLogEnabled nowMs
        requestTimeoutMs := c.forwarding.requestTimeoutSecs.toNat * 1000 }

/-- Applies a new configuration and gives the number of pools that are drained now. A
configuration that is not valid changes nothing; with limits that are too large the mapper is new
and the pools stay. -/
def reload (s : Server) (c : Config) : Except BuildError Nat × Server :=
  if c.findings ≠ [] then (.error (.invalid c.findings), s)
  else
    match Routing.Mapper.build c with
    | .error cause => (.error (.routing cause), s)
    | .ok mapper =>
      let s := { s with proxy := { s.proxy with mapper } }
      let endpoints := Routing.configuredEndpoints c
      if !Pool.slotsFit c.pools endpoints then
        let pools := { s.proxy.pools with registry := s.proxy.pools.registry.forgo c.pools }
        (.error .tooManySlots, { s with proxy := { s.proxy with pools } })
      else
        let (drains, pools) := s.proxy.pools.reload c.pools endpoints
        (.ok drains, { s with proxy := { s.proxy with pools } })

def idHeader : String := "x-request-id"

def withId (fresh : Bytes) (h : Http.Headers) : Http.Headers :=
  if h.contains idHeader then h else h.insert idHeader fresh

def named (r : Request.Incoming) (fresh : Bytes) : Request.Incoming :=
  { r with head := { r.head with headers := withId fresh r.head.headers } }

def echoId (request response : Http.Headers) : Http.Headers :=
  match request.get? idHeader with
  | some id => if response.contains idHeader then response else response.insert idHeader id
  | none => response

def hasLength (r : Http.Response) : Bool := r.headers.contains "content-length"

def isBodiless (s : Http.Status) : Bool := s < 200 || s == 204

/-- Gives a response the length of its body, which `HEAD` and a successful `CONNECT` leave out. -/
def withLength (method : String) (r : Http.Response) : Http.Response :=
  if method = "CONNECT" ∧ Http.Status.isSuccess r.status then { r with body := [] }
  else
    let length := Bytes.ofText (Text.ofNat r.body.length)
    let h := if hasLength r || isBodiless r.status then r.headers
      else r.headers.insert "content-length" length
    { r with headers := h, body := if method = "HEAD" then [] else r.body }

def deliver (head : Request.Head) : Outcome → Outcome
  | .response r =>
    let r := withLength head.method r
    .response { r with headers := echoId head.headers r.headers }
  | .streaming status h => .streaming status (echoId head.headers h)
  | o => o

/-- Only targets with a path that starts with a slash reach the proxy. -/
def reachesProxy (u : Http.Uri) : Bool := Text.hasStart "/" u.path

def unrouted : Http.Response := ⟨404, .empty, []⟩

def receive (s : Server) (connection : Request.Connection) (r : Request.Incoming) (fresh : Bytes) :
    Outcome × Server :=
  let head := { r.head with headers := withId fresh r.head.headers }
  if reachesProxy head.uri then
    let (o, proxy) := s.proxy.receive connection { r with head }
    (deliver head o, { s with proxy })
  else (deliver head (.response unrouted), s)

inductive Event where
  | request (connection : Request.Connection) (r : Request.Incoming) (fresh : Bytes)
  | forward (id : Nat) (e : Forward.Event)
  | reload (c : Config)
  | timePasses (ms : Nat)
  | clockSet (nowMs : Nat)
  | sweep
deriving DecidableEq, Repr

def inside (s : Server) (e : Proxy.Event) : Outcome × Server :=
  let (o, proxy) := s.proxy.step e
  (o, { s with proxy })

def step (s : Server) : Event → Outcome × Server
  | .request connection r fresh => s.receive connection r fresh
  | .forward id e =>
    let (o, after) := s.inside (.forward id e)
    match s.proxy.forward? id with
    | some f => (deliver f.context.head o, after)
    | none => (o, after)
  | .reload c => (.none, (s.reload c).2)
  | .timePasses ms => s.inside (.timePasses ms)
  | .clockSet nowMs => s.inside (.clockSet nowMs)
  | .sweep => s.inside .sweep

def run (s : Server) (es : List Event) : Server := es.foldl (fun s e => (s.step e).2) s

end Server
end ReverseProxy
