import ReverseProxy.Proxy.Forwarding

set_option autoImplicit false

namespace ReverseProxy
open Request

namespace Proxy

/-- Decides about a request; a mapper without a decision makes it an internal error. -/
def decide (p : Proxy) (view : Routing.RequestView) : Routing.Decision × Proxy :=
  let (d, mapper) := p.mapper.map view fun e => p.health.isAvailable e p.nowMs
  (d.getD .noRoute, { p with mapper })

def ifModifiedSince? (h : Http.Headers) : Option Http.Date.Instant :=
  (h.text? "if-modified-since").bind Http.Date.parse?

def serveEntry (p : Proxy) (c : Context) (e : Cache.Entry) : Outcome × Proxy :=
  let c := { c with fromCache := true }
  match e.response? (ifModifiedSince? c.head.headers) with
  | some r => p.answer c { r with headers := Reply.confirmKeepAlive c r.headers }
  | none => p.crash { c with fromCache := false }

def proxyAndCache (p : Proxy) (m : Routing.Mapper) (c : Context) (body : Bytes) :
    Outcome × Proxy :=
  let h := c.head
  if !p.cache.policy.enabled || h.method != "GET" then p.startForward m c body true
  else
    let (entry, cache) := p.cache.lookup (.ofRequest h.method h.uri h.headers c.isSecure) p.nowMs
    let p := { p with cache }
    match entry with
    | some e => p.serveEntry c e
    | none => p.startForward m c body true

/-- Takes the branch of the decision's action. `m` is the mapper that decided. -/
def act (p : Proxy) (m : Routing.Mapper) (c : Context) (body : Bytes) : Outcome × Proxy :=
  match c.decision.action with
  | .notFound => p.answer c (Reply.notFound p.pages m c)
  | .internalError => p.answer c (Reply.internalError p.pages m c)
  | .static | .acmeChallenge => p.answer c (Reply.resource p.pages c)
  | .redirect => p.answer c (Reply.redirect p.pages m c)
  | .proxy => p.startForward m c body false
  | .proxyAndCache => p.proxyAndCache m c body

def receive (p : Proxy) (connection : Connection) (r : Incoming) : Outcome × Proxy :=
  let (decision, p) := p.decide (r.head.view connection.isSecure)
  let c := Context.start p.nextId p.pools.nowMs p.nowMs connection r.head decision
  { p with nextId := p.nextId + 1 }.act p.mapper c r.body

def sweep (p : Proxy) : Cache.Store.SweepReport × Proxy :=
  let (report, cache) := p.cache.sweep p.nowMs
  (report, { p with cache })

/-- What can happen to a proxy. Forwards are named by the numbers of their requests. -/
inductive Event where
  | request (connection : Connection) (r : Incoming)
  | forward (id : Nat) (e : Forward.Event)
  | timePasses (ms : Nat)
  | clockSet (nowMs : Nat)
  | sweep
deriving Repr

def step (p : Proxy) : Event → Outcome × Proxy
  | .request connection r => p.receive connection r
  | .forward id e =>
    match p.forward? id with
    | some f => p.onForward f e
    | none => (.none, p)
  | .timePasses ms => (.none, { p with pools := p.pools.advance ms })
  | .clockSet nowMs => (.none, { p with nowMs })
  | .sweep => (.none, p.sweep.2)

def run (p : Proxy) (es : List Event) : Proxy := es.foldl (fun p e => (p.step e).2) p

end Proxy
end ReverseProxy
