import ReverseProxy.Cache.Store
import ReverseProxy.Forward.Outgoing
import ReverseProxy.Forward.Pump
import ReverseProxy.Health
import ReverseProxy.Pages
import ReverseProxy.Pool.Schedule
import ReverseProxy.Routing.Mapper

set_option autoImplicit false

namespace ReverseProxy

inductive Forward.Stage where
  /-- Waits for a lease; so many more times a pool that closed may be replaced. -/
  | waiting (ticket : Pool.Ticket) (pool : Pool.PoolRef) (retries : Nat)
  | sent (lease : Pool.Lease)
  | streaming (lease : Pool.Lease) (pump : Forward.Pump)
deriving DecidableEq, Repr

structure Forward where
  context : Request.Context
  /-- The mapper that decided about the request; it also knows the pages for failures. -/
  mappedBy : Routing.Mapper
  outgoing : Forward.Outgoing
  endpoint : Endpoint
  capture : Option Cache.Capture
  stage : Forward.Stage
deriving DecidableEq, Repr

inductive Report where
  | unreachable (endpoint : Endpoint) (atMs : Nat) (reason : String)
  | success (endpoint : Endpoint)
deriving DecidableEq, Repr

structure Proxy where
  mapper : Routing.Mapper
  pages : Pages
  health : Health
  cache : Cache.Store
  pools : Pool.Schedule
  stuckTimeout : Duration
  markStuckUnreachable : Bool
  keepsLog : Bool
  nowMs : Nat
  nextId : Nat := 1
  endpointStats : List (Endpoint × Endpoint.Stats) := []
  stuck : List (Endpoint × Nat) := []
  finished : List ((Routing.Action × Http.Status) × Nat) := []
  /-- Forwards that have a target and have not ended; absent before the first one. -/
  pendingGauge : Option Nat := none
  forwards : List Forward := []
  log : List Access.Record := []
  failures : List (Nat × Forward.Failure) := []
  reports : List Report := []

namespace Proxy

def new (c : Config) (mapper : Routing.Mapper) (pages : Pages) (keepsLog : Bool) (nowMs : Nat) :
    Proxy where
  mapper
  pages
  health := .new (c.health.recoverySecs.toNat * 1000)
  cache := { policy := .ofConfig c.cache }
  pools := { registry := .new c.pools (Routing.configuredEndpoints c) }
  stuckTimeout := .ofMillis c.forwarding.stuckTimeoutMs.toNat
  markStuckUnreachable := c.forwarding.markStuckUnreachable
  keepsLog
  nowMs

def pending (p : Proxy) : Nat := p.pendingGauge.getD 0

def stuckTotal (p : Proxy) : Nat := p.stuck.foldl (fun n s => n + s.2) 0

def statsOf? (p : Proxy) (e : Endpoint) : Option Endpoint.Stats :=
  (p.endpointStats.find? (·.1 == e)).map Prod.snd

def setStats (p : Proxy) (e : Endpoint) (s : Endpoint.Stats) : Proxy :=
  { p with endpointStats := p.endpointStats.filter (·.1 != e) ++ [(e, s)] }

def changeStats (p : Proxy) (e : Endpoint) (f : Endpoint.Stats → Endpoint.Stats) : Proxy :=
  p.setStats e (f ((p.statsOf? e).getD {}))

def forward? (p : Proxy) (id : Nat) : Option Forward := p.forwards.find? (·.context.id == id)

def putForward (p : Proxy) (f : Forward) : Proxy :=
  { p with forwards := p.forwards.filter (·.context.id != f.context.id) ++ [f] }

def dropForward (p : Proxy) (id : Nat) : Proxy :=
  { p with forwards := p.forwards.filter (·.context.id != id) }

def beginPending (p : Proxy) : Proxy := { p with pendingGauge := some (p.pending + 1) }

def endPending (p : Proxy) : Proxy := { p with pendingGauge := some (p.pending - 1) }

def finish (p : Proxy) (c : Request.Context) : Proxy :=
  let r := c.finish p.pools.nowMs
  { p with
    finished := tally (r.action, r.status) p.finished
    log := if p.keepsLog then p.log ++ [r] else p.log }

def reportUnreachable (p : Proxy) (e : Endpoint) (reason : String) : Proxy :=
  { p with
    health := p.health.reportUnreachable e p.nowMs reason
    reports := p.reports ++ [.unreachable e p.nowMs reason] }

def reportSuccess (p : Proxy) (e : Endpoint) : Proxy :=
  { p with health := p.health.reportSuccess e, reports := p.reports ++ [.success e] }

/-- Notes and counts the failure of a request and tells what it says about the backend. -/
def noteFailure (p : Proxy) (id : Nat) (f : Forward.Failure) : Proxy :=
  let p := { p with failures := p.failures ++ [(id, f)] }
  let p := match f with
    | .stuck e _ => { p with stuck := tally e p.stuck }
    | _ => p
  match f.endpoint? with
  | some e => if f.reportsUnreachable p.markStuckUnreachable then p.reportUnreachable e f.message
    else p
  | none => p

def series (p : Proxy) : List Series :=
  (p.finished.flatMap fun ((action, status), n) => Series.counter "proxy_requests_total"
      [("action", action.id), ("status", Text.ofNat status)] n) ++
    (p.stuck.flatMap fun (e, n) =>
      Series.counter "proxy_stuck_requests_total" [("endpoint", e.text)] n) ++
    (p.pendingGauge.map fun n => ⟨"proxy_forward_pending", [], n⟩).toList ++
    p.cache.series ++ p.health.series ++ p.pools.registry.series

end Proxy
end ReverseProxy
