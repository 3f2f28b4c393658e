import ReverseProxy.Endpoint
import ReverseProxy.Metrics

set_option autoImplicit false

namespace ReverseProxy

inductive Health.State where
  | unknown
  | healthy
  | unhealthy
deriving DecidableEq, Repr, Inhabited

/-- The state with that number; numbers without one mean that nothing is known. -/
def Health.State.ofNumber (n : Nat) : Health.State :=
  if n = 1 then .healthy else if n = 2 then .unhealthy else .unknown

def Health.State.name : Health.State → String
  | .unknown => "Unknown"
  | .healthy => "Healthy"
  | .unhealthy => "Unhealthy"

structure Health.Record where
  state : Health.State := .unknown
  unhealthySinceMs : Nat := 0
  failures : Nat := 0
  reason : Option String := none
deriving DecidableEq, Repr, Inhabited

structure Health where
  recoveryMs : Nat
  records : List (Endpoint × Health.Record)
deriving DecidableEq, Repr, Inhabited

namespace Health

def new (recoveryMs : Nat) : Health := ⟨recoveryMs, []⟩

def record? (h : Health) (e : Endpoint) : Option Record :=
  (h.records.find? (·.1 == e)).map Prod.snd

def put (e : Endpoint) (r : Record) : List (Endpoint × Record) → List (Endpoint × Record)
  | [] => [(e, r)]
  | p :: ps => if p.1 == e then (e, r) :: ps else p :: put e r ps

def reportUnreachable (h : Health) (e : Endpoint) (nowMs : Nat) (reason : String) : Health :=
  let failures := ((h.record? e).map Record.failures).getD 0
  { h with records := put e ⟨.unhealthy, nowMs, failures + 1, some reason⟩ h.records }

/-- Success restores an endpoint that was reported; of any other it says nothing. -/
def reportSuccess (h : Health) (e : Endpoint) : Health :=
  match h.record? e with
  | none => h
  | some r =>
    let reason := if r.state = .unhealthy then none else r.reason
    { h with records := put e { r with state := .healthy, reason } h.records }

def state (h : Health) (e : Endpoint) : State := ((h.record? e).map Record.state).getD .unknown

def failures (h : Health) (e : Endpoint) : Nat := ((h.record? e).map Record.failures).getD 0

def reason (h : Health) (e : Endpoint) : Option String := (h.record? e).bind Record.reason

/-- The recovery time as it is compared with: 64 bits of milliseconds. -/
def window (h : Health) : Nat := h.recoveryMs % (1 <<< 64)

def isAvailable (h : Health) (e : Endpoint) (nowMs : Nat) : Bool :=
  match h.record? e with
  | some r => r.state != .unhealthy || h.window ≤ nowMs - r.unhealthySinceMs
  | none => true

def series (h : Health) : List Series :=
  h.records.flatMap fun (e, r) =>
    Series.counter "proxy_unreachable_reports_total" [("endpoint", e.text)] r.failures

end Health
end ReverseProxy
