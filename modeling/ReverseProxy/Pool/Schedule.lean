import ReverseProxy.Pool.Registry

set_option autoImplicit false

/-!
# Pools in time

Requests for a slot wait for as long as the policy allows, and pools that are to close look every
50 ms whether they may. Time passes from one such event to the next.
-/
namespace ReverseProxy.Pool

def lookIntervalMs : Nat := 50

structure Lease where
  pool : PoolRef
  endpoint : Endpoint
deriving DecidableEq, Repr, Inhabited

structure Waiter where
  ticket : Ticket
  lease : Lease
  sinceMs : Nat
  patienceMs : Nat
deriving DecidableEq, Repr, Inhabited

def Waiter.deadlineMs (w : Waiter) : Nat := w.sinceMs + w.patienceMs

structure Drain where
  pool : PoolRef
  deadlineMs : Nat
  nextLookMs : Nat
  done : Bool := false
deriving DecidableEq, Repr, Inhabited

abbrev Answer := Except Refusal Lease

structure Schedule where
  registry : Registry
  nowMs : Nat := 0
  nextTicket : Ticket := 0
  waiters : List Waiter := []
  answers : List (Ticket × Answer) := []
  drains : List Drain := []

namespace Schedule

def answer? (s : Schedule) (t : Ticket) : Option Answer :=
  (s.answers.find? (·.1 == t)).map Prod.snd

def record (s : Schedule) (t : Ticket) (lease : Lease) : Asked → Schedule
  | .granted => { s with
      answers := s.answers ++ [(t, .ok lease)]
      waiters := s.waiters.filter (·.ticket != t) }
  | .refused why => { s with
      answers := s.answers ++ [(t, .error why)]
      waiters := s.waiters.filter (·.ticket != t) }
  | .waits => s

def pickUpAll (s : Schedule) : Schedule :=
  s.waiters.foldl (fun s w =>
    let (asked, registry) := s.registry.pickUp w.lease.pool w.ticket
    { s with registry }.record w.ticket w.lease asked) s

def giveUp (s : Schedule) (w : Waiter) : Schedule :=
  let (asked, registry) := s.registry.giveUp w.lease.pool w.ticket w.lease.endpoint
  { s with registry }.record w.ticket w.lease asked

def look (s : Schedule) (i : Nat) (d : Drain) : Schedule :=
  if (s.registry.pool? d.pool).all (·.mayClose d.deadlineMs s.nowMs) then
    { s with
      registry := s.registry.close d.pool
      drains := s.drains.set i { d with done := true } }
  else { s with drains := s.drains.set i { d with nextLookMs := s.nowMs + lookIntervalMs } }

/-- Starts to drain a pool; a pool is drained once only. -/
def dispose (s : Schedule) (ref : PoolRef) : Schedule :=
  let (fresh, registry) := s.registry.beginClosing ref
  let timeout := ((s.registry.pool? ref).map (·.policy.disposeTimeout.millis)).getD 0
  let d : Drain := ⟨ref, s.nowMs + timeout, s.nowMs, !fresh⟩
  { s with registry, drains := s.drains ++ [d] }

def ask (s : Schedule) (ref : PoolRef) (e : Endpoint) : Ticket × Schedule :=
  let t := s.nextTicket
  let (asked, registry) := s.registry.ask ref t e
  let patience := ((s.registry.pool? ref).map (·.policy.borrowTimeout.millis)).getD 0
  let waiter : Waiter := ⟨t, ⟨ref, e⟩, s.nowMs, patience⟩
  let s := { s with registry, nextTicket := t + 1 }
  (t, match asked with
    | .waits => { s with waiters := s.waiters ++ [waiter] }
    | asked => s.record t ⟨ref, e⟩ asked)

def release (s : Schedule) (l : Lease) : Schedule :=
  { s with registry := s.registry.release l.pool l.endpoint }

def abandon (s : Schedule) (t : Ticket) (l : Lease) : Schedule :=
  { s with
    registry := s.registry.abandon l.pool t l.endpoint
    waiters := s.waiters.filter (·.ticket != t) }

/-- Forgets a ticket in whatever state it is; a lease that it got is taken back. -/
def discard (s : Schedule) (t : Ticket) : Schedule :=
  match s.answer? t, s.waiters.find? (·.ticket == t) with
  | some (.ok l), _ => s.release l
  | none, some w => s.abandon t w.lease
  | _, _ => s

def isCutOff (s : Schedule) (l : Lease) : Bool := (s.registry.pool? l.pool).any (·.closed)

def reload (s : Schedule) (configs : List Config.Pool) (endpoints : List Endpoint) :
    Nat × Schedule :=
  let old := s.registry.refs s.registry.generation
  let s := { s with registry := s.registry.install configs endpoints }
  (old.length, old.foldl dispose s)

inductive Event where
  | patienceEnds (w : Waiter)
  | drainLooks (place : Nat) (d : Drain)
deriving Repr

/-- When an event happens and since when it has been due to; the earlier comes first. -/
def Event.time : Event → Nat × Nat
  | .patienceEnds w => (w.deadlineMs, w.sinceMs)
  | .drainLooks _ d => (d.nextLookMs, d.nextLookMs - lookIntervalMs)

def Event.before (a b : Event) : Bool :=
  a.time.1 < b.time.1 || (a.time.1 == b.time.1 && a.time.2 ≤ b.time.2)

def events (s : Schedule) : List Event :=
  s.waiters.map Event.patienceEnds ++
    ((s.drains.zipIdx.filter fun p => !p.1.done).map fun (d, i) => Event.drainLooks i d)

def nextEvent? (s : Schedule) : Option Event :=
  s.events.foldl (fun best e =>
    match best with
    | some b => if b.before e then some b else some e
    | none => some e) none

def happen (s : Schedule) (e : Event) : Schedule :=
  let s := { s with nowMs := max s.nowMs e.time.1 }
  match e with
  | .patienceEnds w => (s.giveUp w).pickUpAll
  | .drainLooks i d => (s.look i d).pickUpAll

/-- Lets events happen up to a time, or until a condition holds. Each unit of fuel is an event. -/
def runWithFuel (stop : Schedule → Bool) (untilMs : Nat) : Nat → Schedule → Schedule
  | 0, s => s
  | fuel + 1, s =>
    if stop s then s
    else
      match s.nextEvent? with
      | some e => if e.time.1 ≤ untilMs then runWithFuel stop untilMs fuel (s.happen e) else s
      | none => s

/-- More than the events up to a time: each waiter has one, and each drain one every 50 ms. -/
def eventBound (s : Schedule) (untilMs : Nat) : Nat :=
  s.waiters.length + s.drains.length * ((untilMs - s.nowMs) / lookIntervalMs + 2) + 1

def runUntil (s : Schedule) (stop : Schedule → Bool) (untilMs : Nat) : Schedule :=
  runWithFuel stop untilMs (s.eventBound untilMs) s

def settle (s : Schedule) : Schedule := s.pickUpAll.runUntil (fun _ => false) s.nowMs

def advance (s : Schedule) (ms : Nat) : Schedule :=
  let target := s.nowMs + ms
  { s.settle.runUntil (fun _ => false) target with nowMs := target }

/-- When all waiting and draining must have come to an end. -/
def horizon (s : Schedule) : Nat :=
  let ends := s.waiters.map Waiter.deadlineMs ++ s.drains.map fun d => d.deadlineMs + lookIntervalMs
  ends.foldl max s.nowMs

def await (s : Schedule) (t : Ticket) : Schedule :=
  s.runUntil (fun s => (s.answer? t).isSome) s.horizon

def awaitDrains (s : Schedule) : Schedule :=
  s.runUntil (fun s => s.drains.all Drain.done) s.horizon

end Schedule
end ReverseProxy.Pool
