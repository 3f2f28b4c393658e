import ReverseProxy.Pool.Policy
import ReverseProxy.Pool.Refusal

set_option autoImplicit false

/-!
# Connection pools

A pool lends slots of endpoints. Whoever finds no free slot queues up with a ticket; a slot that
comes back is kept ready for the ticket that has waited longest until its holder picks it up. A
pool that closes forgets its slots and wakes everyone who waits.
-/
namespace ReverseProxy.Pool

abbrev Ticket := Nat

structure Slots where
  endpoint : Endpoint
  free : Nat
  queue : List Ticket := []
deriving DecidableEq, Repr, Inhabited

structure ConnectionPool where
  policy : Policy
  generation : Nat
  slots : List Slots
  inFlight : Nat := 0
  /-- Tickets that were woken and what they wait for; they hold a slot unless the pool closed. -/
  ready : List (Ticket × Endpoint) := []
  closing : Bool := false
  closed : Bool := false
deriving DecidableEq, Repr, Inhabited

inductive Asked where
  | granted
  | waits
  | refused (why : Refusal)
deriving DecidableEq, Repr

namespace ConnectionPool

def id (p : ConnectionPool) : String := p.policy.id

def slotsOf (p : Policy) (e : Endpoint) : Slots := ⟨e, p.maxConnectionsPerEndpoint, []⟩

def new (policy : Policy) (generation : Nat) (endpoints : List Endpoint) : ConnectionPool :=
  { policy, generation, slots := endpoints.eraseDups.map (slotsOf policy) }

def find? (p : ConnectionPool) (e : Endpoint) : Option Slots := p.slots.find? (·.endpoint == e)

def available? (p : ConnectionPool) (e : Endpoint) : Option Nat := (p.find? e).map Slots.free

def setSlots (p : ConnectionPool) (s : Slots) : ConnectionPool :=
  { p with slots := p.slots.map fun t => if t.endpoint == s.endpoint then s else t }

def provision (p : ConnectionPool) (e : Endpoint) : ConnectionPool :=
  if (p.find? e).isSome then p else { p with slots := p.slots ++ [slotsOf p.policy e] }

def closedRefusal (p : ConnectionPool) : Refusal := .closed p.id

def exhaustedRefusal (p : ConnectionPool) (e : Endpoint) : Refusal :=
  .exhausted e p.policy.borrowTimeout

/-- Asks for a slot: a free one is lent at once, else the ticket queues up. An endpoint becomes
known by being asked for, if its slots can be counted. -/
def ask (p : ConnectionPool) (t : Ticket) (e : Endpoint) : Asked × ConnectionPool :=
  if p.closed then (.refused p.closedRefusal, p)
  else if (p.find? e).isNone && !p.policy.fits then (.refused (.tooManySlots p.id), p)
  else
    let p := p.provision e
    let s := (p.find? e).getD (slotsOf p.policy e)
    if 0 < s.free then
      (.granted, { p.setSlots { s with free := s.free - 1 } with inFlight := p.inFlight + 1 })
    else (.waits, p.setSlots { s with queue := s.queue ++ [t] })

/-- Passes a slot on to the ticket that waits longest, or leaves it free. -/
def passOn (p : ConnectionPool) (e : Endpoint) : ConnectionPool :=
  match p.find? e with
  | none => p
  | some s =>
    match s.queue with
    | [] => p.setSlots { s with free := s.free + 1 }
    | t :: queue => { p.setSlots { s with queue } with ready := p.ready ++ [(t, e)] }

def release (p : ConnectionPool) (e : Endpoint) : ConnectionPool :=
  ({ p with inFlight := p.inFlight - 1 }).passOn e

def isReady (p : ConnectionPool) (t : Ticket) : Bool := p.ready.any (·.1 == t)

def unready (p : ConnectionPool) (t : Ticket) : ConnectionPool :=
  { p with ready := p.ready.filter (·.1 != t) }

def pickUp (p : ConnectionPool) (t : Ticket) : Asked × ConnectionPool :=
  if !p.isReady t then (.waits, p)
  else if p.closed then (.refused p.closedRefusal, p.unready t)
  else (.granted, { p.unready t with inFlight := p.inFlight + 1 })

def leaveQueue (p : ConnectionPool) (t : Ticket) : ConnectionPool :=
  { p with slots := p.slots.map fun s => { s with queue := s.queue.filter (· != t) } }

/-- A ticket at the end of its patience. One that was woken in time still counts. -/
def giveUp (p : ConnectionPool) (t : Ticket) (e : Endpoint) : Asked × ConnectionPool :=
  if p.isReady t then p.pickUp t
  else (.refused (p.exhaustedRefusal e), p.leaveQueue t)

/-- Forgets a ticket whose holder has gone; a slot kept ready for it is passed on. -/
def abandon (p : ConnectionPool) (t : Ticket) (e : Endpoint) : ConnectionPool :=
  if p.isReady t then (p.unready t).passOn e else p.leaveQueue t

/-- Whether a pool that is to close may do so: nothing is lent, or its time is up. -/
def mayClose (p : ConnectionPool) (deadlineMs nowMs : Nat) : Bool :=
  p.inFlight == 0 || deadlineMs ≤ nowMs

def close (p : ConnectionPool) : ConnectionPool :=
  { p with
    closed := true
    slots := []
    ready := p.ready ++ p.slots.flatMap fun s => s.queue.map fun t => (t, s.endpoint) }

end ConnectionPool
end ReverseProxy.Pool
