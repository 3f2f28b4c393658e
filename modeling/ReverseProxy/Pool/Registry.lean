import ReverseProxy.Metrics
import ReverseProxy.Pool.ConnectionPool

set_option autoImplicit false

namespace ReverseProxy.Pool

/-- The number of a generation, from 1, and a place in it. -/
structure PoolRef where
  generation : Nat
  place : Nat
deriving DecidableEq, Repr, Inhabited

abbrev SeriesKey := String × Nat

structure Gauges where
  inFlight : Nat := 0
  endpoints : Nat := 0
deriving DecidableEq, Repr, Inhabited

structure Registry where
  /-- Every generation, the oldest first. One that could not be made is empty. -/
  generations : List (List ConnectionPool)
  generation : Nat
  live : List SeriesKey
  gauges : List (SeriesKey × Gauges)
deriving DecidableEq, Repr, Inhabited

/-- The policies in use: the enabled ones for some hosts in their order, and behind them the first
one for all hosts, or the default if there is none. -/
def activePolicies (configs : List Config.Pool) : List Policy :=
  let policies := configs.map Policy.ofConfig
  let rest := (policies.find? Policy.isDefault).getD (Policy.ofConfig {})
  policies.filter (fun p => !p.isDefault && p.enabled) ++ [rest]

/-- Whether the slots of all pools can be counted. Without endpoints there are none yet. -/
def slotsFit (configs : List Config.Pool) (endpoints : List Endpoint) : Bool :=
  endpoints.isEmpty || (activePolicies configs).all Policy.fits

namespace Registry

def empty : Registry := ⟨[], 0, [], []⟩

def key (p : ConnectionPool) : SeriesKey := (p.id, p.generation)

def setGauges (gs : List (SeriesKey × Gauges)) (k : SeriesKey) (f : Gauges → Gauges) :
    List (SeriesKey × Gauges) :=
  if gs.any (·.1 == k) then gs.map fun g => if g.1 == k then (k, f g.2) else g
  else gs ++ [(k, f {})]

def isRegistered (r : Registry) (k : SeriesKey) : Bool := r.live.contains k

def register (r : Registry) (p : ConnectionPool) : Registry :=
  { r with
    live := if r.isRegistered (key p) then r.live else r.live ++ [key p]
    gauges := setGauges r.gauges (key p) fun _ => ⟨0, p.slots.length⟩ }

def install (r : Registry) (configs : List Config.Pool) (endpoints : List Endpoint) : Registry :=
  let generation := r.generations.length + 1
  let pools := (activePolicies configs).map fun p => ConnectionPool.new p generation endpoints
  pools.foldl register { r with generations := r.generations ++ [pools], generation }

/-- Gives up on a new generation whose slots do not fit. Its number is not used again, and the
gauges of the pools made before that stay at zero. -/
def forgo (r : Registry) (configs : List Config.Pool) : Registry :=
  let made := (activePolicies configs).takeWhile Policy.fits
  let number := r.generations.length + 1
  { r with
    generations := r.generations ++ [[]]
    gauges := made.foldl (fun gs p => setGauges gs (p.id, number) fun _ => {}) r.gauges }

def new (configs : List Config.Pool) (endpoints : List Endpoint) : Registry :=
  empty.install configs endpoints

def pools (r : Registry) (generation : Nat) : List ConnectionPool :=
  if generation = 0 then [] else r.generations.getD (generation - 1) []

def current (r : Registry) : List ConnectionPool := r.pools r.generation

def pool? (r : Registry) (ref : PoolRef) : Option ConnectionPool := (r.pools ref.generation)[ref.place]?

def refs (r : Registry) (generation : Nat) : List PoolRef :=
  (List.range (r.pools generation).length).map fun place => ⟨generation, place⟩

def defaultRef (r : Registry) (generation : Nat) : PoolRef :=
  ⟨generation, (r.pools generation).length - 1⟩

def resolve (r : Registry) (host : String) : PoolRef :=
  match r.current.dropLast.findIdx? fun p => p.policy.serves host with
  | some place => ⟨r.generation, place⟩
  | none => r.defaultRef r.generation

def setPool (r : Registry) (ref : PoolRef) (p : ConnectionPool) : Registry :=
  { r with generations :=
      r.generations.modify (ref.generation - 1) fun ps => ps.set ref.place p }

/-- Shows the numbers of a pool that have changed; a closed pool shows nothing any more. -/
def publish (r : Registry) (before after : ConnectionPool) : Registry :=
  if after.closed then r
  else { r with gauges := setGauges r.gauges (key after) fun g => {
      inFlight := if before.inFlight = after.inFlight then g.inFlight else after.inFlight
      endpoints :=
        if before.slots.length = after.slots.length then g.endpoints else after.slots.length } }

def update (r : Registry) (ref : PoolRef) (f : ConnectionPool → ConnectionPool) : Registry :=
  match r.pool? ref with
  | some p => (r.setPool ref (f p)).publish p (f p)
  | none => r

def ask (r : Registry) (ref : PoolRef) (t : Ticket) (e : Endpoint) : Asked × Registry :=
  match r.pool? ref with
  | some p => ((p.ask t e).1, r.update ref fun p => (p.ask t e).2)
  | none => (.waits, r)

def pickUp (r : Registry) (ref : PoolRef) (t : Ticket) : Asked × Registry :=
  match r.pool? ref with
  | some p => ((p.pickUp t).1, r.update ref fun p => (p.pickUp t).2)
  | none => (.waits, r)

def giveUp (r : Registry) (ref : PoolRef) (t : Ticket) (e : Endpoint) : Asked × Registry :=
  match r.pool? ref with
  | some p => ((p.giveUp t e).1, r.update ref fun p => (p.giveUp t e).2)
  | none => (.waits, r)

def abandon (r : Registry) (ref : PoolRef) (t : Ticket) (e : Endpoint) : Registry :=
  r.update ref (·.abandon t e)

def release (r : Registry) (ref : PoolRef) (e : Endpoint) : Registry := r.update ref (·.release e)

def beginClosing (r : Registry) (ref : PoolRef) : Bool × Registry :=
  match r.pool? ref with
  | some p => (!p.closing, r.setPool ref { p with closing := true })
  | none => (false, r)

def close (r : Registry) (ref : PoolRef) : Registry :=
  match r.pool? ref with
  | some p =>
    let r := r.setPool ref p.close
    { r with
      live := r.live.filter (· != key p)
      gauges := setGauges r.gauges (key p) fun _ => {} }
  | none => r

def series (r : Registry) : List Series :=
  r.gauges.flatMap fun ((id, generation), g) =>
    let labels := [("pool", id), ("generation", Text.ofNat generation)]
    [⟨"proxy_pool_in_flight", labels, g.inFlight⟩, ⟨"proxy_pool_endpoints", labels, g.endpoints⟩]

end Registry
end ReverseProxy.Pool
