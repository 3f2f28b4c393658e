import ReverseProxy.Endpoint

set_option autoImplicit false

namespace ReverseProxy.Routing

structure Group where
  endpoints : List Endpoint
  /-- Calls so far, modulo `2 ^ 64`. -/
  turn : Nat := 0
deriving DecidableEq, Repr, Inhabited

namespace Group

def turns : Nat := 1 <<< 64

/-- The endpoints in the order in which call number `turn` tries them. -/
def order (g : Group) : List Endpoint :=
  let start := g.turn % g.endpoints.length
  g.endpoints.drop start ++ g.endpoints.take start

/-- The first available endpoint in this call's order, or simply the first. -/
def pick (g : Group) (available : Endpoint → Bool) : Option Endpoint :=
  (g.order.find? available).or g.order.head?

def next (g : Group) (available : Endpoint → Bool) : Option Endpoint × Group :=
  if g.endpoints.isEmpty then (none, g)
  else (g.pick available, { g with turn := (g.turn + 1) % turns })

end Group
end ReverseProxy.Routing
