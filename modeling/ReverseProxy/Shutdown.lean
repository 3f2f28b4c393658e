set_option autoImplicit false

namespace ReverseProxy

structure Shutdown where
  sent : Nat := 0
  subscribers : List (String × Nat) := []
deriving DecidableEq, Repr, Inhabited

namespace Shutdown

inductive Poll where
  | signalled
  | empty
  | lagged (missed : Nat)
deriving DecidableEq, Repr

def without (name : String) (subscribers : List (String × Nat)) : List (String × Nat) :=
  subscribers.filter (·.1 != name)

/-- A new subscriber takes the place of an earlier one of its name and sees later signals only. -/
def subscribe (s : Shutdown) (name : String) : Shutdown :=
  { s with subscribers := without name s.subscribers ++ [(name, s.sent)] }

def drop (s : Shutdown) (name : String) : Bool × Shutdown :=
  (s.subscribers.any (·.1 == name), { s with subscribers := without name s.subscribers })

/-- Signals all subscribers and counts them; without any the signal is lost. -/
def trigger (s : Shutdown) : Nat × Shutdown :=
  if s.subscribers.isEmpty then (0, s)
  else (s.subscribers.length, { s with sent := s.sent + 1 })

def moveTo (name : String) (place : Nat) (subscribers : List (String × Nat)) :
    List (String × Nat) :=
  subscribers.map fun p => if p.1 == name then (name, place) else p

def poll (s : Shutdown) (name : String) : Option Poll × Shutdown :=
  match s.subscribers.find? (·.1 == name) with
  | none => (none, s)
  | some (_, place) =>
    if place = s.sent then (some .empty, s)
    else if place + 1 = s.sent then
      (some .signalled, { s with subscribers := moveTo name s.sent s.subscribers })
    else
      (some (.lagged (s.sent - 1 - place)),
        { s with subscribers := moveTo name (s.sent - 1) s.subscribers })

end Shutdown
end ReverseProxy
