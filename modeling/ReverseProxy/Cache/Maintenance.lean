import ReverseProxy.Cache.Store

set_option autoImplicit false

namespace ReverseProxy.Cache
open Http.Date (Instant)

structure Maintenance where
  running : Bool
  nextTickMs : Nat := 0
deriving DecidableEq, Repr, Inhabited

namespace Maintenance

/-- The first tick is due at once. An interval without length ends the task. -/
def start (p : Policy) : Maintenance := ⟨p.sweepIntervalMs != 0, 0⟩

def stop (m : Maintenance) : Maintenance := { m with running := false }

/-- A tick that comes later than this puts off the next ones. -/
def toleranceMs : Nat := 5

/-- The first tick after `timeMs`, at which the last one came. -/
def tickAfter (m : Maintenance) (intervalMs timeMs : Nat) : Nat :=
  if m.nextTickMs + toleranceMs < timeMs then timeMs + intervalMs
  else m.nextTickMs + ((timeMs - m.nextTickMs) / intervalMs + 1) * intervalMs

def isDue (m : Maintenance) (s : Store) (timeMs : Nat) : Bool :=
  m.running && (m.nextTickMs ≤ timeMs || s.pressure)

/-- Lets the task do what is due: one sweep, since a second at the same time would find nothing
to remove. -/
def settle (m : Maintenance) (s : Store) (timeMs : Nat) (now : Instant) : Maintenance × Store :=
  if m.isDue s timeMs then
    let next := if m.nextTickMs ≤ timeMs then m.tickAfter s.policy.sweepIntervalMs timeMs
      else m.nextTickMs
    ({ m with nextTickMs := next }, ({ s with pressure := false }.sweep now).2)
  else (m, s)

end Maintenance
end ReverseProxy.Cache
