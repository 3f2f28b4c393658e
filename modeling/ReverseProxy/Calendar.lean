set_option autoImplicit false

namespace ReverseProxy.Calendar

structure Day where
  year : Int
  month : Nat
  day : Nat
deriving DecidableEq, Repr

def isLeap (y : Int) : Bool := y % 4 == 0 && (y % 100 != 0 || y % 400 == 0)

def daysInMonth (y : Int) (m : Nat) : Nat :=
  if m = 2 then (if isLeap y then 29 else 28)
  else if m = 4 ∨ m = 6 ∨ m = 9 ∨ m = 11 then 30
  else 31

/-- Days from 1 January 1970 to 1 January of year `y`; every fourth year but three in four
hundred adds a day. -/
def daysBeforeYear (y : Int) : Int :=
  365 * (y - 1970) + ((y - 1) / 4 - 492) - ((y - 1) / 100 - 19) + ((y - 1) / 400 - 4)

def daysBeforeMonth (y : Int) (m : Nat) : Nat :=
  (List.range (m - 1)).foldl (fun n i => n + daysInMonth y (i + 1)) 0

def Day.toDays (d : Day) : Int :=
  daysBeforeYear d.year + (daysBeforeMonth d.year d.month : Nat) + (d.day : Int) - 1

def Day.Valid (d : Day) : Prop :=
  1 ≤ d.month ∧ d.month ≤ 12 ∧ 1 ≤ d.day ∧ d.day ≤ daysInMonth d.year d.month

instance (d : Day) : Decidable d.Valid := inferInstanceAs (Decidable (_ ∧ _))

/-- The year holding day `n`: a guess from the mean length of a year, moved by at most one. -/
def yearOfDays (n : Int) : Int :=
  let guess := 1970 + n * 400 / 146097
  if daysBeforeYear (guess + 1) ≤ n then guess + 1
  else if n < daysBeforeYear guess then guess - 1
  else guess

def monthOfDays (y : Int) : Nat → Nat → Nat → Nat × Nat
  | 0, m, rest => (m, rest + 1)
  | fuel + 1, m, rest =>
    if rest < daysInMonth y m then (m, rest + 1)
    else monthOfDays y fuel (m + 1) (rest - daysInMonth y m)

def Day.ofDays (n : Int) : Day :=
  let y := yearOfDays n
  let (m, d) := monthOfDays y 11 1 (n - daysBeforeYear y).toNat
  ⟨y, m, d⟩

def weekday (n : Int) : Nat := ((n + 4) % 7).toNat

def minYear : Int := -262143
def maxYear : Int := 262142

def inRange (n : Int) : Bool :=
  daysBeforeYear minYear ≤ n && n < daysBeforeYear (maxYear + 1)

end ReverseProxy.Calendar
