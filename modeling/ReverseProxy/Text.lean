import ReverseProxy.Chars

set_option autoImplicit false

namespace ReverseProxy.Text

def trim (s : String) : String := String.ofList (Chars.trim s.toList)

def trimStartOf (c : Char) (s : String) : String := String.ofList (s.toList.dropWhile (· == c))

def trimEndOf (c : Char) (s : String) : String :=
  String.ofList (Chars.dropEndWhile (· == c) s.toList)

/-- Lower-cases the ASCII letters and leaves every other character alone. -/
def lower (s : String) : String := String.ofList (Chars.lower s.toList)

def equalsIgnoringCase (a b : String) : Bool := lower a == lower b

def isBlank (s : String) : Bool := s.toList.all Chars.isBlank

def stripStart? (p s : String) : Option String :=
  (Chars.stripStart? p.toList s.toList).map String.ofList

def stripEnd? (p s : String) : Option String :=
  (Chars.stripEnd? p.toList s.toList).map String.ofList

def hasStart (p s : String) : Bool := (Chars.stripStart? p.toList s.toList).isSome

def hasEnd (p s : String) : Bool := (Chars.stripEnd? p.toList s.toList).isSome

def cutFirst? (sep : Char) (s : String) : Option (String × String) :=
  (Chars.cutFirst? sep s.toList).map fun (a, b) => (String.ofList a, String.ofList b)

def cutLast? (sep : Char) (s : String) : Option (String × String) :=
  (Chars.cutLast? sep s.toList).map fun (a, b) => (String.ofList a, String.ofList b)

def splitOn (sep : Char) (s : String) : List String :=
  (Chars.splitOn sep s.toList).map String.ofList

def join (sep : String) (parts : List String) : String := sep.intercalate parts

def unsigned? (bound : Nat) (s : String) : Option Nat := Chars.unsigned? bound s.toList

def signed? (bound : Nat) (s : String) : Option Int := Chars.signed? bound s.toList

def ofNat (n : Nat) : String := String.ofList (Nat.toDigits 10 n)

def ofInt (n : Int) : String := if n < 0 then "-" ++ ofNat n.natAbs else ofNat n.natAbs

def utf8 (s : String) : List UInt8 := s.toUTF8.toList

theorem trim_toList (s : String) : (trim s).toList = Chars.trim s.toList := String.toList_ofList

theorem lower_toList (s : String) : (lower s).toList = Chars.lower s.toList := String.toList_ofList

end ReverseProxy.Text
