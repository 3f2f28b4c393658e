import ReverseProxy.Text

set_option autoImplicit false

namespace ReverseProxy

abbrev Bytes := List UInt8

namespace Bytes

def ofText (s : String) : Bytes := Text.utf8 s

def isPrintable (b : UInt8) : Bool := (0x20 ≤ b && b ≤ 0x7e) || b == 9

/-- The bytes as text, if every one is printable. -/
def text? (bs : Bytes) : Option String :=
  if bs.all isPrintable then some (String.ofList (bs.map fun b => Char.ofNat b.toNat)) else none

end Bytes
end ReverseProxy
