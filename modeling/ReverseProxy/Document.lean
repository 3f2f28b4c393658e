set_option autoImplicit false

namespace ReverseProxy

inductive Document where
  | null
  | bool (b : Bool)
  | int (n : Int)
  | float
  | text (s : String)
  | moment
  | list (items : List Document)
  | table (fields : List (String × Document))
deriving Repr, Inhabited

end ReverseProxy
