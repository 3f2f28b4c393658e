import ReverseProxy.Http.Header

set_option autoImplicit false

namespace ReverseProxy.Cache

structure Directives where
  noStore : Bool := false
  noCache : Bool := false
  isPrivate : Bool := false
  isPublic : Bool := false
  maxAge : Option Nat := none
deriving DecidableEq, Repr, Inhabited

namespace Directives

/-- An item's name in lower case and its argument without blanks and quotes; blank items do not
count. -/
def item? (part : String) : Option (String × Option String) :=
  let part := Text.trim part
  if part = "" then none
  else
    match Text.cutFirst? '=' part with
    | some (name, arg) =>
      let arg := Text.trimStartOf '"' (Text.trimEndOf '"' (Text.trim arg))
      some (Text.lower (Text.trim name), some (Text.trim arg))
    | none => some (Text.lower part, none)

/-- An age that cannot be read counts as zero. -/
def seconds (arg : Option String) : Nat := (arg.bind (Text.unsigned? (1 <<< 64))).getD 0

def add (d : Directives) : String × Option String → Directives
  | ("no-store", _) => { d with noStore := true }
  | ("no-cache", _) => { d with noCache := true }
  | ("private", _) => { d with isPrivate := true }
  | ("public", _) => { d with isPublic := true }
  | ("max-age", arg) =>
    { d with maxAge := some (d.maxAge.elim (seconds arg) (min · (seconds arg))) }
  | _ => d

def items (value : String) : List (String × Option String) :=
  (Text.splitOn ',' value).filterMap item?

def merge (d : Directives) (value : String) : Directives := (items value).foldl add d

def parse (value : String) : Directives := merge {} value

def ofHeaders (h : Http.Headers) : Directives :=
  ((h.getAll "cache-control" ++ h.getAll "pragma").filterMap Bytes.text?).foldl merge {}

def forbidsStorage (d : Directives) : Bool :=
  d.noStore || d.noCache || d.isPrivate || d.maxAge == some 0

end Directives
end ReverseProxy.Cache
