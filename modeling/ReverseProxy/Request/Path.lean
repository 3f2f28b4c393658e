import ReverseProxy.Text.Utf8

set_option autoImplicit false

namespace ReverseProxy.Request

/-- Takes one more segment: `.` and the empty one change nothing, `..` drops the last one kept. -/
def resolve (kept : List (List Char)) (segment : List Char) : List (List Char) :=
  if segment = [] ∨ segment = ['.'] then kept
  else if segment = ['.', '.'] then kept.dropLast
  else kept ++ [segment]

def resolveAll (segments : List (List Char)) : List (List Char) := segments.foldl resolve []

def rooted (segments : List (List Char)) : List Char := segments.flatMap ('/' :: ·)

/-- The path with its segments resolved; a slash at the end is kept. -/
def normalizePath (path : String) : String :=
  let kept := resolveAll (Chars.splitOn '/' path.toList)
  if kept.isEmpty then "/"
  else String.ofList (rooted kept ++ if path.toList.getLast? = some '/' then ['/'] else [])

/-- A name or value of a query: `+` is a blank, and bytes can be written as `%` and two digits. -/
def formDecode (cs : List Char) : String :=
  let bytes := Bytes.ofText (String.ofList (cs.map fun c => if c = '+' then ' ' else c))
  String.ofList (Utf8.decodeLossy (Utf8.percentDecode bytes))

def queryPair (item : List Char) : String × String :=
  match Chars.cutFirst? '=' item with
  | some (name, value) => (formDecode name, formDecode value)
  | none => (formDecode item, "")

def queryPairs (query : String) : List (String × String) :=
  ((Chars.splitOn '&' query.toList).filter (· ≠ [])).map queryPair

end ReverseProxy.Request
