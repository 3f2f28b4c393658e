import ReverseProxy.Text

set_option autoImplicit false

namespace ReverseProxy.Http

inductive UriError where
  | invalidCharacter
  | invalidAuthority
  | invalidFormat
  | schemeTooLong
  | tooLong
  | empty
deriving DecidableEq, Repr

def UriError.message : UriError → String
  | .invalidCharacter => "invalid uri character"
  | .invalidAuthority => "invalid authority"
  | .invalidFormat => "invalid format"
  | .schemeTooLong => "scheme too long"
  | .tooLong => "uri too long"
  | .empty => "empty string"

structure Uri where
  scheme : Option String
  authority : Option String
  rawPath : String
  query : Option String
deriving DecidableEq, Repr, Inhabited

namespace Uri

def isAuthorityChar (c : Char) : Bool :=
  c.isAlphanum ||
    ['!', '$', '&', '\'', '(', ')', '*', '+', ',', '-', '.', ':', ';', '=', '@', '[', ']', '_',
      '~'].contains c

def endsAuthority (c : Char) : Bool := c == '/' || c == '?' || c == '#'

/-- What has been seen of an authority. Colons and percent signs count from the last `@` or `]`
on. -/
structure AuthorityScan where
  colons : Nat := 0
  opened : Bool := false
  closed : Bool := false
  percent : Bool := false

def AuthorityScan.step? (s : AuthorityScan) (c : Char) : Except UriError AuthorityScan :=
  if c = ':' then
    if 8 ≤ s.colons then .error .invalidAuthority else .ok { s with colons := s.colons + 1 }
  else if c = '[' then
    if s.percent || s.opened then .error .invalidAuthority else .ok { s with opened := true }
  else if c = ']' then
    if !s.opened || s.closed then .error .invalidAuthority
    else .ok { s with closed := true, colons := 0, percent := false }
  else if c = '@' then .ok { s with colons := 0, percent := false }
  else if c = '%' then .ok { s with percent := true }
  else if isAuthorityChar c then .ok s
  else .error .invalidCharacter

def splitAuthority (cs : List Char) : Except UriError (List Char × List Char) := do
  let front := cs.takeWhile fun c => !endsAuthority c
  let s ← front.foldlM AuthorityScan.step? {}
  if s.opened != s.closed then .error .invalidAuthority
  else if 1 < s.colons then .error .invalidAuthority
  else if front.getLast? = some '@' then .error .invalidAuthority
  else if s.percent then .error .invalidAuthority
  else .ok (front, cs.drop front.length)

def authority? (s : String) : Except UriError String := do
  if s.toList.isEmpty then .error .empty
  else
    let (front, rest) ← splitAuthority s.toList
    if rest.isEmpty then .ok (String.ofList front) else .error .invalidCharacter

def isPathChar (c : Char) : Bool :=
  c == '!' || ('$' ≤ c && c ≤ ';') || c == '=' || ('@' ≤ c && c ≤ '_') || ('a' ≤ c && c ≤ 'z') ||
    c == '|' || c == '~' || c == '"' || c == '\x7b' || c == '\x7d' || 0x80 ≤ c.toNat

def isQueryChar (c : Char) : Bool :=
  c == '!' || ('$' ≤ c && c ≤ ';') || c == '=' || ('?' ≤ c && c ≤ '~') || 0x80 ≤ c.toNat

/-- A path and a query; a fragment is dropped unread. -/
def splitPathAndQuery (cs : List Char) : Except UriError (List Char × Option (List Char)) :=
  let path := cs.takeWhile fun c => c != '?' && c != '#'
  if !path.all isPathChar then .error .invalidCharacter
  else
    match cs.drop path.length with
    | '?' :: r =>
      let query := r.takeWhile (· != '#')
      if query.all isQueryChar then .ok (path, some query) else .error .invalidCharacter
    | _ => .ok (path, none)

def isSchemeChar (c : Char) : Bool :=
  c.isAlphanum || c == '+' || c == '-' || c == '.' || c == '~'

def splitScheme (cs : List Char) : Except UriError (Option (String × List Char)) :=
  match Chars.stripStart? "http://".toList (Chars.lower (cs.take 7)) with
  | some _ => .ok (some ("http", cs.drop 7))
  | none =>
    match Chars.stripStart? "https://".toList (Chars.lower (cs.take 8)) with
    | some _ => .ok (some ("https", cs.drop 8))
    | none =>
      let name := cs.takeWhile isSchemeChar
      match cs.drop name.length with
      | ':' :: '/' :: '/' :: rest =>
        if cs.length ≤ 3 then .ok none
        else if 64 < name.length then .error .schemeTooLong
        else .ok (some (String.ofList name, rest))
      | _ => .ok none

def parse (s : String) : Except UriError Uri := do
  let cs := s.toList
  if 65534 < s.utf8ByteSize then .error .tooLong
  else
    match cs with
    | [] => .error .empty
    | ['*'] => .ok ⟨none, none, "*", none⟩
    | '/' :: _ => do
      let (path, query) ← splitPathAndQuery cs
      .ok ⟨none, none, String.ofList path, query.map String.ofList⟩
    | [_] => .ok ⟨none, some (← authority? s), "", none⟩
    | _ =>
      match ← splitScheme cs with
      | none => do
        let (front, rest) ← splitAuthority cs
        if rest.isEmpty then .ok ⟨none, some (String.ofList front), "", none⟩
        else .error .invalidFormat
      | some (scheme, cs) => do
        let (front, rest) ← splitAuthority cs
        if front.isEmpty then .error .invalidFormat
        else
          let (path, query) ← splitPathAndQuery rest
          .ok ⟨some scheme, some (String.ofList front), String.ofList path,
            query.map String.ofList⟩

def parse? (s : String) : Option Uri := (parse s).toOption

/-- Whether the target has a path at all; only the authority form has none. -/
def hasPath (u : Uri) : Bool := u.rawPath != "" || u.query.isSome || u.scheme.isSome

def path (u : Uri) : String :=
  if u.hasPath then (if u.rawPath = "" then "/" else u.rawPath) else ""

/-- Path and query as written, `/` if both are missing; none in the authority form. -/
def pathAndQuery? (u : Uri) : Option String :=
  if u.scheme.isSome || u.authority.isNone then
    let text := match u.query with
      | some q => u.rawPath ++ "?" ++ q
      | none => u.rawPath
    some (if text = "" then "/" else text)
  else none

def text (u : Uri) : String :=
  let scheme := match u.scheme with
    | some s => s ++ "://"
    | none => ""
  let query := match u.query with
    | some q => "?" ++ q
    | none => ""
  scheme ++ u.authority.getD "" ++ u.path ++ query

end Uri
end ReverseProxy.Http
