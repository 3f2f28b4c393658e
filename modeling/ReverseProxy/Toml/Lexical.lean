import ReverseProxy.Chars

set_option autoImplicit false

namespace ReverseProxy.Toml

def isSpace (c : Char) : Bool := c == ' ' || c == '\t'

def isPlain (c : Char) : Bool := c == '\t' || (' ' ≤ c && c != '\x7f')

def skipSpace (cs : List Char) : List Char := cs.dropWhile isSpace

def newline? : List Char → Option (List Char)
  | '\n' :: cs => some cs
  | '\r' :: '\n' :: cs => some cs
  | _ => none

def skipComment (cs : List Char) : List Char :=
  match cs with
  | '#' :: r => r.dropWhile isPlain
  | _ => cs

def lineEnd? (cs : List Char) : Option (List Char) :=
  match skipComment (skipSpace cs) with
  | [] => some []
  | r => newline? r

def skipLines : Nat → List Char → Option (List Char)
  | 0, cs => some cs
  | fuel + 1, cs =>
    match skipSpace cs with
    | '#' :: r => (newline? (r.dropWhile isPlain)).bind (skipLines fuel)
    | r =>
      match newline? r with
      | some rest => skipLines fuel rest
      | none => some r

def skipBlank (cs : List Char) : Option (List Char) := skipLines cs.length cs

def scalar? (digits : List Char) : Option Char :=
  (Chars.digitsValue 16 Chars.hexDigit? digits).bind fun n =>
    if n.isValidChar then some (Char.ofNat n) else none

def escape? : List Char → Option (Char × List Char)
  | 'b' :: cs => some ('\x08', cs)
  | 'f' :: cs => some ('\x0c', cs)
  | 'n' :: cs => some ('\n', cs)
  | 'r' :: cs => some ('\r', cs)
  | 't' :: cs => some ('\t', cs)
  | '\\' :: cs => some ('\\', cs)
  | '"' :: cs => some ('"', cs)
  | 'u' :: cs => if cs.length < 4 then none else (scalar? (cs.take 4)).map (·, cs.drop 4)
  | 'U' :: cs => if cs.length < 8 then none else (scalar? (cs.take 8)).map (·, cs.drop 8)
  | _ => none

/-- The rest of a string in double quotes; `acc` holds what was read, last first. -/
def basicRest : Nat → List Char → List Char → Option (List Char × List Char)
  | 0, _, _ => none
  | _ + 1, _, [] => none
  | fuel + 1, acc, c :: cs =>
    if c = '"' then some (acc.reverse, cs)
    else if c = '\\' then
      match escape? cs with
      | some (e, rest) => basicRest fuel (e :: acc) rest
      | none => none
    else if isPlain c then basicRest fuel (c :: acc) cs
    else none

def literalRest (cs : List Char) : Option (List Char × List Char) :=
  let body := cs.takeWhile fun c => isPlain c && c != '\''
  match cs.drop body.length with
  | '\'' :: rest => some (body, rest)
  | _ => none

/-- How a run of `n` quotes reads inside a string of three: as text, or as the end with up to two
quotes before it. -/
def closingQuotes? (n : Nat) : Option Nat := if 3 ≤ n then some (n - 3) else none

def skipGap : Nat → List Char → List Char
  | 0, cs => cs
  | fuel + 1, cs =>
    match newline? (skipSpace cs) with
    | some rest => skipGap fuel rest
    | none => skipSpace cs

/-- After a backslash at the end of a line: everything blank up to the next text. -/
def continued? (cs : List Char) : Option (List Char) :=
  (newline? (skipSpace cs)).map fun r => skipGap r.length r

def longBasicRest : Nat → List Char → List Char → Option (List Char × List Char)
  | 0, _, _ => none
  | _ + 1, _, [] => none
  | fuel + 1, acc, c :: cs =>
    if c = '"' then
      let n := (cs.takeWhile (· == '"')).length + 1
      let rest := cs.drop (n - 1)
      match closingQuotes? n with
      | none => longBasicRest fuel (List.replicate n '"' ++ acc) rest
      | some extra =>
        if extra ≤ 2 then some ((List.replicate extra '"' ++ acc).reverse, rest) else none
    else if c = '\\' then
      match continued? cs with
      | some rest => longBasicRest fuel acc rest
      | none =>
        match escape? cs with
        | some (e, rest) => longBasicRest fuel (e :: acc) rest
        | none => none
    else if isPlain c then longBasicRest fuel (c :: acc) cs
    else
      match newline? (c :: cs) with
      | some rest => longBasicRest fuel ('\n' :: acc) rest
      | none => none

def longLiteralRest : Nat → List Char → List Char → Option (List Char × List Char)
  | 0, _, _ => none
  | _ + 1, _, [] => none
  | fuel + 1, acc, c :: cs =>
    if c = '\'' then
      let n := (cs.takeWhile (· == '\'')).length + 1
      let rest := cs.drop (n - 1)
      match closingQuotes? n with
      | none => longLiteralRest fuel (List.replicate n '\'' ++ acc) rest
      | some extra =>
        if extra ≤ 2 then some ((List.replicate extra '\'' ++ acc).reverse, rest) else none
    else if isPlain c then longLiteralRest fuel (c :: acc) cs
    else
      match newline? (c :: cs) with
      | some rest => longLiteralRest fuel ('\n' :: acc) rest
      | none => none

/-- A newline right after the opening quotes is not part of the text. -/
def skipNewline (cs : List Char) : List Char := (newline? cs).getD cs

def string? (cs : List Char) : Option (List Char × List Char) :=
  match cs with
  | '"' :: '"' :: '"' :: r => longBasicRest (r.length + 1) [] (skipNewline r)
  | '"' :: r => basicRest (r.length + 1) [] r
  | '\'' :: '\'' :: '\'' :: r => longLiteralRest (r.length + 1) [] (skipNewline r)
  | '\'' :: r => literalRest r
  | _ => none

def isBare (c : Char) : Bool := c.isAlphanum || c == '-' || c == '_'

def keyPart? (cs : List Char) : Option (String × List Char) :=
  match cs with
  | '"' :: r => (basicRest (r.length + 1) [] r).map fun (k, rest) => (String.ofList k, rest)
  | '\'' :: r => (literalRest r).map fun (k, rest) => (String.ofList k, rest)
  | _ =>
    let word := cs.takeWhile isBare
    if word.isEmpty then none else some (String.ofList word, cs.drop word.length)

def keyParts? : Nat → List Char → Option (List String × List Char)
  | 0, _ => none
  | fuel + 1, cs => do
    let (part, cs) ← keyPart? (skipSpace cs)
    match skipSpace cs with
    | '.' :: r => do
      let (parts, rest) ← keyParts? fuel r
      some (part :: parts, rest)
    | r => some ([part], r)

/-- The most parts that a key has, and arrays or inline tables that a value nests. -/
def nestingLimit : Nat := 79

def key? (cs : List Char) : Option (List String × List Char) :=
  (keyParts? (cs.length + 1) cs).filter fun (parts, _) => parts.length ≤ nestingLimit

end ReverseProxy.Toml
