import ReverseProxy.Calendar
import ReverseProxy.Document
import ReverseProxy.Toml.Lexical

set_option autoImplicit false

namespace ReverseProxy.Toml

def moreDigits? (isDigit : Char → Bool) : List Char → Option (List Char × List Char)
  | ['_'] => none
  | '_' :: d :: cs =>
    if isDigit d then (moreDigits? isDigit cs).map fun (ds, rest) => (d :: ds, rest) else none
  | c :: cs =>
    if isDigit c then (moreDigits? isDigit cs).map fun (ds, rest) => (c :: ds, rest)
    else some ([], c :: cs)
  | [] => some ([], [])

def digits? (isDigit : Char → Bool) : List Char → Option (List Char × List Char)
  | c :: cs =>
    if isDigit c then (moreDigits? isDigit cs).map fun (ds, rest) => (c :: ds, rest) else none
  | [] => none

def sign? (cs : List Char) : Bool × List Char :=
  match cs with
  | '-' :: r => (true, r)
  | '+' :: r => (false, r)
  | r => (false, r)

/-- A decimal number without leading zeros: sign, digits, rest. -/
def wholePart? (cs : List Char) : Option (Bool × List Char × List Char) :=
  let (negative, r) := sign? cs
  match r with
  | '0' :: rest => some (negative, ['0'], rest)
  | _ => (digits? Char.isDigit r).map fun (ds, rest) => (negative, ds, rest)

def radixInteger? (base : Nat) (digit? : Char → Option Nat) (cs : List Char) :
    Option (Int × List Char) := do
  let (ds, rest) ← digits? (fun c => (digit? c).isSome) cs
  let n ← Chars.digitsValue base digit? ds
  if n < 1 <<< 63 then some (n, rest) else none

def binaryDigit? (c : Char) : Option Nat :=
  if c = '0' then some 0 else if c = '1' then some 1 else none

def integer? (cs : List Char) : Option (Int × List Char) :=
  match cs with
  | '0' :: 'x' :: r => radixInteger? 16 Chars.hexDigit? r
  | '0' :: 'o' :: r => radixInteger? 8 Chars.octalDigit? r
  | '0' :: 'b' :: r => radixInteger? 2 binaryDigit? r
  | _ => do
    let (negative, ds, rest) ← wholePart? cs
    let n ← Chars.decimal? ds
    if negative then (if n ≤ 1 <<< 63 then some (-(n : Int), rest) else none)
    else if n < 1 <<< 63 then some ((n : Int), rest)
    else none

/-- Whether `digits · 10 ^ e` is too large for a double: it rounds to one past the largest. -/
def overflows (digits : Nat) (e : Int) : Bool :=
  let limit : Nat := 1 <<< 1024 - 1 <<< 970
  if digits = 0 then false
  else if 400 < e then true
  else if 0 ≤ e then limit ≤ digits * Nat.pow 10 e.toNat
  else if (Nat.toDigits 10 digits).length + e ≤ 300 then false
  else limit * Nat.pow 10 e.natAbs ≤ digits

def exponent? (cs : List Char) : Option (Int × List Char) :=
  match cs with
  | c :: r =>
    if c = 'e' ∨ c = 'E' then do
      let (negative, r) := sign? r
      let (ds, rest) ← digits? Char.isDigit r
      let n ← Chars.decimal? ds
      some (if negative then -(n : Int) else n, rest)
    else none
  | [] => none

def float? (cs : List Char) : Option (List Char) := do
  let (negative, whole, r) ← wholePart? cs
  let (fraction, r) ← match r with
    | '.' :: r => digits? Char.isDigit r
    | _ => some ([], r)
  let (e, rest) ← match exponent? r with
    | some found => some found
    | none =>
      match fraction, r with
      | [], _ => none
      | _, 'e' :: _ => none
      | _, 'E' :: _ => none
      | _, _ => some (0, r)
  let n ← Chars.decimal? (whole ++ fraction)
  if ¬negative ∧ overflows n (e - fraction.length) then none else some rest

def special? (cs : List Char) : Option (List Char) :=
  let r := (sign? cs).2
  (Chars.stripStart? ['i', 'n', 'f'] r).or (Chars.stripStart? ['n', 'a', 'n'] r)

def fixedDigits? (n : Nat) (cs : List Char) : Option (Nat × List Char) :=
  let ds := cs.take n
  if ds.length = n ∧ ds.all Char.isDigit then (Chars.decimal? ds).map (·, cs.drop n) else none

def mark? (c : Char) : List Char → Option (List Char)
  | d :: cs => if d = c then some cs else none
  | [] => none

def twoDigits? (least most : Nat) (cs : List Char) : Option (List Char) :=
  (fixedDigits? 2 cs).bind fun (n, rest) => if least ≤ n ∧ n ≤ most then some rest else none

def date? (cs : List Char) : Option (List Char) := do
  let (year, cs) ← fixedDigits? 4 cs
  let (month, cs) ← fixedDigits? 2 (← mark? '-' cs)
  let (day, cs) ← fixedDigits? 2 (← mark? '-' cs)
  if (Calendar.Day.mk year month day).Valid then some cs else none

def time? (cs : List Char) : Option (List Char) := do
  let cs ← twoDigits? 0 23 cs
  let cs ← twoDigits? 0 59 (← mark? ':' cs)
  let cs ← twoDigits? 0 60 (← mark? ':' cs)
  match cs with
  | '.' :: r =>
    let rest := r.dropWhile Char.isDigit
    if rest.length < r.length then some rest else none
  | _ => some cs

def zone? (cs : List Char) : Option (List Char) :=
  match cs with
  | 'Z' :: r => some r
  | 'z' :: r => some r
  | '+' :: r => do twoDigits? 0 59 (← mark? ':' (← twoDigits? 0 23 r))
  | '-' :: r => do twoDigits? 0 59 (← mark? ':' (← twoDigits? 0 23 r))
  | _ => none

def moment? (cs : List Char) : Option (List Char) :=
  match date? cs with
  | none => time? cs
  | some r =>
    match r with
    | c :: afterMark =>
      if c = 'T' ∨ c = 't' ∨ c = ' ' then
        match time? afterMark with
        | some rest => some ((zone? rest).getD rest)
        | none => some r
      else some r
    | [] => some r

def numeric? (cs : List Char) : Option (Document × List Char) :=
  match moment? cs with
  | some rest => some (.moment, rest)
  | none =>
    match (float? cs).or (special? cs) with
    | some rest => some (.float, rest)
    | none => (integer? cs).map fun (n, rest) => (.int n, rest)

end ReverseProxy.Toml
