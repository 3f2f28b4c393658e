import ReverseProxy.Calendar
import ReverseProxy.Text

set_option autoImplicit false

/-!
# HTTP dates

Instants are milliseconds since 1 January 1970. A date is written in the fixed form
`Sun, 06 Nov 1994 08:49:37 GMT` and read in that form or in the mail form, which leaves out the
weekday or the seconds, has short years, zones and comments.
-/
namespace ReverseProxy.Http.Date
open Calendar

abbrev Instant := Int

def unixMillis (t : Instant) : Nat := t.toNat

def wholeSeconds (t : Instant) : Nat := t.toNat / 1000

def dayNames : List String := ["Sun", "Mon", "Tue", "Wed", "Thu", "Fri", "Sat"]

def monthNames : List String :=
  ["Jan", "Feb", "Mar", "Apr", "May", "Jun", "Jul", "Aug", "Sep", "Oct", "Nov", "Dec"]

/-- Years outside four digits carry a sign. -/
def yearText (y : Int) : List Char :=
  if 0 ≤ y ∧ y ≤ 9999 then Chars.paddedNat 4 y.toNat
  else (if y < 0 then '-' else '+') :: Chars.paddedNat 4 y.natAbs

/-- The fixed form, for the seconds since 1970; `none` when the year is outside the calendar. -/
def formatSeconds? (s : Int) : Option String :=
  let n := s / 86400
  if inRange n then
    let d := Day.ofDays n
    let rest := (s % 86400).toNat
    let two := Chars.paddedNat 2
    some (String.ofList (
      (dayNames.getD (weekday n) "").toList ++ [',', ' '] ++ two d.day ++ [' '] ++
      (monthNames.getD (d.month - 1) "").toList ++ [' '] ++ yearText d.year ++ [' '] ++
      two (rest / 3600) ++ [':'] ++ two (rest / 60 % 60) ++ [':'] ++ two (rest % 60) ++
      [' ', 'G', 'M', 'T']))
  else none

def format? (t : Instant) : Option String := formatSeconds? (t / 1000)

structure Fields where
  weekday : Option Nat
  year : Int
  month : Nat
  day : Nat
  hour : Nat
  minute : Nat
  second : Nat
  offset : Int
deriving Repr

/-- The instant meant by `f`. The weekday has to fit; a second 60 runs into the next minute. -/
def Fields.instant? (f : Fields) : Option Instant :=
  let d : Day := ⟨f.year, f.month, f.day⟩
  if minYear ≤ f.year ∧ f.year ≤ maxYear ∧ d.Valid ∧ f.hour ≤ 23 ∧ f.minute ≤ 59 ∧ f.second ≤ 60
      ∧ f.offset.natAbs < 86400 then
    let n := d.toDays
    if f.weekday.all (· == Calendar.weekday n) then
      let clock : Int := f.hour * 3600 + f.minute * 60 + min f.second 59 - f.offset
      if inRange (n + clock / 86400) then
        some ((n * 86400 + clock + (if f.second = 60 then 1 else 0)) * 1000)
      else none
    else none
  else none

/-- Between `least` and `most` digits, as many as there are, below `1 <<< 63`. -/
def number? (least : Nat) (most : Option Nat) (cs : List Char) : Option (Nat × List Char) :=
  let run := cs.takeWhile Char.isDigit
  let digits := match most with
    | some k => run.take k
    | none => run
  if digits.length < least then none
  else ((Chars.decimal? digits).filter (· < 1 <<< 63)).map fun n => (n, cs.drop digits.length)

def name? (names : List String) (cs : List Char) : Option (Nat × List Char) :=
  let word := Chars.lower (cs.take 3)
  (names.findIdx? fun n => Chars.lower n.toList == word).map fun i => (i, cs.drop 3)

def char? (c : Char) : List Char → Option (List Char)
  | [] => none
  | d :: cs => if d = c then some cs else none

def signedYear? (cs : List Char) : Option (Int × List Char) :=
  match cs with
  | '-' :: r => (number? 1 none r).map fun (n, r) => (-(n : Int), r)
  | '+' :: r => (number? 1 none r).map fun (n, r) => ((n : Int), r)
  | r => (number? 1 (some 4) r).map fun (n, r) => ((n : Int), r)

open Chars in
/-- The fixed form. Blanks may be missing where the form has one, and may precede a number. -/
def parseFixed? (cs : List Char) : Option Instant := do
  let (weekday, cs) ← name? dayNames cs
  let cs ← char? ',' cs
  let (day, cs) ← number? 1 (some 2) (trimStart cs)
  let (month, cs) ← name? monthNames (trimStart cs)
  let (year, cs) ← signedYear? (trimStart cs)
  let (hour, cs) ← number? 1 (some 2) (trimStart cs)
  let cs ← char? ':' cs
  let (minute, cs) ← number? 1 (some 2) (trimStart cs)
  let cs ← char? ':' cs
  let (second, cs) ← number? 1 (some 2) (trimStart cs)
  let cs ← stripStart? ['G', 'M', 'T'] (trimStart cs)
  if cs.isEmpty then
    Fields.instant? ⟨some weekday, year, month + 1, day, hour, minute, second, 0⟩
  else none

def blanks? (cs : List Char) : Option (List Char) :=
  match cs with
  | c :: r => if Chars.isBlank c then some (Chars.trimStart r) else none
  | [] => none

/-- Two-digit years lie between 1950 and 2049, three-digit ones count from 1900. -/
def fullYear (digits value : Nat) : Nat :=
  if digits = 2 then (if value ≤ 49 then value + 2000 else value + 1900)
  else if digits = 3 then value + 1900
  else value

def zoneHours? (name : List Char) : Option Int :=
  let name := String.ofList (Chars.lower name)
  if name = "gmt" ∨ name = "ut" ∨ name = "z" then some 0
  else if name = "edt" then some (-4)
  else if name = "est" ∨ name = "cdt" then some (-5)
  else if name = "cst" ∨ name = "mdt" then some (-6)
  else if name = "mst" ∨ name = "pdt" then some (-7)
  else if name = "pst" then some (-8)
  else if name.length = 1 ∧ name ≠ "j" then some 0
  else none

def zone? (cs : List Char) : Option (Int × List Char) :=
  let letters := cs.takeWhile Char.isAlpha
  if letters.isEmpty then
    match cs with
    | sign :: a :: b :: c :: d :: r =>
      if sign = '+' ∨ sign = '-' then do
        let hours ← Chars.decimal? [a, b]
        let minutes ← Chars.decimal? [c, d]
        let seconds : Int := hours * 3600 + minutes * 60
        if minutes < 60 then some (if sign = '-' then -seconds else seconds, r) else none
      else none
    | _ => none
  else (zoneHours? letters).map fun h => (h * 3600, cs.drop letters.length)

def afterComment? : Nat → List Char → Option (List Char)
  | _, [] => none
  | 0, _ :: _ => none
  | depth + 1, '\\' :: _ :: cs => afterComment? (depth + 1) cs
  | _ + 1, ['\\'] => none
  | depth + 1, '(' :: cs => afterComment? (depth + 2) cs
  | depth + 1, ')' :: cs => if depth = 0 then some cs else afterComment? depth cs
  | depth + 1, _ :: cs => afterComment? (depth + 1) cs

theorem length_afterComment {depth : Nat} {cs r : List Char}
    (h : afterComment? depth cs = some r) : r.length < cs.length := by
  fun_induction afterComment? depth cs <;> simp_all <;> omega

def skipComments (cs : List Char) : List Char :=
  match _ht : Chars.trimStart cs with
  | '(' :: r =>
    match _h : afterComment? 1 r with
    | some rest => skipComments rest
    | none => cs
  | _ => cs
termination_by cs.length
decreasing_by
  have h1 := length_afterComment _h
  have h2 : (Chars.trimStart cs).length ≤ cs.length := by
    simpa [Chars.trimStart] using (List.dropWhile_suffix Chars.isBlank).length_le
  rw [_ht] at h2
  simp at h2
  omega

open Chars in
def parseMail? (cs : List Char) : Option Instant := do
  let cs := trimStart cs
  let (weekday, cs) ← match name? dayNames cs with
    | some (d, cs) => (char? ',' cs).map fun cs => (some d, cs)
    | none => some (none, cs)
  let (day, cs) ← number? 1 (some 2) (trimStart cs)
  let (month, cs) ← name? monthNames (← blanks? cs)
  let before ← blanks? cs
  let (year, cs) ← number? 2 none before
  let (hour, cs) ← number? 2 (some 2) (← blanks? cs)
  let cs ← char? ':' (trimStart cs)
  let (minute, cs) ← number? 2 (some 2) (trimStart cs)
  let (second, cs) ← match char? ':' (trimStart cs) with
    | some cs => number? 2 (some 2) cs
    | none => some (0, cs)
  let (offset, cs) ← zone? (← blanks? cs)
  let year := fullYear (before.takeWhile Char.isDigit).length year
  if (skipComments cs).isEmpty then
    Fields.instant? ⟨weekday, year, month + 1, day, hour, minute, second, offset⟩
  else none

def parse? (s : String) : Option Instant :=
  let cs := Chars.trim s.toList
  (parseFixed? cs).or (parseMail? cs)

end ReverseProxy.Http.Date
