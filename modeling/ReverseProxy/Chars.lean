set_option autoImplicit false

namespace ReverseProxy.Chars

/-- The characters of Unicode's `White_Space` property. -/
def isBlank (c : Char) : Bool :=
  let n := c.toNat
  (9 ≤ n && n ≤ 13) || n == 0x20 || n == 0x85 || n == 0xA0 || n == 0x1680 ||
    (0x2000 ≤ n && n ≤ 0x200A) || n == 0x2028 || n == 0x2029 || n == 0x202F ||
    n == 0x205F || n == 0x3000

def trimStart (cs : List Char) : List Char := cs.dropWhile isBlank

def dropEndWhile (p : Char → Bool) (cs : List Char) : List Char :=
  (cs.reverse.dropWhile p).reverse

def trimEnd (cs : List Char) : List Char := dropEndWhile isBlank cs

def trim (cs : List Char) : List Char := trimEnd (trimStart cs)

def stripStart? : List Char → List Char → Option (List Char)
  | [], cs => some cs
  | _ :: _, [] => none
  | p :: ps, c :: cs => if p = c then stripStart? ps cs else none

theorem stripStart?_eq_some_iff (p cs r : List Char) :
    stripStart? p cs = some r ↔ cs = p ++ r := by
  induction p generalizing cs with
  | nil => simp [stripStart?, eq_comm]
  | cons a p ih =>
    cases cs with
    | nil => simp [stripStart?]
    | cons c cs =>
      by_cases h : a = c
      · simp [stripStart?, h, ih]
      · have h' : ¬c = a := fun e => h e.symm
        simp [stripStart?, h, h']

def stripEnd? (p cs : List Char) : Option (List Char) :=
  (stripStart? p.reverse cs.reverse).map List.reverse

/-- Cuts at the first `sep`, which belongs to neither side. -/
def cutFirst? (sep : Char) : List Char → Option (List Char × List Char)
  | [] => none
  | c :: cs =>
    if c = sep then some ([], cs) else (cutFirst? sep cs).map fun (a, b) => (c :: a, b)

def cutLast? (sep : Char) (cs : List Char) : Option (List Char × List Char) :=
  (cutFirst? sep cs.reverse).map fun (a, b) => (b.reverse, a.reverse)

theorem cutFirst?_eq_some_iff (sep : Char) (cs a b : List Char) :
    cutFirst? sep cs = some (a, b) ↔ cs = a ++ sep :: b ∧ sep ∉ a := by
  induction cs generalizing a with
  | nil => simp [cutFirst?]
  | cons c cs ih =>
    by_cases h : c = sep
    · subst h
      cases a with
      | nil => simp [cutFirst?]
      | cons x a => simp [cutFirst?]; rintro rfl; simp
    · cases a with
      | nil => simp [cutFirst?, h]
      | cons x a =>
        simp only [cutFirst?, h, if_false, Option.map_eq_some_iff, Prod.exists, Prod.mk.injEq,
          List.cons.injEq, List.cons_append, List.mem_cons, not_or]
        constructor
        · rintro ⟨u, v, huv, ⟨rfl, rfl⟩, rfl⟩
          exact ⟨⟨rfl, ((ih u).1 huv).1⟩, fun e => h e.symm, ((ih u).1 huv).2⟩
        · rintro ⟨⟨rfl, hcs⟩, _, hn⟩
          exact ⟨a, b, (ih a).2 ⟨hcs, hn⟩, ⟨rfl, rfl⟩, rfl⟩

theorem cutFirst?_eq_none_iff (sep : Char) (cs : List Char) :
    cutFirst? sep cs = none ↔ sep ∉ cs := by
  induction cs with
  | nil => simp [cutFirst?]
  | cons c cs ih =>
    by_cases h : c = sep
    · simp [cutFirst?, h]
    · have h' : ¬sep = c := fun e => h e.symm
      simp [cutFirst?, h, h', ih]

def splitOn (sep : Char) : List Char → List (List Char)
  | [] => [[]]
  | c :: cs =>
    match splitOn sep cs with
    | [] => [[c]]
    | piece :: pieces => if c = sep then [] :: piece :: pieces else (c :: piece) :: pieces

theorem splitOn_ne_nil (sep : Char) (cs : List Char) : splitOn sep cs ≠ [] := by
  cases cs with
  | nil => simp [splitOn]
  | cons c cs => simp only [splitOn]; split <;> (try split) <;> simp

theorem mem_of_mem_splitOn (sep c : Char) (cs piece : List Char) (h : piece ∈ splitOn sep cs)
    (hc : c ∈ piece) : c ∈ cs := by
  induction cs generalizing piece with
  | nil =>
    simp only [splitOn, List.mem_singleton] at h
    subst h
    exact hc
  | cons a cs ih =>
    simp only [splitOn] at h
    split at h
    · exact absurd ‹_› (splitOn_ne_nil sep cs)
    · rename_i first rest hs
      rw [hs] at ih
      split at h
      · rcases List.mem_cons.1 h with rfl | h
        · simp at hc
        · exact List.mem_cons_of_mem _ (ih piece h hc)
      · rcases List.mem_cons.1 h with rfl | h
        · rcases List.mem_cons.1 hc with rfl | hc
          · exact List.mem_cons_self
          · exact List.mem_cons_of_mem _ (ih first List.mem_cons_self hc)
        · exact List.mem_cons_of_mem _ (ih piece (List.mem_cons_of_mem _ h) hc)

def lower (cs : List Char) : List Char := cs.map Char.toLower

def digitsValue (base : Nat) (digit? : Char → Option Nat) : List Char → Option Nat
  | [] => none
  | cs => cs.foldlM (fun n c => (digit? c).map (n * base + ·)) 0

def decimalDigit? (c : Char) : Option Nat := if c.isDigit then some (c.toNat - 48) else none

def hexDigit? (c : Char) : Option Nat :=
  if c.isDigit then some (c.toNat - 48)
  else if 'a' ≤ c ∧ c ≤ 'f' then some (c.toNat - 87)
  else if 'A' ≤ c ∧ c ≤ 'F' then some (c.toNat - 55)
  else none

def octalDigit? (c : Char) : Option Nat :=
  if '0' ≤ c ∧ c ≤ '7' then some (c.toNat - 48) else none

def decimal? (cs : List Char) : Option Nat := digitsValue 10 decimalDigit? cs

def unsigned? (bound : Nat) (cs : List Char) : Option Nat :=
  let digits := match cs with
    | '+' :: r => r
    | r => r
  (decimal? digits).filter (· < bound)

def signed? (bound : Nat) (cs : List Char) : Option Int :=
  match cs with
  | '-' :: r => ((decimal? r).filter (· ≤ bound)).map fun n => -(n : Int)
  | '+' :: r => ((decimal? r).filter (· < bound)).map Int.ofNat
  | r => ((decimal? r).filter (· < bound)).map Int.ofNat

def paddedNat (width n : Nat) : List Char :=
  let digits := Nat.toDigits 10 n
  List.replicate (width - digits.length) '0' ++ digits

end ReverseProxy.Chars
