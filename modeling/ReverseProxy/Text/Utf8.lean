import ReverseProxy.Bytes

set_option autoImplicit false

namespace ReverseProxy.Utf8

def isContinuation (b : UInt8) : Bool := 0x80 ≤ b && b ≤ 0xBF

/-- The bytes that may follow the first byte `b`, and how many come after that one. -/
def second? (b : UInt8) : Option (UInt8 × UInt8 × Nat) :=
  if 0xC2 ≤ b && b ≤ 0xDF then some (0x80, 0xBF, 0)
  else if b == 0xE0 then some (0xA0, 0xBF, 1)
  else if b == 0xED then some (0x80, 0x9F, 1)
  else if 0xE1 ≤ b && b ≤ 0xEF then some (0x80, 0xBF, 1)
  else if b == 0xF0 then some (0x90, 0xBF, 2)
  else if 0xF1 ≤ b && b ≤ 0xF3 then some (0x80, 0xBF, 2)
  else if b == 0xF4 then some (0x80, 0x8F, 2)
  else none

def leadBits (b : UInt8) : Nat :=
  if b < 0xE0 then b.toNat % 32 else if b < 0xF0 then b.toNat % 16 else b.toNat % 8

/-- Reads `n` continuation bytes onto `acc`; on failure, what is left unread. -/
def tail : Nat → Nat → Bytes → Except Bytes (Nat × Bytes)
  | 0, acc, bs => .ok (acc, bs)
  | _ + 1, _, [] => .error []
  | n + 1, acc, b :: bs =>
    if isContinuation b then tail n (acc * 64 + b.toNat % 64) bs else .error (b :: bs)

/-- The first character, `none` if its bytes are broken, and the bytes after it. -/
def next (b : UInt8) (bs : Bytes) : Option Char × Bytes :=
  if b < 0x80 then (some (Char.ofNat b.toNat), bs)
  else
    match second? b with
    | none => (none, bs)
    | some (least, most, more) =>
      match bs with
      | [] => (none, [])
      | c :: cs =>
        if least ≤ c && c ≤ most then
          match tail more (leadBits b * 64 + c.toNat % 64) cs with
          | .ok (n, rest) => (some (Char.ofNat n), rest)
          | .error rest => (none, rest)
        else (none, c :: cs)

theorem length_tail (n acc : Nat) (bs : Bytes) :
    (match tail n acc bs with
      | .ok (_, r) => r.length ≤ bs.length
      | .error r => r.length ≤ bs.length) := by
  induction n generalizing acc bs with
  | zero => simp [tail]
  | succ n ih =>
    cases bs with
    | nil => simp [tail]
    | cons b bs =>
      by_cases h : isContinuation b
      · have := ih (acc * 64 + b.toNat % 64) bs
        simp only [tail, h, if_true]
        split <;> simp_all <;> omega
      · simp [tail, h]

theorem length_next (b : UInt8) (bs : Bytes) : (next b bs).2.length ≤ bs.length := by
  unfold next
  split
  · simp
  · cases second? b with
    | none => simp
    | some t =>
      obtain ⟨least, most, more⟩ := t
      cases bs with
      | nil => simp
      | cons c cs =>
        have h := length_tail more (leadBits b * 64 + c.toNat % 64) cs
        dsimp only
        split
        · revert h
          cases tail more (leadBits b * 64 + c.toNat % 64) cs with
          | ok r => simp; omega
          | error r => simp; omega
        · simp

def decodeAll (bs : Bytes) : List (Option Char) :=
  match bs with
  | [] => []
  | b :: bs => (next b bs).1 :: decodeAll (next b bs).2
termination_by bs.length
decreasing_by
  have := length_next b bs
  simp
  omega

def decodeLossy (bs : Bytes) : List Char := (decodeAll bs).map (·.getD '\uFFFD')

def decode? (bs : Bytes) : Option (List Char) := (decodeAll bs).mapM id

def percentDecode : Bytes → Bytes
  | 0x25 :: a :: b :: bs =>
    match Chars.hexDigit? (Char.ofNat a.toNat), Chars.hexDigit? (Char.ofNat b.toNat) with
    | some x, some y => (x * 16 + y).toUInt8 :: percentDecode bs
    | _, _ => 0x25 :: percentDecode (a :: b :: bs)
  | b :: bs => b :: percentDecode bs
  | [] => []

end ReverseProxy.Utf8
