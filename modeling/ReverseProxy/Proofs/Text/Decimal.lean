import Mathlib.Algebra.Group.Nat.Defs
import ReverseProxy.Proofs.Fallible
import ReverseProxy.Proofs.Text.Plain
import ReverseProxy.Text

set_option autoImplicit false

namespace ReverseProxy.Chars

section
variable {c : Char} (hc : c.isDigit = true)
include hc

theorem toNat_of_isDigit : 48 ≤ c.toNat ∧ c.toNat ≤ 57 := by
  simpa [Char.isDigit, UInt32.le_iff_toNat_le] using hc

theorem isBlank_of_isDigit : isBlank c = false := by
  have hrange := toNat_of_isDigit hc
  unfold isBlank
  simp
  omega

theorem plain_of_isDigit : isPlain c := by
  have hrange := toNat_of_isDigit hc
  simp [isPlain]
  omega

end

theorem foldlM_digits {cs : List Char} (hdigits : ∀ c ∈ cs, c.isDigit = true) (n : Nat) :
    cs.foldlM (fun n c => (decimalDigit? c).map (n * 10 + ·)) n =
      some (Nat.ofDigitChars 10 cs n) := by
  induction cs generalizing n with
  | nil => rfl
  | cons c cs ih =>
    have hdigit : decimalDigit? c = some (c.toNat - '0'.toNat) :=
      if_pos (hdigits c List.mem_cons_self)
    rw [List.foldlM_cons, hdigit, Nat.ofDigitChars_cons, Nat.mul_comm 10 n]
    exact ih (fun d hd => hdigits d (List.mem_cons_of_mem c hd)) _

theorem isDigit_toDigits {n : Nat} : ∀ c ∈ Nat.toDigits 10 n, c.isDigit = true :=
  fun _ hc => Nat.isDigit_of_mem_toDigits (by decide) (by decide) hc

theorem isBlank_toDigits {n : Nat} : ∀ c ∈ Nat.toDigits 10 n, isBlank c = false :=
  fun c hc => isBlank_of_isDigit (isDigit_toDigits c hc)

theorem decimal?_toDigits (n : Nat) : decimal? (Nat.toDigits 10 n) = some n := by
  unfold decimal? digitsValue
  split
  · next hnil => exact absurd hnil Nat.toDigits_ne_nil
  · rw [foldlM_digits isDigit_toDigits, Nat.ofDigitChars_ten_toDigits]

section
variable {bound n : Nat} (hn : n < bound)

include hn

theorem filter_decimal?_toDigits :
    (decimal? (Nat.toDigits 10 n)).filter (· < bound) = some n := by
  rw [decimal?_toDigits, Option.filter_some, if_pos (decide_eq_true hn)]

theorem unsigned?_toDigits : unsigned? bound (Nat.toDigits 10 n) = some n := by
  unfold unsigned?
  split
  · next r hsign =>
    have hplus := isDigit_toDigits (n := n) '+' (hsign ▸ List.mem_cons_self)
    cases hplus
  · exact filter_decimal?_toDigits hn

theorem signed?_toDigits : signed? bound (Nat.toDigits 10 n) = some (n : Int) := by
  unfold signed?
  split
  · next r hsign =>
    have hminus := isDigit_toDigits (n := n) '-' (hsign ▸ List.mem_cons_self)
    cases hminus
  · next r hsign =>
    have hplus := isDigit_toDigits (n := n) '+' (hsign ▸ List.mem_cons_self)
    cases hplus
  · rw [filter_decimal?_toDigits hn]
    rfl

end

section
variable {base bound n : Nat} {digit? : Char → Option Nat} {cs : List Char}

theorem isSome_of_digitsValue (h : digitsValue base digit? cs = some n) :
    ∀ c ∈ cs, (digit? c).isSome := by
  intro c hc
  unfold digitsValue at h
  split at h
  · cases h
  · obtain ⟨x, y, hxy⟩ := exists_some_of_foldlM h hc
    rw [← Option.isSome_map, hxy]
    rfl

theorem isDigit_of_decimal? (h : decimal? cs = some n) : ∀ c ∈ cs, c.isDigit = true := by
  intro c hc
  have hdigit := isSome_of_digitsValue h c hc
  unfold decimalDigit? at hdigit
  split at hdigit
  · assumption
  · cases hdigit

theorem isDigit_of_unsigned? (h : unsigned? bound cs = some n) :
    ∀ c ∈ cs, c.isDigit = true ∨ c = '+' := by
  unfold unsigned? at h
  have hdigits := isDigit_of_decimal? (Option.filter_eq_some_iff.1 h).1
  split at hdigits
  · exact List.forall_mem_cons.2 ⟨.inr rfl, fun c hc => .inl (hdigits c hc)⟩
  · exact fun c hc => .inl (hdigits c hc)

end

section
variable {width n : Nat}

theorem isDigit_paddedNat : ∀ c ∈ paddedNat width n, c.isDigit = true := by
  intro c hc
  rcases List.mem_append.1 hc with hzero | hdigit
  · rw [List.eq_of_mem_replicate hzero]
    rfl
  · exact isDigit_toDigits c hdigit

theorem paddedNat_ne_nil : paddedNat width n ≠ [] :=
  List.append_ne_nil_of_right_ne_nil _ Nat.toDigits_ne_nil

theorem decimal?_paddedNat : decimal? (paddedNat width n) = some n := by
  unfold decimal? digitsValue
  split
  · next hnil => exact absurd hnil paddedNat_ne_nil
  · rw [foldlM_digits isDigit_paddedNat, paddedNat, Nat.ofDigitChars_append,
      Nat.ofDigitChars_replicate_zero, Nat.mul_zero, Nat.ofDigitChars_ten_toDigits]

theorem length_paddedNat (hwidth : 0 < width) (hn : n < 10 ^ width) :
    (paddedNat width n).length = width := by
  have hdigits := (Nat.length_toDigits_le_iff (b := 10) (by decide) hwidth).2 hn
  rw [paddedNat, List.length_append, List.length_replicate, Nat.sub_add_cancel hdigits]

end

end ReverseProxy.Chars
