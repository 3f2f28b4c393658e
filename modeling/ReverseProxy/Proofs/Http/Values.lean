import ReverseProxy.Http.Header
import ReverseProxy.Http.Uri
import ReverseProxy.Proofs.Text.Plain

set_option autoImplicit false

namespace ReverseProxy

def Chars.isValueChar (c : Char) : Bool := (0x20 ≤ c.toNat && c.toNat != 0x7f) || c.toNat == 9

def Text.Holdable (s : String) : Prop := ∀ c ∈ s.toList, Chars.isValueChar c = true

instance (s : String) : Decidable (Text.Holdable s) := List.decidableBAll _ s.toList

namespace Chars

theorem isValueChar_of_high {c : Char} (hc : 0x80 ≤ c.toNat) : isValueChar c = true := by
  simp only [isValueChar, Bool.or_eq_true, Bool.and_eq_true, decide_eq_true_eq, bne_iff_ne,
    beq_iff_eq]
  omega

theorem isValueChar_of {p : Char → Bool} (hlow : ∀ n, n < 0x20 → n ≠ 9 → p (Char.ofNat n) = false)
    (hdelete : p (Char.ofNat 0x7f) = false) {c : Char} (hc : p c = true) :
    isValueChar c = true := by
  rw [← Char.ofNat_toNat c] at hc
  have hlow' : ¬(c.toNat < 0x20 ∧ c.toNat ≠ 9) := by
    rintro ⟨hlt, htab⟩
    rw [hlow _ hlt htab] at hc
    cases hc
  have hdelete' : c.toNat ≠ 0x7f := by
    intro heq
    rw [heq, hdelete] at hc
    cases hc
  simp only [isValueChar, Bool.or_eq_true, Bool.and_eq_true, decide_eq_true_eq, bne_iff_ne,
    beq_iff_eq]
  omega

theorem isValueChar_of_isPathChar {c : Char} (hc : Http.Uri.isPathChar c = true) :
    isValueChar c = true :=
  isValueChar_of (p := Http.Uri.isPathChar) (by decide) (by decide) hc

theorem isValueChar_of_isQueryChar {c : Char} (hc : Http.Uri.isQueryChar c = true) :
    isValueChar c = true :=
  isValueChar_of (p := Http.Uri.isQueryChar) (by decide) (by decide) hc

end Chars

namespace Bytes

theorem isValueByte_eq (b : UInt8) :
    Http.isValueByte b = ((0x20 ≤ b.toNat && b.toNat != 0x7f) || b.toNat == 9) := by
  rw [Bool.eq_iff_iff]
  simp [Http.isValueByte, UInt8.le_iff_toNat_le, ← UInt8.toNat_inj]

theorem isValueByte_of_high {n : Nat} (hlow : 0x80 ≤ n) (hhigh : n < 0x100) :
    Http.isValueByte (UInt8.ofNat n) = true := by
  rw [isValueByte_eq, UInt8.toNat_ofNat_of_lt' hhigh]
  simp only [Bool.or_eq_true, Bool.and_eq_true, decide_eq_true_eq, bne_iff_ne, beq_iff_eq]
  omega

theorem all_isValueByte_encode (c : Char) :
    (String.utf8EncodeChar c).all Http.isValueByte = Chars.isValueChar c := by
  unfold String.utf8EncodeChar
  dsimp only
  by_cases hascii : c.val.toNat ≤ 127
  · have hbyte : (UInt8.ofNat c.val.toNat).toNat = c.toNat :=
      UInt8.toNat_ofNat_of_lt' (Nat.lt_of_le_of_lt hascii (by decide))
    rw [if_pos hascii, List.all_cons, List.all_nil, Bool.and_true, isValueByte_eq,
      hbyte]
    rfl
  · rw [if_neg hascii, Chars.isValueChar_of_high (Nat.lt_of_not_le hascii)]
    split
    · simp only [List.all_cons, List.all_nil, Bool.and_true, Bool.and_eq_true]
      exact ⟨isValueByte_of_high (by omega) (by omega), isValueByte_of_high (by omega) (by omega)⟩
    split <;> simp only [List.all_cons, List.all_nil, Bool.and_true, Bool.and_eq_true]
    · exact ⟨isValueByte_of_high (by omega) (by omega), isValueByte_of_high (by omega) (by omega),
        isValueByte_of_high (by omega) (by omega)⟩
    · exact ⟨isValueByte_of_high (by omega) (by omega), isValueByte_of_high (by omega) (by omega),
        isValueByte_of_high (by omega) (by omega), isValueByte_of_high (by omega) (by omega)⟩

theorem isSome_headerValue?_iff {s : String} :
    (Http.headerValue? (ofText s)).isSome = true ↔ Text.Holdable s := by
  have hall : (ofText s).all Http.isValueByte = s.toList.all Chars.isValueChar := by
    rw [ofText_eq_flatMap, List.all_flatMap]
    simp only [all_isValueByte_encode]
  rw [Http.headerValue?, hall]
  unfold Text.Holdable
  split
  · next h => exact iff_of_true rfl (List.all_eq_true.1 h)
  · next h => exact iff_of_false nofun (mt List.all_eq_true.2 h)

theorem headerValue?_of_holdable {s : String} (h : Text.Holdable s) :
    Http.headerValue? (ofText s) = some (ofText s) := by
  have hsome := isSome_headerValue?_iff.2 h
  unfold Http.headerValue? at hsome ⊢
  split at hsome
  · next hall => rw [if_pos hall]
  · cases hsome

end Bytes

theorem Text.Plain.holdable {s : String} (hs : Plain s) : Holdable s := by
  intro c hc
  have hplain := hs c hc
  simp only [Chars.isPlain, Chars.isValueChar, Bool.or_eq_true, Bool.and_eq_true,
    decide_eq_true_eq, bne_iff_ne, beq_iff_eq] at hplain ⊢
  omega

end ReverseProxy
