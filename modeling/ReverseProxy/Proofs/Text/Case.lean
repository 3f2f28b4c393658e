import ReverseProxy.Proofs.Text.Trim

set_option autoImplicit false

namespace ReverseProxy.Chars

def IsLetter (c : Char) : Prop :=
  (65 ≤ c.toNat ∧ c.toNat ≤ 90) ∨ (97 ≤ c.toNat ∧ c.toNat ≤ 122)

instance (c : Char) : Decidable (IsLetter c) :=
  inferInstanceAs (Decidable ((65 ≤ c.toNat ∧ c.toNat ≤ 90) ∨ _))

def Letterless (cs : List Char) : Prop := ∀ c ∈ cs, ¬IsLetter c

instance (cs : List Char) : Decidable (Letterless cs) := List.decidableBAll _ cs

theorem apply_toLower {p : Char → Bool} (hp : ∀ c, IsLetter c → p c = false) (c : Char) :
    p c.toLower = p c := by
  unfold Char.toLower
  split
  · next h =>
    have hlow : (65 : UInt32) ≤ c.val := h.1
    have hhigh : c.val ≤ 90 := h.2
    rw [UInt32.le_iff_toNat_le] at hlow hhigh
    simp only [UInt32.reduceToNat] at hlow hhigh
    have hnat : (c.val + 32).toNat = c.val.toNat + 32 := by
      simp only [UInt32.toNat_add, UInt32.reduceToNat]
      omega
    rw [hp c (.inl ⟨hlow, hhigh⟩)]
    refine hp _ (.inr ?_)
    change 97 ≤ (c.val + 32).toNat ∧ (c.val + 32).toNat ≤ 122
    omega
  · rfl

theorem isBlank_toLower (c : Char) : isBlank c.toLower = isBlank c := by
  refine apply_toLower (fun c hc => ?_) c
  unfold IsLetter at hc
  unfold isBlank
  simp
  omega

theorem isDigit_toLower (c : Char) : c.toLower.isDigit = c.isDigit := by
  refine apply_toLower (fun c hc => ?_) c
  change (65 ≤ c.val.toNat ∧ c.val.toNat ≤ 90) ∨ (97 ≤ c.val.toNat ∧ c.val.toNat ≤ 122) at hc
  simp only [Char.isDigit, Bool.and_eq_false_iff, decide_eq_false_iff_not, ge_iff_le,
    UInt32.le_iff_toNat_le]
  change ¬48 ≤ c.val.toNat ∨ ¬c.val.toNat ≤ 57
  omega

theorem toLower_eq_iff {sep : Char} (hsep : ¬IsLetter sep) (c : Char) :
    c.toLower = sep ↔ c = sep := by
  have h : (c.toLower == sep) = (c == sep) :=
    apply_toLower (p := (· == sep)) (fun c hc => beq_eq_false_iff_ne.2 fun heq => hsep (heq ▸ hc)) c
  rw [← beq_iff_eq, h, beq_iff_eq]

theorem lower_trimStart (cs : List Char) : trimStart (lower cs) = lower (trimStart cs) := by
  have hblank : isBlank ∘ Char.toLower = isBlank := funext isBlank_toLower
  unfold trimStart lower
  rw [List.dropWhile_map, hblank]

theorem lower_trim (cs : List Char) : trim (lower cs) = lower (trim cs) := by
  have hblank : isBlank ∘ Char.toLower = isBlank := funext isBlank_toLower
  unfold trim trimEnd dropEndWhile
  rw [lower_trimStart]
  unfold lower
  rw [← List.map_reverse, List.dropWhile_map, hblank, List.map_reverse]

/-- A text is not changed by cutting something off it that shows in lower case. -/
theorem eq_of_lower_eq {a b : List Char} (h : a = b ∨ b.length < a.length)
    (heq : lower a = lower b) : a = b := by
  have hlength := congrArg List.length heq
  unfold lower at hlength
  rw [List.length_map, List.length_map] at hlength
  rcases h with h | h
  · exact h
  · omega

theorem toLower_toLower (c : Char) : c.toLower.toLower = c.toLower := by
  have hlow : ¬(c.toLower.val ≥ 'A'.val ∧ c.toLower.val ≤ 'Z'.val) := by
    unfold Char.toLower
    split <;> grind [UInt32.toNat_add, Char.toNat_val]
  exact dif_neg hlow

theorem lower_lower (cs : List Char) : lower (lower cs) = lower cs := by
  unfold lower
  rw [List.map_map]
  exact List.map_congr_left fun c _ => toLower_toLower c

theorem lower_append (a b : List Char) : lower (a ++ b) = lower a ++ lower b := List.map_append

theorem lower_eq_iff {p : List Char} (hp : Letterless p) (cs : List Char) :
    lower cs = p ↔ cs = p := by
  unfold lower
  induction p generalizing cs with
  | nil => exact List.map_eq_nil_iff
  | cons a p ih =>
    cases cs with
    | nil => simp
    | cons c cs =>
      have htail := ih (fun d hd => hp d (List.mem_cons_of_mem a hd)) cs
      rw [List.map_cons, List.cons.injEq, List.cons.injEq, htail,
        toLower_eq_iff (hp a List.mem_cons_self)]

theorem lower_eq_append_iff {p : List Char} (hp : Letterless p) (cs r : List Char) :
    lower cs = p ++ r ↔ ∃ rest, cs = p ++ rest ∧ lower rest = r := by
  constructor
  · intro h
    obtain ⟨front, rest, rfl, hfront, hrest⟩ := List.map_eq_append_iff.1 h
    obtain rfl := (lower_eq_iff hp front).1 hfront
    exact ⟨rest, rfl, hrest⟩
  · rintro ⟨rest, rfl, rfl⟩
    rw [lower_append, (lower_eq_iff hp p).2 rfl]

section
variable {sep : Char} (hsep : ¬IsLetter sep)

include hsep

theorem lower_cutFirst? (cs : List Char) : cutFirst? sep (lower cs) =
    (cutFirst? sep cs).map fun (a, b) => (lower a, lower b) := by
  induction cs with
  | nil => rfl
  | cons c cs ih =>
    unfold lower at ih
    by_cases hc : c = sep
    · simp [lower, cutFirst?, hc, (toLower_eq_iff hsep sep).2 rfl]
    · have hc' : ¬c.toLower = sep := fun h => hc ((toLower_eq_iff hsep c).1 h)
      cases h : cutFirst? sep cs <;> simp [lower, cutFirst?, hc, hc', ih, h]

theorem lower_cutLast? (cs : List Char) : cutLast? sep (lower cs) =
    (cutLast? sep cs).map fun (a, b) => (lower a, lower b) := by
  have hreverse : (lower cs).reverse = lower cs.reverse := by simp [lower]
  unfold cutLast?
  rw [hreverse, lower_cutFirst? hsep]
  cases cutFirst? sep cs.reverse <;> simp [lower]

end

end ReverseProxy.Chars

namespace ReverseProxy.Text

theorem lower_lower (s : String) : lower (lower s) = lower s := by
  rw [← String.toList_inj, lower_toList, lower_toList, Chars.lower_lower]

theorem lower_trim (s : String) : trim (lower s) = lower (trim s) := by
  rw [← String.toList_inj, trim_toList, lower_toList, lower_toList, trim_toList, Chars.lower_trim]

theorem mem_lower {sep : Char} (hsep : ¬Chars.IsLetter sep) {s : String} :
    sep ∈ (lower s).toList ↔ sep ∈ s.toList := by
  rw [lower_toList, Chars.lower, List.mem_map]
  constructor
  · rintro ⟨c, hc, heq⟩
    exact (Chars.toLower_eq_iff hsep c).1 heq ▸ hc
  · intro hmem
    exact ⟨sep, hmem, (Chars.toLower_eq_iff hsep sep).2 rfl⟩

end ReverseProxy.Text
