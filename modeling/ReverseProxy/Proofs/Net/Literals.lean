import ReverseProxy.Net.Address
import ReverseProxy.Proofs.Text.Cut
import ReverseProxy.Proofs.Text.Decimal

set_option autoImplicit false

namespace ReverseProxy.Net

def isAddressChar (c : Char) : Bool := (Chars.hexDigit? c).isSome || c == '.'

section
variable {cs front back : List Char} {pieces : List (List Char)} {gs : List Nat} {mixed : Bool}

theorem isAddressChar_of_octet? {n : Nat} (h : octet? cs = some n) :
    ∀ c ∈ cs, isAddressChar c = true := by
  have hdecimal : ∃ n, Chars.decimal? cs = some n := by
    unfold octet? at h
    split at h
    · cases h
    split at h
    · exact ⟨n, (Option.filter_eq_some_iff.1 h).1⟩
    · cases h
  obtain ⟨m, hm⟩ := hdecimal
  intro c hc
  simp [isAddressChar, Chars.hexDigit?, Chars.isDigit_of_decimal? hm c hc]

theorem isAddressChar_of_ipv4? (h : ipv4? cs = some gs) : ∀ c ∈ cs, isAddressChar c = true := by
  obtain ⟨octets, hoctets, _⟩ := Option.bind_eq_some_iff.1 h
  intro c hc
  by_cases hdot : c = '.'
  · rw [hdot]
    rfl
  obtain ⟨piece, hpiece, hc⟩ := Chars.exists_mem_splitOn hc hdot
  obtain ⟨n, hn⟩ := exists_some_of_mapM hoctets hpiece
  exact isAddressChar_of_octet? hn c hc

theorem isAddressChar_of_group? {n : Nat} (h : group? cs = some n) :
    ∀ c ∈ cs, isAddressChar c = true := by
  unfold group? at h
  split at h
  · intro c hc
    simp [isAddressChar, Chars.isSome_of_digitsValue h c hc]
  · cases h

theorem of_pieces? (h : pieces? mixed pieces = some gs) :
    (∀ p ∈ pieces, ∀ c ∈ p, isAddressChar c = true) ∧
      pieces.length ≤ gs.length ∧ gs.length ≤ pieces.length + 1 := by
  fun_induction pieces? mixed pieces generalizing gs with
  | case1 => cases h; simp
  | case2 p g hg =>
    cases h
    exact ⟨by simpa using isAddressChar_of_group? hg, by simp⟩
  | case3 p hg hmixed a b c d hquad =>
    cases h
    exact ⟨by simpa using isAddressChar_of_ipv4? hquad, by simp⟩
  | case4 => cases h
  | case5 => cases h
  | case6 p ps hps ih =>
    obtain ⟨g, hg, h⟩ := Option.bind_eq_some_iff.1 h
    obtain ⟨rest, hrest, h⟩ := Option.bind_eq_some_iff.1 h
    cases h
    obtain ⟨hchars, hlower, hupper⟩ := ih hrest
    exact ⟨List.forall_mem_cons.2 ⟨isAddressChar_of_group? hg, hchars⟩,
      Nat.succ_le_succ hlower, Nat.succ_le_succ hupper⟩

theorem of_groups? (h : groups? mixed cs = some gs) :
    (∀ c ∈ cs, isAddressChar c = true ∨ c = ':') ∧
      cs.count ':' ≤ gs.length - 1 ∧ gs.length ≤ cs.count ':' + 2 := by
  unfold groups? at h
  split at h
  · next hempty =>
    cases h
    simp [List.isEmpty_iff.1 hempty]
  · obtain ⟨hchars, hlower, hupper⟩ := of_pieces? h
    rw [Chars.length_splitOn] at hlower hupper
    refine ⟨fun c hc => ?_, by omega, by omega⟩
    by_cases hcolon : c = ':'
    · exact .inr hcolon
    · obtain ⟨piece, hpiece, hc⟩ := Chars.exists_mem_splitOn hc hcolon
      exact .inl (hchars piece hpiece c hc)

theorem eq_of_cutAtGap? (h : cutAtGap? cs = some (front, back)) :
    cs = front ++ ':' :: ':' :: back := by
  fun_induction cutAtGap? cs generalizing front with
  | case1 r =>
    cases h
    rfl
  | case2 c r _ ih =>
    obtain ⟨⟨a, b⟩, hcut, heq⟩ := Option.map_eq_some_iff.1 h
    cases heq
    rw [ih hcut]
    rfl
  | case3 => cases h

/-- An address has one to eight colons, and digits and dots besides. -/
theorem of_ipv6? (h : ipv6? cs = some gs) :
    (∀ c ∈ cs, isAddressChar c = true ∨ c = ':') ∧ ':' ∈ cs ∧ cs.count ':' ≤ 8 := by
  unfold ipv6? at h
  split at h
  · next front back hcut =>
    obtain ⟨fs, hfront, h⟩ := Option.bind_eq_some_iff.1 h
    obtain ⟨bs, hback, h⟩ := Option.bind_eq_some_iff.1 h
    obtain ⟨hfchars, hfcount, _⟩ := of_groups? hfront
    obtain ⟨hbchars, hbcount, _⟩ := of_groups? hback
    split at h
    · next hroom =>
      rw [eq_of_cutAtGap? hcut]
      refine ⟨?_, by simp, ?_⟩
      · exact List.forall_mem_append.2 ⟨hfchars, List.forall_mem_cons.2
          ⟨.inr rfl, List.forall_mem_cons.2 ⟨.inr rfl, hbchars⟩⟩⟩
      · simp only [List.count_append, List.count_cons_self]
        omega
    · cases h
  · obtain ⟨hgroups, height⟩ := Option.filter_eq_some_iff.1 h
    obtain ⟨hchars, hlower, hupper⟩ := of_groups? hgroups
    have hlength : gs.length = 8 := by simpa using height
    exact ⟨hchars, List.count_pos_iff.1 (by omega), by omega⟩

end

end ReverseProxy.Net
