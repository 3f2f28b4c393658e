import ReverseProxy.Http.Uri
import ReverseProxy.Proofs.Fallible
import ReverseProxy.Proofs.Text.Cut
import ReverseProxy.Proofs.Text.Plain
import ReverseProxy.Request.Context

set_option autoImplicit false

namespace ReverseProxy.Http.Uri

theorem plain_of_isAuthorityChar {c : Char} (hc : isAuthorityChar c) : Chars.isPlain c := by
  unfold isAuthorityChar at hc
  rw [Bool.or_eq_true] at hc
  rcases hc with hc | hc
  · have hlt : 0x20 ≤ c.toNat ∧ c.toNat ≤ 0x7e := by
      change (decide (c.val ≥ 'A'.val ∧ c.val ≤ 'Z'.val) ||
        (decide (c.val ≥ 'a'.val) && decide (c.val ≤ 'z'.val)) ||
        (decide (c.val ≥ '0'.val) && decide (c.val ≤ '9'.val))) = true at hc
      simp only [Bool.or_eq_true, Bool.and_eq_true, decide_eq_true_eq, ge_iff_le,
        UInt32.le_iff_toNat_le] at hc
      change ((65 ≤ c.toNat ∧ c.toNat ≤ 90) ∨ (97 ≤ c.toNat ∧ c.toNat ≤ 122)) ∨
        (48 ≤ c.toNat ∧ c.toNat ≤ 57) at hc
      omega
    simp [Chars.isPlain, hlt]
  · rw [List.contains_iff_mem] at hc
    have hmarks : ['!', '$', '&', '\'', '(', ')', '*', '+', ',', '-', '.', ':', ';', '=', '@', '[',
        ']', '_', '~'].all Chars.isPlain = true := by decide
    exact List.all_eq_true.1 hmarks c hc

theorem AuthorityScan.plain_of_step? {s t : AuthorityScan} {c : Char} (h : s.step? c = .ok t) :
    Chars.isPlain c := by
  unfold AuthorityScan.step? at h
  split at h
  · next hc => rw [hc]; rfl
  split at h
  · next hc => rw [hc]; rfl
  split at h
  · next hc => rw [hc]; rfl
  split at h
  · next hc => rw [hc]; rfl
  split at h
  · next hc => rw [hc]; rfl
  split at h
  · next hc => exact plain_of_isAuthorityChar hc
  · cases h

theorem AuthorityScan.plain_of_foldlM {cs : List Char} {s t : AuthorityScan}
    (h : cs.foldlM AuthorityScan.step? s = .ok t) : ∀ c ∈ cs, Chars.isPlain c := by
  induction cs generalizing s with
  | nil => intro c hc; cases hc
  | cons d cs ih =>
    rw [List.foldlM_cons] at h
    obtain ⟨u, hu, h⟩ := bind_ok h
    intro c hc
    rcases List.mem_cons.1 hc with rfl | hc
    · exact plain_of_step? hu
    · exact ih h c hc

/-- What a text has to be like to be an authority. -/
def IsAuthority (cs : List Char) : Prop :=
  (∀ c ∈ cs, endsAuthority c = false) ∧ ∃ s, cs.foldlM AuthorityScan.step? {} = .ok s ∧
    s.opened = s.closed ∧ s.colons ≤ 1 ∧ cs.getLast? ≠ some '@' ∧ s.percent = false

theorem IsAuthority.plain {cs : List Char} (h : IsAuthority cs) : ∀ c ∈ cs, Chars.isPlain c := by
  obtain ⟨_, s, hs, _⟩ := h
  exact AuthorityScan.plain_of_foldlM hs

theorem front_of_splitAuthority {cs front rest : List Char}
    (h : splitAuthority cs = .ok (front, rest)) : IsAuthority front ∧
      front = cs.takeWhile (fun c => !endsAuthority c) ∧
      rest = cs.dropWhile (fun c => !endsAuthority c) := by
  unfold splitAuthority at h
  obtain ⟨s, hs, h⟩ := bind_ok h
  split at h
  · cases h
  next hopen =>
  split at h
  · cases h
  next hcolons =>
  split at h
  · cases h
  next hlast =>
  split at h
  · cases h
  next hpercent =>
  cases h
  refine ⟨⟨?_, s, hs, by simpa using hopen, by omega, hlast, by simpa using hpercent⟩, rfl, ?_⟩
  · intro c hc
    have hkept := List.all_takeWhile (l := cs) (p := fun c => !endsAuthority c)
    simpa using List.all_eq_true.1 hkept c hc
  · refine List.append_cancel_left (Eq.trans ?_ List.takeWhile_append_dropWhile.symm)
    exact (List.prefix_iff_eq_append.1 (List.takeWhile_prefix _))

theorem isAuthority_of_splitAuthority {cs front rest : List Char}
    (h : splitAuthority cs = .ok (front, rest)) : IsAuthority front ∧ cs = front ++ rest := by
  obtain ⟨hfront, rfl, rfl⟩ := front_of_splitAuthority h
  exact ⟨hfront, List.takeWhile_append_dropWhile.symm⟩

theorem splitAuthority_append {cs rest : List Char} (h : IsAuthority cs)
    (hrest : ∀ c, rest.head? = some c → endsAuthority c = true) :
    splitAuthority (cs ++ rest) = .ok (cs, rest) := by
  obtain ⟨hends, s, hs, hopen, hcolons, hlast, hpercent⟩ := h
  have hfront : (cs ++ rest).takeWhile (fun c => !endsAuthority c) = cs :=
    Chars.takeWhile_append (fun c hc => by rw [hends c hc]; rfl) fun c hc => by
      rw [hrest c hc]
      rfl
  have hcolons' : ¬1 < s.colons := by omega
  simp only [splitAuthority, hfront, hs, List.drop_left]
  change (if _ then _ else _) = _
  simp [hopen, hcolons', hlast, hpercent]

theorem splitAuthority_of_isAuthority {cs : List Char} (h : IsAuthority cs) :
    splitAuthority cs = .ok (cs, []) := by
  have hall := splitAuthority_append h (fun _ => nofun : ∀ c, [].head? = some c → _)
  rwa [List.append_nil] at hall

theorem authority?_ofList {front : List Char} (h : IsAuthority front) (hne : front ≠ []) :
    authority? (String.ofList front) = .ok (String.ofList front) := by
  unfold authority?
  rw [String.toList_ofList, splitAuthority_of_isAuthority h]
  simp [hne]
  rfl

theorem isAuthority_of_authority? {s a : String} (h : authority? s = .ok a) :
    a = s ∧ IsAuthority s.toList := by
  unfold authority? at h
  split at h
  · cases h
  obtain ⟨⟨front, rest⟩, hsplit, h⟩ := bind_ok h
  obtain ⟨hfront, hs⟩ := isAuthority_of_splitAuthority hsplit
  dsimp only at h
  split at h
  · next hrest =>
    rw [List.isEmpty_iff.1 hrest, List.append_nil] at hs
    rw [hs]
    refine ⟨?_, hfront⟩
    rw [← String.ofList_toList (s := s), hs]
    exact (Except.ok.inj h).symm
  · cases h

theorem plain_of_authority? {s a : String} (h : authority? s = .ok a) : Text.Plain a := by
  obtain ⟨rfl, ha⟩ := isAuthority_of_authority? h
  exact ha.plain

theorem authority?_of_parse {s a : String} {u : Uri} (h : parse s = .ok u)
    (ha : u.authority = some a) : authority? a = .ok a := by
  unfold parse at h
  split at h
  · cases h
  dsimp only at h
  split at h
  · cases h
  · cases h
    cases ha
  · obtain ⟨⟨path, query⟩, _, h⟩ := bind_ok h
    cases h
    cases ha
  · obtain ⟨b, hb, h⟩ := bind_ok h
    cases h
    cases ha
    obtain ⟨rfl, _⟩ := isAuthority_of_authority? hb
    exact hb
  · next hnil _ _ _ =>
    obtain ⟨scheme, _, h⟩ := bind_ok h
    cases scheme with
    | none =>
      obtain ⟨⟨front, rest⟩, hsplit, h⟩ := bind_ok h
      obtain ⟨hfront, hcs⟩ := isAuthority_of_splitAuthority hsplit
      dsimp only at h
      split at h
      · next hrest =>
        cases h
        cases ha
        refine authority?_ofList hfront fun hempty => hnil ?_
        rw [hcs, hempty, List.isEmpty_iff.1 hrest]
        rfl
      · cases h
    | some scheme =>
      obtain ⟨name, cs⟩ := scheme
      obtain ⟨⟨front, rest⟩, hsplit, h⟩ := bind_ok h
      obtain ⟨hfront, _⟩ := isAuthority_of_splitAuthority hsplit
      dsimp only at h
      split at h
      · cases h
      next hne =>
      obtain ⟨⟨path, query⟩, _, h⟩ := bind_ok h
      cases h
      cases ha
      exact authority?_ofList hfront fun hempty => hne (List.isEmpty_iff.2 hempty)

end ReverseProxy.Http.Uri

namespace ReverseProxy.Request

theorem Head.plain_host {r : Head}
    (hread : ∀ a, r.uri.authority = some a → Http.Uri.authority? a = .ok a) :
    Text.Plain r.host := by
  unfold Head.host
  cases ht : r.headers.text? "host" with
  | some s =>
    obtain ⟨v, _, hv⟩ := Option.bind_eq_some_iff.1 ht
    exact (Bytes.text?_eq_some_iff.1 hv).1
  | none =>
    cases ha : r.uri.authority with
    | some a => exact Http.Uri.plain_of_authority? (hread a ha)
    | none => nofun

end ReverseProxy.Request
