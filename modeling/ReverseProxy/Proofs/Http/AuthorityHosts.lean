import ReverseProxy.Proofs.Http.Authority
import ReverseProxy.Proofs.Net.Literals
import ReverseProxy.Proofs.Text.Decimal

set_option autoImplicit false

/-!
# Hosts in authorities

Which hosts can be written into an authority, with a port behind them, so that the authority names
just this host. A host with a colon is put in brackets for it.
-/
namespace ReverseProxy.Http.Uri

def behindUser (cs : List Char) : List Char := ((Chars.cutLast? '@' cs).map Prod.snd).getD cs

def hostOf (cs : List Char) : List Char :=
  if (behindUser cs).head? = some '[' then (behindUser cs).tail.takeWhile (· != ']')
  else (behindUser cs).takeWhile (· != ':')

def portOf? (cs : List Char) : Option Nat :=
  (Chars.cutLast? ':' cs).bind fun (_, port) => Chars.unsigned? 65536 port

def enclosed (host : List Char) : List Char :=
  if ':' ∈ host then '[' :: (host ++ [']']) else host

def written (host port : List Char) : List Char := enclosed host ++ ':' :: port

def authorityMarks : List Char := [':', '@', '[', ']']

def isHostChar (c : Char) : Bool := isAuthorityChar c && !authorityMarks.contains c

/-- The hosts that an authority can name. -/
inductive Addressable : List Char → Prop where
  | name {cs : List Char} : cs ≠ [] → (∀ c ∈ cs, isHostChar c = true) → Addressable cs
  | bracketed {a b c : List Char} : a ≠ [] → (∀ x ∈ a, isHostChar x = true) →
      (∀ x ∈ b, isHostChar x = true ∨ x = '%') → (∀ x ∈ c, isHostChar x = true) →
      Addressable (a ++ '[' :: (b ++ ']' :: c))
  | address {cs : List Char} : ':' ∈ cs → cs.count ':' ≤ 8 →
      (∀ x ∈ cs, isHostChar x = true ∨ x = '%' ∨ x = ':') → Addressable cs

section
variable {cs : List Char} {s t : AuthorityScan} {c : Char}

theorem notMark_of_isHostChar (hc : isHostChar c = true ∨ c = '%' ∨ c = ':') :
    c ∉ ['[', ']', '@'] ∧ endsAuthority c = false := by
  rw [← Bool.not_eq_true]
  constructor
  · intro hmem
    simp only [List.mem_cons, List.not_mem_nil, or_false] at hmem
    rcases hmem with rfl | rfl | rfl <;> exact absurd hc (by decide)
  · intro hend
    simp only [endsAuthority, Bool.or_eq_true, beq_iff_eq, or_assoc] at hend
    rcases hend with rfl | rfl | rfl <;> exact absurd hc (by decide)

theorem exists_bracket (hat : '@' ∉ cs) : (∀ x ∈ cs, x ∉ ['[', ']', '@']) ∨
    ∃ a d r, cs = a ++ d :: r ∧ (∀ x ∈ a, x ∉ ['[', ']', '@']) ∧ (d = '[' ∨ d = ']') := by
  induction cs with
  | nil => exact .inl nofun
  | cons c cs ih =>
    simp only [List.mem_cons, not_or] at hat
    by_cases hc : c = '[' ∨ c = ']'
    · exact .inr ⟨[], c, cs, rfl, nofun, hc⟩
    have hcother : c ∉ ['[', ']', '@'] := by
      simpa [Ne.symm hat.1] using hc
    rcases ih hat.2 with hcs | ⟨a, d, r, rfl, ha, hd⟩
    · exact .inl (List.forall_mem_cons.2 ⟨hcother, hcs⟩)
    · exact .inr ⟨c :: a, d, r, rfl, List.forall_mem_cons.2 ⟨hcother, ha⟩, hd⟩

namespace AuthorityScan

def past (s : AuthorityScan) (cs : List Char) : AuthorityScan :=
  { s with colons := s.colons + cs.count ':', percent := s.percent || cs.contains '%' }

theorem past_cons (s : AuthorityScan) (c : Char) (cs : List Char) :
    (s.past [c]).past cs = s.past (c :: cs) := by
  simp only [past, List.count_cons, List.contains_cons, List.count_nil, List.contains_nil,
    Bool.or_false, Bool.or_assoc, Nat.zero_add, Nat.add_assoc, Nat.add_comm (cs.count ':')]

theorem colons_le_past (s : AuthorityScan) (cs : List Char) : s.colons ≤ (s.past cs).colons :=
  Nat.le_add_right _ _

theorem step?_eq_ok_iff (hc : c ∉ ['[', ']', '@']) (hs : s.colons ≤ 8) : s.step? c = .ok t ↔
    (isHostChar c = true ∨ c = '%' ∨ c = ':') ∧ (s.past [c]).colons ≤ 8 ∧ t = s.past [c] := by
  simp only [List.mem_cons, List.not_mem_nil, or_false, not_or] at hc
  obtain ⟨hopen, hclose, hat⟩ := hc
  unfold step?
  by_cases hcolon : c = ':'
  · subst hcolon
    have hpast : s.past [':'] = { s with colons := s.colons + 1 } := by simp [past]
    rw [if_pos rfl, hpast]
    by_cases hfull : 8 ≤ s.colons
    · rw [if_pos hfull]
      exact iff_of_false nofun fun ⟨_, hroom, _⟩ =>
        absurd hroom (Nat.not_le.2 (Nat.lt_succ_of_le hfull))
    · rw [if_neg hfull]
      have hroom : s.colons + 1 ≤ 8 := by omega
      simp only [Except.ok.injEq, hroom, or_true, true_and, eq_comm (b := t)]
  rw [if_neg hcolon, if_neg hopen, if_neg hclose, if_neg hat]
  by_cases hpercent : c = '%'
  · subst hpercent
    simp [past, hs, eq_comm (b := t)]
  have hhost : isHostChar c = isAuthorityChar c := by
    simp [isHostChar, authorityMarks, hcolon, hat, hopen, hclose]
  have hsame : s.past [c] = s := by
    simp [past, hcolon, Ne.symm hpercent]
  rw [if_neg hpercent, hhost, hsame]
  by_cases hauthority : isAuthorityChar c = true
  · simp [hauthority, hs, eq_comm (b := t)]
  · simp [hauthority, hcolon, hpercent]

theorem foldlM_eq_ok_iff (hcs : ∀ c ∈ cs, c ∉ ['[', ']', '@']) (hs : s.colons ≤ 8) :
    cs.foldlM step? s = .ok t ↔ (∀ c ∈ cs, isHostChar c = true ∨ c = '%' ∨ c = ':') ∧
      (s.past cs).colons ≤ 8 ∧ t = s.past cs := by
  induction cs generalizing s with
  | nil => simp [past, hs, pure, Except.pure, eq_comm (b := t)]
  | cons c cs ih =>
    have hrest : ∀ d ∈ cs, d ∉ ['[', ']', '@'] := fun d hd => hcs d (List.mem_cons_of_mem c hd)
    have hone : (∃ u, s.step? c = .ok u ∧ cs.foldlM step? u = .ok t) ↔
        (isHostChar c = true ∨ c = '%' ∨ c = ':') ∧ (s.past [c]).colons ≤ 8 ∧
          cs.foldlM step? (s.past [c]) = .ok t := by
      simp only [step?_eq_ok_iff (hcs c List.mem_cons_self) hs, and_assoc, exists_and_left,
        exists_eq_left]
    have hroom : (s.past (c :: cs)).colons ≤ 8 → (s.past [c]).colons ≤ 8 := by
      rw [← past_cons]
      exact Nat.le_trans (colons_le_past _ cs)
    rw [List.foldlM_cons, bind_ok_iff, hone, List.forall_mem_cons, and_assoc]
    refine and_congr_right fun _ =>
      ⟨fun ⟨hone, h⟩ => ?_, fun ⟨hall, hmany, h⟩ => ⟨hroom hmany, ?_⟩⟩
    · rwa [ih hrest hone, past_cons] at h
    · rw [ih hrest (hroom hmany), past_cons]
      exact ⟨hall, hmany, h⟩

theorem step?_open : s.step? '[' = .ok t ↔
    s.percent = false ∧ s.opened = false ∧ t = { s with opened := true } := by
  cases hpercent : s.percent <;> cases hopen : s.opened <;>
    simp [step?, hpercent, hopen, eq_comm (b := t)]

theorem step?_close : s.step? ']' = .ok t ↔ s.opened = true ∧ s.closed = false ∧
    t = { s with closed := true, colons := 0, percent := false } := by
  cases hopen : s.opened <;> cases hclose : s.closed <;>
    simp [step?, hopen, hclose, eq_comm (b := t)]

theorem foldlM_append_cons {a r : List Char} (ha : ∀ x ∈ a, x ∉ ['[', ']', '@'])
    (hs : s.colons ≤ 8) : (a ++ c :: r).foldlM step? s = .ok t ↔
      (∀ x ∈ a, isHostChar x = true ∨ x = '%' ∨ x = ':') ∧ (s.past a).colons ≤ 8 ∧
        ∃ u, (s.past a).step? c = .ok u ∧ r.foldlM step? u = .ok t := by
  simp only [List.foldlM_append, List.foldlM_cons, bind_ok_iff, foldlM_eq_ok_iff ha hs, and_assoc,
    exists_and_left, exists_eq_left]

theorem foldlM_of_chars (hcs : ∀ x ∈ cs, isHostChar x = true ∨ x = '%' ∨ x = ':')
    (hroom : (s.past cs).colons ≤ 8) : cs.foldlM step? s = .ok (s.past cs) :=
  (foldlM_eq_ok_iff (fun x hx => (notMark_of_isHostChar (hcs x hx)).1)
    (Nat.le_trans (colons_le_past s cs) hroom)).2 ⟨hcs, hroom, rfl⟩

theorem foldlM_append_of_chars {a r : List Char}
    (ha : ∀ x ∈ a, isHostChar x = true ∨ x = '%' ∨ x = ':') (hroom : (s.past a).colons ≤ 8)
    (hc : (s.past a).step? c = .ok t) : (a ++ c :: r).foldlM step? s = r.foldlM step? t := by
  rw [List.foldlM_append, foldlM_of_chars ha hroom]
  change (c :: r).foldlM step? (s.past a) = _
  rw [List.foldlM_cons, hc]
  rfl

theorem foldlM_closed (h : cs.foldlM step? s = .ok t) (hat : '@' ∉ cs) (hopen : s.opened = true)
    (hclose : s.closed = true) (hs : s.colons ≤ 8) :
    (∀ x ∈ cs, isHostChar x = true ∨ x = '%' ∨ x = ':') ∧ t = s.past cs := by
  rcases exists_bracket hat with hcs | ⟨a, d, r, rfl, ha, hd⟩
  · obtain ⟨hchars, _, ht⟩ := (foldlM_eq_ok_iff hcs hs).1 h
    exact ⟨hchars, ht⟩
  · obtain ⟨_, _, u, hu, _⟩ := (foldlM_append_cons ha hs).1 h
    rcases hd with rfl | rfl
    · cases (step?_open.1 hu).2.1.symm.trans hopen
    · cases (step?_close.1 hu).2.1.symm.trans hclose

theorem foldlM_opened (h : cs.foldlM step? s = .ok t) (hat : '@' ∉ cs) (hopen : s.opened = true)
    (hclose : s.closed = false) (hs : s.colons ≤ 8) (hend : t.opened = t.closed) :
    ∃ b c, cs = b ++ ']' :: c ∧ (∀ x ∈ b, isHostChar x = true ∨ x = '%' ∨ x = ':') ∧
      (s.past b).colons ≤ 8 ∧ (∀ x ∈ c, isHostChar x = true ∨ x = '%' ∨ x = ':') ∧
      t = past ⟨0, true, true, false⟩ c := by
  rcases exists_bracket hat with hcs | ⟨b, d, c, rfl, hb, hd⟩
  · obtain ⟨_, _, rfl⟩ := (foldlM_eq_ok_iff hcs hs).1 h
    cases hopen.symm.trans (hend.trans hclose)
  · obtain ⟨hchars, hroom, u, hu, h⟩ := (foldlM_append_cons hb hs).1 h
    rcases hd with rfl | rfl
    · cases (step?_open.1 hu).2.1.symm.trans hopen
    · obtain ⟨_, _, rfl⟩ := step?_close.1 hu
      have hc : '@' ∉ c := hat ∘ List.mem_append_right b ∘ List.mem_cons_of_mem ']'
      obtain ⟨hcchars, rfl⟩ := foldlM_closed h hc hopen rfl (Nat.zero_le 8)
      refine ⟨b, c, rfl, hchars, hroom, hcchars, ?_⟩
      change past ⟨0, s.opened, true, false⟩ c = _
      rw [hopen]

end AuthorityScan

theorem percentless_iff : (∀ x ∈ cs, isHostChar x = true ∨ x = ':') ↔
    (∀ x ∈ cs, isHostChar x = true ∨ x = '%' ∨ x = ':') ∧ cs.contains '%' = false := by
  constructor
  · intro h
    refine ⟨fun x hx => (h x hx).imp_right .inr, ?_⟩
    rw [← Bool.not_eq_true, List.contains_iff_mem]
    intro hmem
    rcases h _ hmem with hhost | hcolon
    · revert hhost
      decide
    · cases hcolon
  · rintro ⟨h, hpercent⟩ x hx
    rcases h x hx with hhost | rfl | hcolon
    · exact .inl hhost
    · rw [← Bool.not_eq_true, List.contains_iff_mem] at hpercent
      exact absurd hx hpercent
    · exact .inr hcolon

theorem isAuthority_of_chars (hcs : ∀ x ∈ cs, isHostChar x = true ∨ x = ':')
    (hcolons : cs.count ':' ≤ 1) : IsAuthority cs := by
  obtain ⟨hchars, hpercent⟩ := percentless_iff.1 hcs
  refine ⟨fun x hx => (notMark_of_isHostChar (hchars x hx)).2, _,
    AuthorityScan.foldlM_of_chars hchars ?_, rfl, ?_, fun h => ?_, ?_⟩
  · simp only [AuthorityScan.past]
    omega
  · simpa only [AuthorityScan.past, Nat.zero_add] using hcolons
  · exact absurd (hchars _ (List.mem_of_getLast? h)) (by decide)
  · simpa only [AuthorityScan.past, Bool.false_or] using hpercent

section
variable {a b c : List Char} (hat : '@' ∉ a ++ '[' :: (b ++ ']' :: c))

include hat

theorem isAuthority_of_brackets (ha : ∀ x ∈ a, isHostChar x = true ∨ x = ':')
    (hb : ∀ x ∈ b, isHostChar x = true ∨ x = '%' ∨ x = ':') (hroom : a.count ':' + b.count ':' ≤ 8)
    (hc : ∀ x ∈ c, isHostChar x = true ∨ x = ':') (hcolons : c.count ':' ≤ 1) :
    IsAuthority (a ++ '[' :: (b ++ ']' :: c)) := by
  obtain ⟨hachars, hapercent⟩ := percentless_iff.1 ha
  obtain ⟨hcchars, hcpercent⟩ := percentless_iff.1 hc
  let inside : AuthorityScan := { AuthorityScan.past {} a with opened := true }
  let behind : AuthorityScan := ⟨0, true, true, false⟩
  have hall : (a ++ '[' :: (b ++ ']' :: c)).foldlM AuthorityScan.step? {} =
      .ok (behind.past c) := calc
    _ = (b ++ ']' :: c).foldlM AuthorityScan.step? inside :=
      AuthorityScan.foldlM_append_of_chars hachars (by simp only [AuthorityScan.past]; omega)
        (AuthorityScan.step?_open.2 ⟨by rw [AuthorityScan.past, hapercent]; rfl, rfl, rfl⟩)
    _ = c.foldlM AuthorityScan.step? behind :=
      AuthorityScan.foldlM_append_of_chars hb
        (by simpa only [AuthorityScan.past, Nat.zero_add, inside] using hroom)
        (AuthorityScan.step?_close.2 ⟨rfl, rfl, rfl⟩)
    _ = .ok (behind.past c) :=
      AuthorityScan.foldlM_of_chars hcchars (by simp only [AuthorityScan.past, behind]; omega)
  have hends (d : List Char) (hd : ∀ x ∈ d, isHostChar x = true ∨ x = '%' ∨ x = ':') :
      ∀ x ∈ d, endsAuthority x = false := fun x hx => (notMark_of_isHostChar (hd x hx)).2
  refine ⟨?_, _, hall, rfl, ?_, fun h => hat (List.mem_of_getLast? h), ?_⟩
  · simp only [List.forall_mem_append, List.forall_mem_cons]
    exact ⟨hends a hachars, rfl, hends b hb, rfl, hends c hcchars⟩
  · simpa only [AuthorityScan.past, Nat.zero_add, behind] using hcolons
  · simpa only [AuthorityScan.past, Bool.false_or, behind] using hcpercent

end

/-- An authority without a user has one pair of brackets or none. -/
theorem isAuthority_iff (hat : '@' ∉ cs) : IsAuthority cs ↔
    ((∀ x ∈ cs, isHostChar x = true ∨ x = ':') ∧ cs.count ':' ≤ 1) ∨
      ∃ a b c, cs = a ++ '[' :: (b ++ ']' :: c) ∧
        (∀ x ∈ a, isHostChar x = true ∨ x = ':') ∧
        (∀ x ∈ b, isHostChar x = true ∨ x = '%' ∨ x = ':') ∧ a.count ':' + b.count ':' ≤ 8 ∧
        (∀ x ∈ c, isHostChar x = true ∨ x = ':') ∧ c.count ':' ≤ 1 := by
  constructor
  · rintro ⟨_, t, h, hclosed, hcolons, _, hpercent⟩
    rcases exists_bracket hat with hcs | ⟨a, d, r, rfl, ha, hd⟩
    · obtain ⟨hchars, _, rfl⟩ := (AuthorityScan.foldlM_eq_ok_iff hcs (Nat.zero_le 8)).1 h
      simp only [AuthorityScan.past, Bool.false_or, Nat.zero_add] at hpercent hcolons
      exact .inl ⟨percentless_iff.2 ⟨hchars, hpercent⟩, hcolons⟩
    right
    obtain ⟨hachars, haroom, u, hu, h⟩ :=
      (AuthorityScan.foldlM_append_cons ha (Nat.zero_le 8)).1 h
    rcases hd with rfl | rfl
    · obtain ⟨hapercent, _, rfl⟩ := AuthorityScan.step?_open.1 hu
      have hr : '@' ∉ r := hat ∘ List.mem_append_right a ∘ List.mem_cons_of_mem '['
      obtain ⟨b, c, rfl, hb, hroom, hc, rfl⟩ :=
        AuthorityScan.foldlM_opened h hr rfl rfl haroom hclosed
      simp only [AuthorityScan.past, Bool.false_or, Nat.zero_add] at hpercent hcolons hapercent
      simp only [AuthorityScan.past, Nat.zero_add] at hroom
      exact ⟨a, b, c, rfl, percentless_iff.2 ⟨hachars, hapercent⟩, hb, hroom,
        percentless_iff.2 ⟨hc, hpercent⟩, hcolons⟩
    · cases (AuthorityScan.step?_close.1 hu).1
  · rintro (⟨hcs, hcolons⟩ | ⟨a, b, c, rfl, ha, hb, hroom, hc, hcolons⟩)
    · exact isAuthority_of_chars hcs hcolons
    · exact isAuthority_of_brackets hat ha hb hroom hc hcolons

end

section
variable {cs a b c : List Char}

theorem at_notMem_hostOf (cs : List Char) : '@' ∉ hostOf cs := by
  have hbehind : '@' ∉ behindUser cs := by
    unfold behindUser
    cases hcut : Chars.cutLast? '@' cs with
    | none => exact (Chars.cutLast?_eq_none_iff '@' cs).1 hcut
    | some parts => exact ((Chars.cutLast?_eq_some_iff '@' cs _ _).1 hcut).2
  unfold hostOf
  split
  · exact fun hmem => hbehind (List.mem_of_mem_tail ((List.takeWhile_subset _) hmem))
  · exact fun hmem => hbehind ((List.takeWhile_subset _) hmem)

theorem hostOf_subset (cs : List Char) : hostOf cs ⊆ cs := by
  have hbehind : behindUser cs ⊆ cs := by
    unfold behindUser
    cases hcut : Chars.cutLast? '@' cs with
    | none => exact List.Subset.refl cs
    | some parts =>
      rw [((Chars.cutLast?_eq_some_iff '@' cs parts.1 parts.2).1 hcut).1]
      exact fun c hc => List.mem_append_right _ (List.mem_cons_of_mem _ hc)
  refine List.Subset.trans ?_ hbehind
  unfold hostOf
  split
  · exact List.Subset.trans (List.takeWhile_subset _) (List.tail_sublist _).subset
  · exact List.takeWhile_subset _

theorem behindUser_of_userless (hat : '@' ∉ cs) : behindUser cs = cs := by
  rw [behindUser, (Chars.cutLast?_eq_none_iff '@' cs).2 hat]
  rfl

theorem takeWhile_of_notMem {d : Char} (ha : d ∉ a) (hb : ∀ c, b.head? = some c → c = d) :
    (a ++ b).takeWhile (· != d) = a :=
  Chars.takeWhile_append (fun _ hx => bne_iff_ne.2 fun heq => ha (heq ▸ hx))
    fun c hc => bne_eq_false_iff_eq.2 (hb c hc)

theorem hostOf_brackets (hat : '@' ∉ '[' :: (b ++ ']' :: c)) (hb : ']' ∉ b) :
    hostOf ('[' :: (b ++ ']' :: c)) = b := by
  rw [hostOf, behindUser_of_userless hat, List.head?_cons, if_pos rfl, List.tail_cons,
    takeWhile_of_notMem hb (by simp)]

theorem hostOf_colonless (hat : '@' ∉ a ++ b) (ha : ':' ∉ a) (hhead : a.head? ≠ some '[')
    (hb : ∀ c, b.head? = some c → c = ':') : hostOf (a ++ b) = a := by
  have hhead' : (a ++ b).head? ≠ some '[' := by
    cases a with
    | nil => exact fun h => absurd (hb _ h) (by decide)
    | cons d a => exact hhead
  rw [hostOf, behindUser_of_userless hat, if_neg hhead', takeWhile_of_notMem ha hb]

end

section
variable {host : List Char}

theorem chars_of_brackets {a b c : List Char} (ha : ∀ x ∈ a, isHostChar x = true)
    (hb : ∀ x ∈ b, isHostChar x = true ∨ x = '%') (hc : ∀ x ∈ c, isHostChar x = true) :
    ∀ x ∈ a ++ '[' :: (b ++ ']' :: c), isHostChar x = true ∨ x ∈ ['%', '[', ']'] := by
  simp only [List.forall_mem_append, List.forall_mem_cons]
  exact ⟨fun x hx => .inl (ha x hx), .inr (by decide),
    fun x hx => (hb x hx).imp_right (by rintro rfl; decide), .inr (by decide),
    fun x hx => .inl (hc x hx)⟩

theorem Addressable.at_notMem (h : Addressable host) : '@' ∉ host := by
  intro hat
  cases h with
  | name _ hchars => exact absurd (hchars _ hat) (by decide)
  | bracketed _ ha hb hc => exact absurd (chars_of_brackets ha hb hc _ hat) (by decide)
  | address _ _ hchars => exact absurd (hchars _ hat) (by decide)

theorem Addressable.ne_nil (h : Addressable host) : host ≠ [] := by
  cases h with
  | name hne _ => exact hne
  | bracketed _ _ _ _ => exact List.append_ne_nil_of_right_ne_nil _ (List.cons_ne_nil _ _)
  | address hcolon _ _ => exact List.ne_nil_of_mem hcolon

theorem addressable_of_colon (hcolon : ':' ∈ host) : Addressable host ↔
    (∀ x ∈ host, isHostChar x = true ∨ x = '%' ∨ x = ':') ∧ host.count ':' ≤ 8 := by
  refine ⟨fun h => ?_, fun ⟨hchars, hroom⟩ => .address hcolon hroom hchars⟩
  cases h with
  | name _ hchars => exact absurd (hchars _ hcolon) (by decide)
  | bracketed _ ha hb hc => exact absurd (chars_of_brackets ha hb hc _ hcolon) (by decide)
  | address _ hroom hchars => exact ⟨hchars, hroom⟩

theorem addressable_of_colonless (hcolon : ':' ∉ host) : Addressable host ↔
    (host ≠ [] ∧ ∀ x ∈ host, isHostChar x = true) ∨
      ∃ a b c, host = a ++ '[' :: (b ++ ']' :: c) ∧ a ≠ [] ∧ (∀ x ∈ a, isHostChar x = true) ∧
        (∀ x ∈ b, isHostChar x = true ∨ x = '%') ∧ ∀ x ∈ c, isHostChar x = true := by
  constructor
  · intro h
    cases h with
    | name hne hchars => exact .inl ⟨hne, hchars⟩
    | bracketed hane ha hb hc => exact .inr ⟨_, _, _, rfl, hane, ha, hb, hc⟩
    | address hmem _ _ => exact absurd hmem hcolon
  · rintro (⟨hne, hchars⟩ | ⟨a, b, c, rfl, hane, ha, hb, hc⟩)
    · exact .name hne hchars
    · exact .bracketed hane ha hb hc

end

theorem isHostChar_of_isAlphanum {c : Char} (hc : c.isAlphanum = true) : isHostChar c = true := by
  have hmark : authorityMarks.contains c = false := by
    rw [← Bool.not_eq_true, List.contains_iff_mem]
    intro hmem
    simp only [authorityMarks, List.mem_cons, List.not_mem_nil, or_false] at hmem
    rcases hmem with rfl | rfl | rfl | rfl <;> exact absurd hc (by decide)
  rw [isHostChar, hmark, isAuthorityChar, hc]
  rfl

theorem isHostChar_of_isDigit {c : Char} (hc : c.isDigit = true) : isHostChar c = true :=
  isHostChar_of_isAlphanum (by rw [Char.isAlphanum, hc, Bool.or_true])

def IsIpv6 (cs : List Char) : Prop :=
  ∃ address zone, cs = address ++ zone ∧ (Net.ipv6? address).isSome ∧
    (zone = [] ∨ ∃ name, zone = '%' :: name ∧ ∀ c ∈ name, isHostChar c = true)

theorem isHostChar_of_isAddressChar {c : Char} (hc : Net.isAddressChar c = true) :
    isHostChar c = true := by
  simp only [Net.isAddressChar, Bool.or_eq_true, beq_iff_eq] at hc
  rcases hc with hhex | rfl
  · refine isHostChar_of_isAlphanum ?_
    unfold Chars.hexDigit? at hhex
    split at hhex
    · next hdigit => rw [Char.isAlphanum, hdigit, Bool.or_true]
    split at hhex
    · next hlower =>
      have hlast : c ≤ 'z' := Char.le_trans hlower.2 (by decide)
      have hletter : c.isLower = true :=
        Bool.and_eq_true_iff.2 ⟨decide_eq_true hlower.1, decide_eq_true hlast⟩
      have halpha : c.isAlpha = true := Bool.or_eq_true_iff.2 (.inr hletter)
      exact Bool.or_eq_true_iff.2 (.inl halpha)
    split at hhex
    · next hupper =>
      have hlast : c ≤ 'Z' := Char.le_trans hupper.2 (by decide)
      have hletter : c.isUpper = true := decide_eq_true ⟨hupper.1, hlast⟩
      have halpha : c.isAlpha = true := Bool.or_eq_true_iff.2 (.inl hletter)
      exact Bool.or_eq_true_iff.2 (.inl halpha)
    · cases hhex
  · decide

theorem IsIpv6.colon {cs : List Char} (h : IsIpv6 cs) : ':' ∈ cs := by
  obtain ⟨address, zone, rfl, haddress, _⟩ := h
  obtain ⟨gs, hgs⟩ := Option.isSome_iff_exists.1 haddress
  exact List.mem_append_left zone (Net.of_ipv6? hgs).2.1

theorem IsIpv6.addressable {cs : List Char} (h : IsIpv6 cs) : Addressable cs := by
  refine (addressable_of_colon h.colon).2 ?_
  obtain ⟨address, zone, rfl, haddress, hzone⟩ := h
  obtain ⟨gs, hgs⟩ := Option.isSome_iff_exists.1 haddress
  obtain ⟨hchars, _, hcount⟩ := Net.of_ipv6? hgs
  have hzonechars : ∀ x ∈ zone, isHostChar x = true ∨ x = '%' := by
    rcases hzone with rfl | ⟨name, rfl, hname⟩
    · nofun
    · exact List.forall_mem_cons.2 ⟨.inr rfl, fun x hx => .inl (hname x hx)⟩
  have hcolon : ':' ∉ zone := fun hmem => absurd (hzonechars _ hmem) (by decide)
  constructor
  · exact List.forall_mem_append.2
      ⟨fun x hx => (hchars x hx).imp isHostChar_of_isAddressChar Or.inr,
        fun x hx => (hzonechars x hx).imp_right Or.inl⟩
  · rw [List.count_append, List.count_eq_zero_of_not_mem hcolon]
    exact hcount

theorem portOf?_written (host : List Char) {n : Nat} (hn : n < 65536) :
    portOf? (written host (Nat.toDigits 10 n)) = some n := by
  have hcolon : ':' ∉ Nat.toDigits 10 n := fun hmem =>
    absurd (Chars.isDigit_toDigits _ hmem) (by decide)
  rw [portOf?, written, (Chars.cutLast?_eq_some_iff ':' _ _ _).2 ⟨rfl, hcolon⟩, Option.bind_some]
  exact Chars.unsigned?_toDigits hn

theorem portOf?_enclosed (host : List Char) : portOf? (enclosed host) = none := by
  unfold portOf? enclosed
  split
  · next hcolon =>
    obtain ⟨⟨front, back⟩, hcut⟩ :=
      Option.ne_none_iff_exists'.1 (mt (Chars.cutLast?_eq_none_iff ':' host).1 (not_not.2 hcolon))
    obtain ⟨rfl, hback⟩ := (Chars.cutLast?_eq_some_iff _ _ _ _).1 hcut
    have hwhole : '[' :: (front ++ ':' :: back ++ [']']) =
        ('[' :: front) ++ ':' :: (back ++ [']']) := by simp
    have hlast : ':' ∉ back ++ [']'] := by simp [hback]
    rw [(Chars.cutLast?_eq_some_iff _ _ _ _).2 ⟨hwhole, hlast⟩, Option.bind_some,
      Option.eq_none_iff_forall_ne_some]
    intro n hn
    exact absurd (Chars.isDigit_of_unsigned? hn ']' (by simp)) (by decide)
  · next hcolon => rw [(Chars.cutLast?_eq_none_iff ':' host).2 hcolon, Option.bind_none]

def IsTail (cs : List Char) : Prop :=
  cs = [] ∨ ∃ port, cs = ':' :: port ∧ ∀ x ∈ port, isHostChar x = true

section
variable {host tail : List Char} (htail : IsTail tail)

include htail

theorem IsTail.chars : ∀ x ∈ tail, isHostChar x = true ∨ x = ':' := by
  rcases htail with rfl | ⟨port, rfl, hport⟩
  · nofun
  · exact List.forall_mem_cons.2 ⟨.inr rfl, fun x hx => .inl (hport x hx)⟩

theorem IsTail.notMem {c : Char} (hc : ¬(isHostChar c = true ∨ c = ':')) : c ∉ tail :=
  fun hmem => hc (htail.chars c hmem)

theorem IsTail.count_le : tail.count ':' ≤ 1 := by
  rcases htail with rfl | ⟨port, rfl, hport⟩
  · exact Nat.zero_le 1
  · have hcolon : ':' ∉ port := fun hmem => absurd (hport _ hmem) (by decide)
    exact Nat.le_of_eq (by rw [List.count_cons_self, List.count_eq_zero_of_not_mem hcolon])

theorem IsTail.head {c : Char} (hc : tail.head? = some c) : c = ':' := by
  rcases htail with rfl | ⟨port, rfl, _⟩
  · cases hc
  · exact (Option.some.inj hc).symm

theorem isAuthority_bracketed (hat : '@' ∉ host) :
    IsAuthority ('[' :: (host ++ ']' :: tail)) ↔
      (∀ x ∈ host, isHostChar x = true ∨ x = '%' ∨ x = ':') ∧ host.count ':' ≤ 8 := by
  have htailat : '@' ∉ tail := htail.notMem (by decide)
  rw [isAuthority_iff (by simp [hat, htailat])]
  constructor
  · rintro (⟨hcs, _⟩ | ⟨a, b, c, heq, ha, hb, hroom, hc, _⟩)
    · exact absurd (hcs '[' List.mem_cons_self) (by decide)
    cases a with
    | cons x a =>
      rw [← (List.cons.inj heq).1] at ha
      exact absurd (ha '[' List.mem_cons_self) (by decide)
    | nil =>
      -- No bracket is closed behind this one.
      have hcut := (Chars.cutLast?_eq_some_iff ']' (host ++ ']' :: tail) b c).2
        ⟨(List.cons.inj heq).2, fun hmem => absurd (hc _ hmem) (by decide)⟩
      rw [(Chars.cutLast?_eq_some_iff ']' _ host tail).2 ⟨rfl, htail.notMem (by decide)⟩] at hcut
      cases hcut
      exact ⟨hb, by simpa using hroom⟩
  · rintro ⟨hchars, hroom⟩
    exact .inr ⟨[], host, tail, rfl, nofun, hchars, by simpa using hroom, htail.chars,
      htail.count_le⟩

theorem isAuthority_colonless (hat : '@' ∉ host) (hcolon : ':' ∉ host) :
    IsAuthority (host ++ tail) ↔
      (∀ x ∈ host, isHostChar x = true) ∨
        ∃ a b c, host = a ++ '[' :: (b ++ ']' :: c) ∧ (∀ x ∈ a, isHostChar x = true) ∧
          (∀ x ∈ b, isHostChar x = true ∨ x = '%') ∧ ∀ x ∈ c, isHostChar x = true := by
  have htailat : '@' ∉ tail := htail.notMem (by decide)
  -- Nothing that stands in the host is a colon.
  have hdrop {d : List Char} {p : Char → Prop} (hd : d ⊆ host) (h : ∀ x ∈ d, p x ∨ x = ':') :
      ∀ x ∈ d, p x := fun x hx => (h x hx).resolve_right fun heq => hcolon (heq ▸ hd hx)
  rw [isAuthority_iff (by simp [hat, htailat])]
  constructor
  · rintro (⟨hcs, _⟩ | ⟨a, b, c, heq, ha, hb, _, hc, _⟩)
    · exact .inl (hdrop (List.Subset.refl host) (List.forall_mem_append.1 hcs).1)
    right
    obtain ⟨back, rfl, rfl⟩ :=
      Chars.exists_of_append_eq (heq.trans (List.append_assoc a ('[' :: b) _).symm)
        (htail.notMem (by decide))
    exact ⟨a, b, back, by simp, hdrop (fun _ hx => by simp [hx]) ha,
      hdrop (fun _ hx => by simp [hx]) fun x hx => or_assoc.2 (hb x hx),
      hdrop (fun _ hx => by simp [hx]) (List.forall_mem_append.1 hc).1⟩
  · rintro (hchars | ⟨a, b, c, rfl, ha, hb, hc⟩)
    · refine .inl ⟨List.forall_mem_append.2 ⟨fun x hx => .inl (hchars x hx), htail.chars⟩, ?_⟩
      rw [List.count_append, List.count_eq_zero_of_not_mem hcolon, Nat.zero_add]
      exact htail.count_le
    · refine .inr ⟨a, b, c ++ tail, by simp, fun x hx => .inl (ha x hx),
        fun x hx => (hb x hx).imp_right .inl, ?_, List.forall_mem_append.2
          ⟨fun x hx => .inl (hc x hx), htail.chars⟩, ?_⟩
      · rw [List.count_eq_zero_of_not_mem fun h => hcolon (by simp [h]),
          List.count_eq_zero_of_not_mem fun h => hcolon (by simp [h])]
        exact Nat.zero_le 8
      · rw [List.count_append, List.count_eq_zero_of_not_mem fun h => hcolon (by simp [h]),
          Nat.zero_add]
        exact htail.count_le

/-- The hosts that can be written down are those that an authority can name. -/
theorem addressable_iff_enclosed (hne : host ≠ []) :
    (IsAuthority (enclosed host ++ tail) ∧ hostOf (enclosed host ++ tail) = host) ↔
      Addressable host := by
  by_cases hat : '@' ∈ host
  · refine iff_of_false (fun ⟨_, hhost⟩ => ?_) fun h => h.at_notMem hat
    exact at_notMem_hostOf _ (hhost ▸ hat)
  have htailat : '@' ∉ tail := htail.notMem (by decide)
  by_cases hcolon : ':' ∈ host
  · have henclosed : enclosed host ++ tail = '[' :: (host ++ ']' :: tail) := by
      simp [enclosed, hcolon]
    rw [henclosed, isAuthority_bracketed htail hat, addressable_of_colon hcolon]
    refine and_iff_left_of_imp fun ⟨hchars, _⟩ => hostOf_brackets (by simp [hat, htailat]) ?_
    exact fun hmem => absurd (hchars _ hmem) (by decide)
  · have henclosed : enclosed host = host := if_neg hcolon
    have hall : '@' ∉ host ++ tail := by simp [hat, htailat]
    rw [henclosed, isAuthority_colonless htail hat hcolon, addressable_of_colonless hcolon]
    constructor
    · rintro ⟨hchars | ⟨a, b, c, rfl, ha, hb, hc⟩, hhost⟩
      · exact .inl ⟨hne, hchars⟩
      · refine .inr ⟨a, b, c, rfl, ?_, ha, hb, hc⟩
        -- A bracket in front would end the host at the other one.
        rintro rfl
        have hclose : ']' ∉ b := fun hmem => absurd (hb _ hmem) (by decide)
        rw [List.nil_append, List.cons_append, List.append_assoc, List.cons_append,
          hostOf_brackets (by simpa using hall) hclose] at hhost
        have hlength := congrArg List.length hhost
        simp at hlength
        omega
    · rintro (⟨_, hchars⟩ | ⟨a, b, c, rfl, hane, ha, hb, hc⟩)
      · refine ⟨.inl hchars, hostOf_colonless hall hcolon (fun hhead => ?_) fun c => htail.head⟩
        exact absurd (hchars _ (List.mem_of_head? hhead)) (by decide)
      · refine ⟨.inr ⟨a, b, c, rfl, ha, hb, hc⟩,
          hostOf_colonless hall hcolon (fun hhead => ?_) fun c => htail.head⟩
        rw [List.head?_append_of_ne_nil _ hane] at hhead
        exact absurd (ha _ (List.mem_of_head? hhead)) (by decide)

end

theorem addressable_iff {host port : List Char} (hport : ∀ x ∈ port, isHostChar x = true)
    (hne : host ≠ []) :
    (IsAuthority (written host port) ∧ hostOf (written host port) = host) ↔ Addressable host :=
  addressable_iff_enclosed (.inr ⟨port, rfl, hport⟩) hne

end ReverseProxy.Http.Uri
