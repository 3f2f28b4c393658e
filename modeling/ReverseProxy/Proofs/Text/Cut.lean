import ReverseProxy.Text

set_option autoImplicit false

namespace ReverseProxy

namespace Chars

theorem cutLast?_eq_some_iff (sep : Char) (cs a b : List Char) :
    cutLast? sep cs = some (a, b) ↔ cs = a ++ sep :: b ∧ sep ∉ b := by
  have hcut := cutFirst?_eq_some_iff sep cs.reverse b.reverse a.reverse
  have hreverse : cs.reverse = b.reverse ++ sep :: a.reverse ↔ cs = a ++ sep :: b := by
    rw [← List.reverse_inj]
    simp
  rw [hreverse, List.mem_reverse] at hcut
  rw [← hcut, cutLast?, Option.map_eq_some_iff]
  constructor
  · rintro ⟨⟨x, y⟩, h, heq⟩
    simp only [Prod.mk.injEq] at heq
    rw [h, ← heq.1, ← heq.2, List.reverse_reverse, List.reverse_reverse]
  · intro h
    exact ⟨_, h, by simp⟩

theorem cutLast?_eq_none_iff (sep : Char) (cs : List Char) :
    cutLast? sep cs = none ↔ sep ∉ cs := by
  rw [cutLast?, Option.map_eq_none_iff, cutFirst?_eq_none_iff, List.mem_reverse]

theorem stripEnd?_eq_some_iff (p cs r : List Char) :
    stripEnd? p cs = some r ↔ cs = r ++ p := by
  have hreverse : cs.reverse = p.reverse ++ r.reverse ↔ cs = r ++ p := by
    rw [← List.reverse_append, List.reverse_inj]
  rw [← hreverse, ← stripStart?_eq_some_iff, stripEnd?, Option.map_eq_some_iff]
  constructor
  · rintro ⟨x, hx, rfl⟩
    rw [hx, List.reverse_reverse]
  · intro h
    exact ⟨_, h, List.reverse_reverse r⟩

theorem exists_of_append_eq {sep : Char} {front tail a b : List Char}
    (h : front ++ tail = a ++ sep :: b) (hsep : sep ∉ tail) :
    ∃ back, front = a ++ sep :: back ∧ b = back ++ tail := by
  rcases List.append_eq_append_iff.1 h with ⟨r, _, rfl⟩ | ⟨r, rfl, hr⟩
  · exact absurd (List.mem_append_right r List.mem_cons_self) hsep
  · cases r with
    | nil =>
      rw [List.nil_append] at hr
      exact absurd (hr ▸ List.mem_cons_self) hsep
    | cons c back =>
      obtain ⟨rfl, rfl⟩ := List.cons.inj hr
      exact ⟨back, rfl, rfl⟩

theorem takeWhile_append {p : Char → Bool} {a b : List Char} (ha : ∀ c ∈ a, p c = true)
    (hb : ∀ c, b.head? = some c → p c = false) : (a ++ b).takeWhile p = a := by
  rw [List.takeWhile_append_of_pos ha]
  cases b with
  | nil => exact List.append_nil a
  | cons c b =>
    rw [List.takeWhile_cons_of_neg (Bool.eq_false_iff.1 (hb c rfl)), List.append_nil]

theorem length_splitOn (sep : Char) (cs : List Char) :
    (splitOn sep cs).length = cs.count sep + 1 := by
  induction cs with
  | nil => rfl
  | cons c cs ih =>
    unfold splitOn
    cases hpieces : splitOn sep cs with
    | nil => exact absurd hpieces (splitOn_ne_nil sep cs)
    | cons piece pieces =>
      rw [hpieces, List.length_cons] at ih
      by_cases hc : c = sep
      · simp [hc, ih]
      · simp [hc, ih]

theorem notMem_of_mem_splitOn {sep : Char} {cs piece : List Char} (h : piece ∈ splitOn sep cs) :
    sep ∉ piece := by
  induction cs generalizing piece with
  | nil =>
    rw [List.mem_singleton.1 h]
    exact List.not_mem_nil
  | cons c cs ih =>
    unfold splitOn at h
    cases hpieces : splitOn sep cs with
    | nil => exact absurd hpieces (splitOn_ne_nil sep cs)
    | cons first rest =>
      rw [hpieces] at h ih
      dsimp only at h
      split at h
      · rcases List.mem_cons.1 h with rfl | h
        · exact List.not_mem_nil
        · exact ih h
      · next hc =>
        rcases List.mem_cons.1 h with rfl | h
        · rw [List.mem_cons, not_or]
          exact ⟨fun heq => hc heq.symm, ih List.mem_cons_self⟩
        · exact ih (List.mem_cons_of_mem _ h)

theorem splitOn_of_notMem {sep : Char} {cs : List Char} (h : sep ∉ cs) : splitOn sep cs = [cs] := by
  induction cs with
  | nil => rfl
  | cons c cs ih =>
    rw [List.mem_cons, not_or] at h
    unfold splitOn
    rw [ih h.2]
    exact if_neg fun heq => h.1 heq.symm

theorem splitOn_append (sep : Char) (a b : List Char) :
    splitOn sep (a ++ sep :: b) = splitOn sep a ++ splitOn sep b := by
  induction a with
  | nil =>
    rw [List.nil_append, splitOn, splitOn]
    cases hpieces : splitOn sep b with
    | nil => exact absurd hpieces (splitOn_ne_nil sep b)
    | cons piece pieces => exact if_pos rfl
  | cons c a ih =>
    rw [List.cons_append, splitOn, splitOn, ih]
    cases hpieces : splitOn sep a with
    | nil => exact absurd hpieces (splitOn_ne_nil sep a)
    | cons piece pieces =>
      dsimp only [List.cons_append]
      split <;> rfl

theorem exists_mem_splitOn {sep c : Char} {cs : List Char} (hc : c ∈ cs) (hne : c ≠ sep) :
    ∃ piece ∈ splitOn sep cs, c ∈ piece := by
  induction cs with
  | nil => cases hc
  | cons d cs ih =>
    unfold splitOn
    cases hpieces : splitOn sep cs with
    | nil => exact absurd hpieces (splitOn_ne_nil sep cs)
    | cons piece pieces =>
      rw [hpieces] at ih
      by_cases hd : d = sep
      · obtain ⟨p, hp, hcp⟩ := ih ((List.mem_cons.1 hc).resolve_left (hd ▸ hne))
        exact ⟨p, by simpa [hd] using .inr (List.mem_cons.1 hp), hcp⟩
      · rcases List.mem_cons.1 hc with rfl | hc
        · exact ⟨c :: piece, by simp [hd], List.mem_cons_self⟩
        · obtain ⟨p, hp, hcp⟩ := ih hc
          rcases List.mem_cons.1 hp with rfl | hp
          · exact ⟨d :: p, by simp [hd], List.mem_cons_of_mem d hcp⟩
          · exact ⟨p, by simp [hd, hp], hcp⟩

end Chars

namespace Text

theorem stripStart?_eq_some_iff (p s r : String) : stripStart? p s = some r ↔ s = p ++ r := by
  rw [stripStart?, Option.map_eq_some_iff, ← String.toList_inj, String.toList_append,
    ← Chars.stripStart?_eq_some_iff]
  constructor
  · rintro ⟨cs, hcs, rfl⟩
    rw [hcs, String.toList_ofList]
  · intro h
    exact ⟨_, h, String.ofList_toList⟩

theorem stripEnd?_eq_some_iff (p s r : String) : stripEnd? p s = some r ↔ s = r ++ p := by
  rw [stripEnd?, Option.map_eq_some_iff, ← String.toList_inj, String.toList_append,
    ← Chars.stripEnd?_eq_some_iff]
  constructor
  · rintro ⟨cs, hcs, rfl⟩
    rw [hcs, String.toList_ofList]
  · intro h
    exact ⟨_, h, String.ofList_toList⟩

theorem cutLast?_eq_some_iff (sep : Char) (s a b : String) : cutLast? sep s = some (a, b) ↔
    s.toList = a.toList ++ sep :: b.toList ∧ sep ∉ b.toList := by
  rw [← Chars.cutLast?_eq_some_iff, cutLast?, Option.map_eq_some_iff]
  constructor
  · rintro ⟨⟨x, y⟩, h, heq⟩
    simp only [Prod.mk.injEq] at heq
    rw [h, ← heq.1, ← heq.2, String.toList_ofList, String.toList_ofList]
  · intro h
    exact ⟨_, h, by simp⟩

theorem hasEnd_iff (p s : String) : hasEnd p s = true ↔ ∃ front, s = front ++ p := by
  have hsome : hasEnd p s = (stripEnd? p s).isSome := by
    rw [hasEnd, stripEnd?, Option.isSome_map]
  simp only [hsome, Option.isSome_iff_exists, stripEnd?_eq_some_iff]

end Text

end ReverseProxy
