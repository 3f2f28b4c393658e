import Mathlib.Data.List.Nodup
import Mathlib.Data.List.Perm.Basic

set_option autoImplicit false

namespace ReverseProxy.Keyed

variable {α κ : Type} [DecidableEq κ] (key : α → κ) {l : List α} {a : α} {k k' : κ}

theorem filter_of_notMem (h : k ∉ l.map key) : l.filter (key · != k) = l := by
  rw [List.filter_eq_self]
  intro b hb
  have hne : key b ≠ k := fun heq => h (heq ▸ List.mem_map_of_mem hb)
  exact bne_iff_ne.2 hne

theorem notMem_filter (k : κ) : k ∉ (l.filter (key · != k)).map key := by
  intro hmem
  obtain ⟨b, hb, heq⟩ := List.mem_map.1 hmem
  have hne : (key b != k) = true := (List.mem_filter.1 hb).2
  exact bne_iff_ne.1 hne heq

theorem perm_cons_filter (hd : (l.map key).Nodup) (ha : a ∈ l) :
    l.Perm (a :: l.filter (key · != key a)) := by
  obtain ⟨before, after, rfl⟩ := List.append_of_mem ha
  have hperm : (before ++ a :: after).Perm (a :: (before ++ after)) := List.perm_middle
  have hd' := (hperm.map key).nodup_iff.1 hd
  rw [List.map_cons, List.nodup_cons] at hd'
  have hrest : (before ++ a :: after).filter (key · != key a) = before ++ after := by
    rw [List.filter_append, List.filter_cons_of_neg (by simp), ← List.filter_append,
      filter_of_notMem key hd'.1]
  rw [hrest]
  exact hperm

theorem find?_eq_some_iff (hd : (l.map key).Nodup) :
    l.find? (key · == k) = some a ↔ a ∈ l ∧ key a = k := by
  constructor
  · intro h
    exact ⟨List.mem_of_find?_eq_some h, by simpa using List.find?_some h⟩
  · rintro ⟨ha, rfl⟩
    cases hf : l.find? (key · == key a) with
    | none =>
      have hne := List.find?_eq_none.1 hf a ha
      simp at hne
    | some b =>
      have hb : key b = key a := by simpa using List.find?_some hf
      rw [List.inj_on_of_nodup_map hd (List.mem_of_find?_eq_some hf) ha hb]

theorem find?_perm {l' : List α} (hd : (l.map key).Nodup) (h : l.Perm l') :
    l.find? (key · == k) = l'.find? (key · == k) := by
  have hd' : (l'.map key).Nodup := (h.map key).nodup_iff.1 hd
  refine Option.ext fun a => ?_
  rw [find?_eq_some_iff key hd, find?_eq_some_iff key hd', h.mem_iff]

theorem find?_eq_none_iff {key : α → κ} : l.find? (key · == k) = none ↔ k ∉ l.map key := by
  simp [List.find?_eq_none]

theorem find?_filter (h : k' ≠ k) :
    (l.filter (key · != k)).find? (key · == k') = l.find? (key · == k') := by
  induction l with
  | nil => rfl
  | cons b l ih =>
    by_cases hb : key b = k
    · have hne : ¬key b = k' := fun heq => h (heq.symm.trans hb)
      rw [List.filter_cons_of_neg (by simpa using hb), ih,
        List.find?_cons_of_neg (by simpa using hne)]
    · rw [List.filter_cons_of_pos (by simpa using hb), List.find?_cons, List.find?_cons, ih]

end ReverseProxy.Keyed
