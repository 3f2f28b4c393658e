import ReverseProxy.Cache.Store
import ReverseProxy.Proofs.Keyed

set_option autoImplicit false

namespace ReverseProxy.Cache
open Http.Date (Instant)

def Live.mark (l : Live) (now : Instant) : Live :=
  { l with entry := { l.entry with lastAccessMs := Http.Date.unixMillis now } }

namespace Store

def Distinct (s : Store) : Prop := (s.live.map Live.key).Nodup

theorem find?_eq_some_iff {s : Store} (hd : s.Distinct) {key : Key} {l : Live} :
    s.find? key = some l ↔ l ∈ s.live ∧ l.key = key := Keyed.find?_eq_some_iff Live.key hd

theorem find?_eq_none_iff {s : Store} {key : Key} :
    s.find? key = none ↔ ∀ l ∈ s.live, l.key ≠ key := by
  simp [find?, List.find?_eq_none]

def drop (s : Store) (l : Live) : Store :=
  { s with live := s.live.filter (·.key != l.key), stats := s.stats.release l.entry }

theorem Distinct.drop {s : Store} (hd : s.Distinct) (l : Live) : (s.drop l).Distinct :=
  (List.filter_sublist.map Live.key).nodup hd

theorem find?_isEntry {s : Store} (hd : s.Distinct) {l : Live} (hl : l ∈ s.live) :
    s.live.find? (isEntry l.key l.serial) = some l := by
  cases h : s.live.find? (isEntry l.key l.serial) with
  | none => exact absurd (by simp [isEntry]) (List.find?_eq_none.1 h l hl)
  | some a =>
    have ha : a ∈ s.live := List.mem_of_find?_eq_some h
    have hk := List.find?_some h
    simp only [isEntry, Bool.and_eq_true, beq_iff_eq] at hk
    rw [List.inj_on_of_nodup_map hd ha hl hk.1]

theorem removeExact_of_mem {s : Store} (hd : s.Distinct) {l : Live} (hl : l ∈ s.live) :
    s.removeExact l.key l.serial = (true, s.drop l) := by
  have hfilter : (s.live.filter fun a => !isEntry l.key l.serial a) =
      s.live.filter (·.key != l.key) := by
    apply List.filter_congr
    intro a ha
    by_cases hk : a.key = l.key
    · have hal : a = l := List.inj_on_of_nodup_map hd ha hl hk
      simp [hal, isEntry]
    · rw [bne_iff_ne.2 hk]
      simp [hk, isEntry]
  rw [removeExact, find?_isEntry hd hl]
  simp only [drop, hfilter]

theorem removeExact_cases {s : Store} (hd : s.Distinct) (key : Key) (serial : Nat) :
    (∃ l ∈ s.live, l.key = key ∧ l.serial = serial ∧ s.removeExact key serial = (true, s.drop l)) ∨
      (s.live.find? (isEntry key serial) = none ∧ s.removeExact key serial = (false, s)) := by
  cases h : s.live.find? (isEntry key serial) with
  | none => exact .inr ⟨rfl, by rw [removeExact, h]⟩
  | some l =>
    have hl : l ∈ s.live := List.mem_of_find?_eq_some h
    have hk := List.find?_some h
    simp only [isEntry, Bool.and_eq_true, beq_iff_eq] at hk
    obtain ⟨rfl, rfl⟩ := hk
    exact .inl ⟨l, hl, rfl, rfl, removeExact_of_mem hd hl⟩

/-- What is left of a store when entries of it were dropped one by one. -/
inductive Drops : Store → Nat → Store → Prop where
  | none (s : Store) : Drops s 0 s
  | one {s : Store} {n : Nat} {t : Store} (l : Live) (hl : l ∈ s.live) (rest : Drops (s.drop l) n t) :
    Drops s (n + 1) t

namespace Drops
variable {s t : Store} {n : Nat}

theorem distinct (h : Drops s n t) (hd : s.Distinct) : t.Distinct := by
  induction h with
  | none => exact hd
  | one l _ _ ih => exact ih (hd.drop l)

theorem sublist (h : Drops s n t) : t.live.Sublist s.live := by
  induction h with
  | none => exact List.Sublist.refl _
  | one l _ _ ih => exact ih.trans List.filter_sublist

theorem frame (h : Drops s n t) : t.policy = s.policy ∧ t.nextSerial = s.nextSerial ∧
    t.pressure = s.pressure ∧ t.published = s.published ∧ t.stats.hits = s.stats.hits ∧
    t.stats.misses = s.stats.misses ∧ t.stats.evictions = s.stats.evictions := by
  induction h with
  | none => exact ⟨rfl, rfl, rfl, rfl, rfl, rfl, rfl⟩
  | one l _ _ ih => exact ih

theorem eq_of_zero (h : Drops s 0 t) : t = s := by
  cases h
  rfl

theorem trans {m : Nat} {u : Store} (h : Drops s n t) (h' : Drops t m u) :
    Drops s (n + m) u := by
  induction h with
  | none => simpa using h'
  | one l hl _ ih =>
    rw [Nat.add_right_comm]
    exact .one l hl (ih h')

theorem find?_of_find? (h : Drops s n t) (hd : s.Distinct) {key : Key} {l : Live}
    (hl : t.find? key = some l) : s.find? key = some l := by
  obtain ⟨hmem, hk⟩ := (find?_eq_some_iff (h.distinct hd)).1 hl
  exact (find?_eq_some_iff hd).2 ⟨h.sublist.subset hmem, hk⟩

end Drops

theorem removeAll_drops {s : Store} (hd : s.Distinct) (ls : List Live) :
    Drops s (s.removeAll ls).1 (s.removeAll ls).2 := by
  induction ls generalizing s with
  | nil => exact .none s
  | cons a ls ih =>
    rcases removeExact_cases hd a.key a.serial with ⟨l, hl, _, _, h⟩ | ⟨_, h⟩
    · simp only [removeAll, h, if_true]
      exact .one l hl (ih (hd.drop l))
    · simp only [removeAll, h, Bool.false_eq_true, if_false]
      exact ih hd

theorem evict_drops {s : Store} (hd : s.Distinct) (ls : List Live) :
    Drops s (s.evict ls).1 (s.evict ls).2 := by
  induction ls generalizing s with
  | nil => exact .none s
  | cons a ls ih =>
    by_cases hb : s.overBudget
    · rcases removeExact_cases hd a.key a.serial with ⟨l, hl, _, _, h⟩ | ⟨_, h⟩
      · simp only [evict, hb, if_true, h]
        exact .one l hl (ih (hd.drop l))
      · simp only [evict, hb, if_true, h, Bool.false_eq_true, if_false]
        exact ih hd
    · simp only [evict, hb, Bool.false_eq_true, if_false]
      exact .none s

theorem Distinct.insert {s : Store} (hd : s.Distinct) (key : Key) (e : Entry) :
    (s.insert key e).Distinct := by
  have hold : ((s.live.filter (·.key != key)).map Live.key).Nodup :=
    (List.filter_sublist.map Live.key).nodup hd
  have hnew : key ∉ (s.live.filter (·.key != key)).map Live.key := by
    simp
  rw [Distinct, Store.insert, List.map_append]
  exact List.nodup_append_comm.1 (List.nodup_cons.2 ⟨hnew, hold⟩)

theorem find?_drop (s : Store) (l : Live) (key : Key) :
    (s.drop l).find? key = if key = l.key then none else s.find? key := by
  split
  · next h =>
    rw [find?_eq_none_iff]
    intro a ha
    simp only [drop, List.mem_filter, bne_iff_ne] at ha
    exact h ▸ ha.2
  · next h => exact Keyed.find?_filter Live.key h

theorem find?_insert (s : Store) (key other : Key) (e : Entry) :
    (s.insert key e).find? other =
      if other = key then some ⟨key, s.nextSerial, e⟩ else s.find? other := by
  simp only [find?, Store.insert, List.find?_append]
  split
  · next h =>
    have hnone : (s.live.filter (·.key != key)).find? (·.key == other) = none :=
      Keyed.find?_eq_none_iff.2 (h ▸ Keyed.notMem_filter Live.key key)
    rw [hnone]
    simp [h]
  · next h =>
    have hkey : key ≠ other := fun e => h e.symm
    have hrest : (s.live.filter (·.key != key)).find? (·.key == other) =
        s.live.find? (·.key == other) := Keyed.find?_filter Live.key h
    rw [hrest]
    simp [hkey]

theorem touch_live {s : Store} (hd : s.Distinct) {l : Live} (hl : l ∈ s.live) (now : Instant) :
    (s.touch l.key l.serial now).live =
      s.live.map fun a => if a.key = l.key then a.mark now else a := by
  simp only [touch]
  apply List.map_congr_left
  intro a ha
  by_cases hk : a.key = l.key
  · have hal : a = l := List.inj_on_of_nodup_map hd ha hl hk
    simp [hal, isEntry, Live.mark]
  · simp [hk, isEntry]

theorem touch_map {β : Type} {f : Live → β} (hf : ∀ l now, f (l.mark now) = f l) (s : Store)
    (key : Key) (serial : Nat) (now : Instant) :
    (s.touch key serial now).live.map f = s.live.map f := by
  simp only [touch, List.map_map]
  apply List.map_congr_left
  intro l _
  simp only [Function.comp_apply]
  split
  · exact hf l now
  · rfl

theorem touch_keys (s : Store) (key : Key) (serial : Nat) (now : Instant) :
    (s.touch key serial now).live.map Live.key = s.live.map Live.key :=
  touch_map (fun _ _ => rfl) s key serial now

theorem Distinct.touch {s : Store} (hd : s.Distinct) (key : Key) (serial : Nat) (now : Instant) :
    (s.touch key serial now).Distinct := by
  rw [Distinct, touch_keys]
  exact hd

theorem find?_touch {s : Store} (hd : s.Distinct) {l : Live} (hl : l ∈ s.live) (now : Instant)
    (key : Key) : (s.touch l.key l.serial now).find? key =
      if key = l.key then some (l.mark now) else s.find? key := by
  have hkey : ((fun a : Live => a.key == key) ∘ fun a => if a.key = l.key then a.mark now else a) =
      fun a => a.key == key := by
    funext a
    simp only [Function.comp_apply]
    split <;> rfl
  rw [find?, touch_live hd hl, List.find?_map, hkey]
  change (s.find? key).map _ = _
  split
  · next h =>
    subst h
    rw [(find?_eq_some_iff hd).2 ⟨hl, rfl⟩]
    simp
  · next h =>
    cases hf : s.find? key with
    | none => rfl
    | some a =>
      have ha : a.key = key := ((find?_eq_some_iff hd).1 hf).2
      simp [ha, h]

theorem lookup_cases {s : Store} (hd : s.Distinct) (key : Key) (now : Instant) :
    (s.find? key = none ∧ s.lookup key now = (none, s.countMiss)) ∨
    (∃ l, s.find? key = some l ∧ l.entry.expires ≤ now ∧
      s.lookup key now = (none, (s.drop l).publish.countMiss)) ∨
    (∃ l, s.find? key = some l ∧ now < l.entry.expires ∧
      s.lookup key now = (some (l.mark now).entry, (s.touch l.key l.serial now).countHit)) := by
  cases h : s.find? key with
  | none => exact .inl ⟨rfl, by simp only [lookup, h]⟩
  | some l =>
    obtain ⟨hl, rfl⟩ := (find?_eq_some_iff hd).1 h
    by_cases he : l.entry.isExpired now
    · refine .inr (.inl ⟨l, rfl, by simpa [Entry.isExpired] using he, ?_⟩)
      simp only [lookup, h, he, if_true, removeExact_of_mem hd hl]
    · refine .inr (.inr ⟨l, rfl, by simpa [Entry.isExpired] using he, ?_⟩)
      simp only [lookup, h, he, Bool.false_eq_true, if_false]
      rfl

theorem commit_cases (s : Store) (c : Capture) (now : Instant) :
    (c.finished? now = none ∧ s.commit c now = (false, s)) ∨
    ∃ e, c.finished? now = some e ∧ s.commit c now = (true, { (s.insert c.key e).publish with
      pressure := s.pressure || (s.insert c.key e).overBudget }) := by
  cases h : c.finished? now with
  | none => exact .inl ⟨rfl, by simp only [commit, h]⟩
  | some e =>
    refine .inr ⟨e, rfl, ?_⟩
    simp only [commit, h]
    by_cases hb : (s.insert c.key e).overBudget
    · have hb' : (s.insert c.key e).publish.overBudget := hb
      simp [hb, hb']
    · have hb' : ¬(s.insert c.key e).publish.overBudget := hb
      simp only [hb, hb', Bool.false_eq_true, if_false, Bool.or_false]
      rfl

theorem sweep_cases {s : Store} (hd : s.Distinct) (now : Instant) :
    ∃ n m t u, Drops s n t ∧ Drops t m u ∧ (s.sweep now).1 = ⟨n, m⟩ ∧
      (s.sweep now).2 = if 0 < n + m then
        { u with stats := { u.stats with evictions := u.stats.evictions + (n + m) } }.publish
        else u := by
  let expired := s.live.filter fun l => l.entry.isExpired now
  let t := (s.removeAll expired).2
  have ht : Drops s (s.removeAll expired).1 t := removeAll_drops hd expired
  let order := evictionOrder (Http.Date.unixMillis now) t.live
  exact ⟨_, _, t, (t.evict order).2, ht, evict_drops (ht.distinct hd) order, rfl, rfl⟩

theorem Distinct.lookup {s : Store} (hd : s.Distinct) (key : Key) (now : Instant) :
    (s.lookup key now).2.Distinct := by
  rcases lookup_cases hd key now with ⟨_, h⟩ | ⟨l, _, _, h⟩ | ⟨l, _, _, h⟩ <;> rw [h]
  · exact hd
  · exact hd.drop l
  · exact hd.touch l.key l.serial now

theorem Distinct.commit {s : Store} (hd : s.Distinct) (c : Capture) (now : Instant) :
    (s.commit c now).2.Distinct := by
  rcases s.commit_cases c now with ⟨_, h⟩ | ⟨e, _, h⟩ <;> rw [h]
  · exact hd
  · exact hd.insert c.key e

theorem Distinct.sweep {s : Store} (hd : s.Distinct) (now : Instant) :
    (s.sweep now).2.Distinct := by
  obtain ⟨n, m, t, u, ht, hu, _, h⟩ := sweep_cases hd now
  rw [h]
  split <;> exact hu.distinct (ht.distinct hd)

theorem mem_lookup {s : Store} (hd : s.Distinct) {key : Key} {now : Instant} {l : Live}
    (hl : l ∈ (s.lookup key now).2.live) : ∃ a ∈ s.live, l = a ∨ l = a.mark now := by
  rcases lookup_cases hd key now with ⟨_, e⟩ | ⟨a, _, _, e⟩ | ⟨a, ha, _, e⟩ <;> rw [e] at hl
  · exact ⟨l, hl, .inl rfl⟩
  · exact ⟨l, List.mem_of_mem_filter hl, .inl rfl⟩
  · change l ∈ (s.touch a.key a.serial now).live at hl
    rw [touch_live hd ((find?_eq_some_iff hd).1 ha).1] at hl
    obtain ⟨b, hb, rfl⟩ := List.mem_map.1 hl
    split
    · exact ⟨b, hb, .inr rfl⟩
    · exact ⟨b, hb, .inl rfl⟩

theorem mem_commit {s : Store} {c : Capture} {now : Instant} {l : Live}
    (hl : l ∈ (s.commit c now).2.live) :
    l ∈ s.live ∨ (c.key = l.key ∧ c.finished? now = some l.entry) := by
  rcases commit_cases s c now with ⟨_, h⟩ | ⟨e, he, h⟩ <;> rw [h] at hl
  · exact .inl hl
  · rcases List.mem_append.1 hl with hl | hl
    · exact .inl (List.mem_of_mem_filter hl)
    · rw [List.mem_singleton.1 hl]
      exact .inr ⟨rfl, he⟩

theorem mem_sweep {s : Store} (hd : s.Distinct) {now : Instant} {l : Live}
    (hl : l ∈ (s.sweep now).2.live) : l ∈ s.live := by
  obtain ⟨n, m, t, u, ht, hu, _, h⟩ := sweep_cases hd now
  have hu' : l ∈ u.live := by
    rw [h] at hl
    split at hl <;> exact hl
  exact ht.sublist.subset (hu.sublist.subset hu')

end Store
end ReverseProxy.Cache
