import Mathlib.Algebra.GroupWithZero.Nat
import ReverseProxy.Proofs.Cache.Operations

set_option autoImplicit false

namespace ReverseProxy.Cache
open Http.Date (Instant)

namespace Stats

def Covers (s : Stats) (e : Entry) : Prop :=
  1 ≤ s.entries ∧ e.heapBytes ≤ s.heapBytes ∧ e.directBytes ≤ s.directBytes

instance (s : Stats) (e : Entry) : Decidable (s.Covers e) := inferInstanceAs (Decidable (_ ∧ _ ∧ _))

/-- The counters are those of the entries `ls`. -/
structure Matches (s : Stats) (ls : List Live) : Prop where
  entries : s.entries = ls.length
  heap : s.heapBytes = (ls.map (·.entry.heapBytes)).sum
  direct : s.directBytes = (ls.map (·.entry.directBytes)).sum

namespace Matches
variable {s : Stats} {l : Live} {ls : List Live}

theorem charge (h : s.Matches ls) (l : Live) : (s.charge l.entry).Matches (l :: ls) where
  entries := by simp [Stats.charge, h.entries]
  heap := by simp [Stats.charge, h.heap, Nat.add_comm]
  direct := by simp [Stats.charge, h.direct, Nat.add_comm]

theorem covers (h : s.Matches (l :: ls)) : s.Covers l.entry := by
  refine ⟨?_, ?_, ?_⟩
  · simp [h.entries]
  · simp [h.heap]
  · simp [h.direct]

theorem release (h : s.Matches (l :: ls)) : (s.release l.entry).Matches ls where
  entries := by simp [Stats.release, h.entries]
  heap := by simp [Stats.release, h.heap]
  direct := by simp [Stats.release, h.direct]

theorem perm {ls' : List Live} (h : s.Matches ls) (p : ls.Perm ls') : s.Matches ls' where
  entries := h.entries.trans p.length_eq
  heap := h.heap.trans (p.map _).sum_nat
  direct := h.direct.trans (p.map _).sum_nat

theorem congr {ls' : List Live} (h : s.Matches ls)
    (hheap : ls'.map (·.entry.heapBytes) = ls.map (·.entry.heapBytes))
    (hdirect : ls'.map (·.entry.directBytes) = ls.map (·.entry.directBytes)) : s.Matches ls' where
  entries := by
    have hlength := congrArg List.length hheap
    rw [List.length_map, List.length_map] at hlength
    exact h.entries.trans hlength.symm
  heap := hheap ▸ h.heap
  direct := hdirect ▸ h.direct

end Matches
end Stats

namespace Store

structure Balanced (s : Store) : Prop where
  distinct : s.Distinct
  counted : s.stats.Matches s.live

namespace Balanced
variable {s : Store}

theorem publish (h : s.Balanced) : s.publish.Balanced := ⟨h.distinct, h.counted⟩

theorem countHit (h : s.Balanced) : s.countHit.Balanced :=
  ⟨h.distinct, h.counted.entries, h.counted.heap, h.counted.direct⟩

theorem countMiss (h : s.Balanced) : s.countMiss.Balanced :=
  ⟨h.distinct, h.counted.entries, h.counted.heap, h.counted.direct⟩

theorem covers (h : s.Balanced) {l : Live} (hl : l ∈ s.live) : s.stats.Covers l.entry :=
  (h.counted.perm (Keyed.perm_cons_filter Live.key h.distinct hl)).covers

theorem drop (h : s.Balanced) {l : Live} (hl : l ∈ s.live) : (s.drop l).Balanced :=
  ⟨h.distinct.drop l, (h.counted.perm (Keyed.perm_cons_filter Live.key h.distinct hl)).release⟩

theorem drops {n : Nat} {t : Store} (h : s.Balanced) (d : Drops s n t) : t.Balanced := by
  induction d with
  | none => exact h
  | one l hl _ ih => exact ih (h.drop hl)

theorem charge_matches (h : s.Balanced) {old : Live} (hold : old ∈ s.live) (new : Live) :
    (s.stats.charge new.entry).Matches (old :: new :: s.live.filter (·.key != old.key)) := by
  have hp := (Keyed.perm_cons_filter Live.key h.distinct hold).cons new
  exact (h.counted.charge new).perm (hp.trans (List.Perm.swap old new _))

theorem insert (h : s.Balanced) (key : Key) (e : Entry) : (s.insert key e).Balanced := by
  refine ⟨h.distinct.insert key e, ?_⟩
  let new : Live := ⟨key, s.nextSerial, e⟩
  have hlast (ls : List Live) : (new :: ls).Perm (ls ++ [new]) :=
    (List.perm_append_singleton new ls).symm
  simp only [Store.insert]
  cases hf : s.find? key with
  | none =>
    have hrest : s.live.filter (·.key != key) = s.live := by
      rw [List.filter_eq_self]
      intro l hl
      simpa using find?_eq_none_iff.1 hf l hl
    rw [hrest]
    exact (h.counted.charge new).perm (hlast _)
  | some old =>
    obtain ⟨hold, rfl⟩ := (find?_eq_some_iff h.distinct).1 hf
    exact (h.charge_matches hold new).release.perm (hlast _)

theorem touch (h : s.Balanced) (key : Key) (serial : Nat) (now : Instant) :
    (s.touch key serial now).Balanced where
  distinct := h.distinct.touch key serial now
  counted := h.counted.congr (touch_map (fun _ _ => rfl) s key serial now)
    (touch_map (fun _ _ => rfl) s key serial now)

theorem lookup (h : s.Balanced) (key : Key) (now : Instant) : (s.lookup key now).2.Balanced := by
  rcases lookup_cases h.distinct key now with ⟨_, e⟩ | ⟨l, hf, _, e⟩ | ⟨l, _, _, e⟩ <;> rw [e]
  · exact h.countMiss
  · exact (h.drop ((find?_eq_some_iff h.distinct).1 hf).1).publish.countMiss
  · exact (h.touch l.key l.serial now).countHit

theorem commit (h : s.Balanced) (c : Capture) (now : Instant) : (s.commit c now).2.Balanced := by
  rcases commit_cases s c now with ⟨_, he⟩ | ⟨e, _, he⟩ <;> rw [he]
  · exact h
  · exact ⟨(h.insert c.key e).distinct, (h.insert c.key e).counted⟩

theorem sweep (h : s.Balanced) (now : Instant) : (s.sweep now).2.Balanced := by
  obtain ⟨n, m, t, u, ht, hu, _, he⟩ := sweep_cases h.distinct now
  have hub : u.Balanced := (h.drops ht).drops hu
  rw [he]
  split
  · exact ⟨hub.distinct, hub.counted.entries, hub.counted.heap, hub.counted.direct⟩
  · exact hub

end Balanced
end Store
def Stats.release? (s : Stats) (e : Entry) : Option Stats :=
  if s.Covers e then some (s.release e) else none

theorem Stats.Covers.release? {s : Stats} {e : Entry} (h : s.Covers e) :
    s.release? e = some (s.release e) := if_pos h

namespace Store

def removeExact? (s : Store) (key : Key) (serial : Nat) : Option (Bool × Store) :=
  match s.live.find? (isEntry key serial) with
  | some l => (s.stats.release? l.entry).map fun stats => (true, { s with
      live := s.live.filter fun l => !isEntry key serial l
      stats })
  | none => some (false, s)

def insert? (s : Store) (key : Key) (e : Entry) : Option Store :=
  let charged := s.stats.charge e
  let stats := match s.find? key with
    | some old => charged.release? old.entry
    | none => some charged
  stats.map fun stats => { s with
    live := s.live.filter (·.key != key) ++ [⟨key, s.nextSerial, e⟩]
    stats
    nextSerial := s.nextSerial + 1 }

def lookup? (s : Store) (key : Key) (now : Instant) : Option (Option Entry × Store) :=
  match s.find? key with
  | none => some (none, s.countMiss)
  | some l =>
    if l.entry.isExpired now then do
      let (removed, s) ← s.removeExact? key l.serial
      some (none, (if removed then s.publish else s).countMiss)
    else
      some (some { l.entry with lastAccessMs := Http.Date.unixMillis now },
        (s.touch key l.serial now).countHit)

def commit? (s : Store) (c : Capture) (now : Instant) : Option (Bool × Store) :=
  match c.finished? now with
  | none => some (false, s)
  | some e => do
    let s := (← s.insert? c.key e).publish
    some (true, if s.overBudget then { s with pressure := true } else s)

def removeAll? (s : Store) : List Live → Option (Nat × Store)
  | [] => some (0, s)
  | l :: ls => do
    let (removed, s) ← s.removeExact? l.key l.serial
    let (n, s) ← s.removeAll? ls
    some (if removed then n + 1 else n, s)

def evict? (s : Store) : List Live → Option (Nat × Store)
  | [] => some (0, s)
  | l :: ls =>
    if s.overBudget then do
      let (removed, s) ← s.removeExact? l.key l.serial
      let (n, s) ← s.evict? ls
      some (if removed then n + 1 else n, s)
    else some (0, s)

def sweep? (s : Store) (now : Instant) : Option (SweepReport × Store) := do
  let (expired, s) ← s.removeAll? (s.live.filter fun l => l.entry.isExpired now)
  let (evicted, s) ← s.evict? (evictionOrder (Http.Date.unixMillis now) s.live)
  let removed := expired + evicted
  let counted := { s with stats := { s.stats with evictions := s.stats.evictions + removed } }
  some (⟨expired, evicted⟩, if 0 < removed then counted.publish else s)

namespace Balanced
variable {s : Store}

theorem removeExact? (h : s.Balanced) (key : Key) (serial : Nat) :
    s.removeExact? key serial = some (s.removeExact key serial) := by
  simp only [Store.removeExact?, Store.removeExact]
  cases hf : s.live.find? (isEntry key serial) with
  | none => rfl
  | some l => simp [(h.covers (List.mem_of_find?_eq_some hf)).release?]

theorem removeExact (h : s.Balanced) (key : Key) (serial : Nat) :
    (s.removeExact key serial).2.Balanced := by
  rcases removeExact_cases h.distinct key serial with ⟨l, hl, _, _, e⟩ | ⟨_, e⟩ <;> rw [e]
  · exact h.drop hl
  · exact h

theorem insert? (h : s.Balanced) (key : Key) (e : Entry) :
    s.insert? key e = some (s.insert key e) := by
  simp only [Store.insert?, Store.insert]
  cases hf : s.find? key with
  | none => rfl
  | some old =>
    have hold := ((find?_eq_some_iff h.distinct).1 hf).1
    simp [(h.charge_matches hold ⟨key, s.nextSerial, e⟩).covers.release?]

theorem lookup? (h : s.Balanced) (key : Key) (now : Instant) :
    s.lookup? key now = some (s.lookup key now) := by
  simp only [Store.lookup?, Store.lookup]
  cases s.find? key with
  | none => rfl
  | some l =>
    simp only [h.removeExact?]
    split <;> rfl

theorem commit? (h : s.Balanced) (c : Capture) (now : Instant) :
    s.commit? c now = some (s.commit c now) := by
  simp only [Store.commit?, Store.commit]
  cases c.finished? now with
  | none => rfl
  | some e => simp only [h.insert?]; rfl

theorem removeAll? (h : s.Balanced) (ls : List Live) :
    s.removeAll? ls = some (s.removeAll ls) := by
  induction ls generalizing s with
  | nil => rfl
  | cons l ls ih =>
    simp only [Store.removeAll?, Store.removeAll, h.removeExact?, Option.bind_some,
      Option.bind_eq_bind, ih (h.removeExact l.key l.serial)]

theorem evict? (h : s.Balanced) (ls : List Live) : s.evict? ls = some (s.evict ls) := by
  induction ls generalizing s with
  | nil => rfl
  | cons l ls ih =>
    simp only [Store.evict?, Store.evict]
    split
    · simp only [h.removeExact?, Option.bind_some, Option.bind_eq_bind,
        ih (h.removeExact l.key l.serial)]
    · rfl

theorem sweep? (h : s.Balanced) (now : Instant) : s.sweep? now = some (s.sweep now) := by
  simp only [Store.sweep?, Store.sweep, h.removeAll?, Option.bind_some, Option.bind_eq_bind]
  have ht := h.drops (removeAll_drops h.distinct (s.live.filter fun l => l.entry.isExpired now))
  simp only [ht.evict?, Option.bind_some]

end Balanced
end Store
end ReverseProxy.Cache
