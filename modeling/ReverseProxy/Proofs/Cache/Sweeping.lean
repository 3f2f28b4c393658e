import Mathlib.Algebra.Order.Field.Rat
import Mathlib.Tactic.Ring
import ReverseProxy.Proofs.Cache.Admission
import ReverseProxy.Proofs.Cache.Accounting

set_option autoImplicit false

namespace ReverseProxy.Cache
open Http.Date (Instant)

def bytesOf (ls : List Live) : Nat := (ls.map (·.entry.footprint)).sum

theorem bytesOf_append (xs ys : List Live) : bytesOf (xs ++ ys) = bytesOf xs + bytesOf ys := by
  simp [bytesOf]

theorem bytesOf_eq (ls : List Live) : bytesOf ls =
    (ls.map (·.entry.heapBytes)).sum + (ls.map (·.entry.directBytes)).sum := by
  induction ls with
  | nil => rfl
  | cons l ls ih =>
    simp only [bytesOf, Entry.footprint, List.map_cons, List.sum_cons] at ih ⊢
    omega

theorem bytesOf_perm {xs ys : List Live} (h : xs.Perm ys) : bytesOf xs = bytesOf ys :=
  (h.map _).sum_nat

theorem Stats.Matches.totalBytes {s : Stats} {ls : List Live} (h : s.Matches ls) :
    s.totalBytes = bytesOf ls := by
  rw [Stats.totalBytes, h.heap, h.direct, bytesOf_eq]

/-- Idle time in milliseconds and size together count against an entry; 64 KiB double the score. -/
def Live.score (l : Live) (now : Instant) : ℚ :=
  (((Http.Date.unixMillis now - l.entry.lastAccessMs : Nat) : ℚ) + 1) *
    (1 + (l.entry.footprint : ℚ) / 65536)

namespace Store

theorem evictionScore_eq (l : Live) (now : Instant) :
    (evictionScore (Http.Date.unixMillis now) l.entry : ℚ) = 65536 * l.score now := by
  unfold evictionScore Live.score
  push_cast
  ring

theorem evictionScore_le_iff (a b : Live) (now : Instant) :
    evictionScore (Http.Date.unixMillis now) a.entry ≤
      evictionScore (Http.Date.unixMillis now) b.entry ↔ a.score now ≤ b.score now := by
  rw [← Nat.cast_le (α := ℚ), evictionScore_eq, evictionScore_eq]
  exact mul_le_mul_iff_right₀ (by norm_num)

theorem evictionOrder_perm (nowMs : Nat) (ls : List Live) : (evictionOrder nowMs ls).Perm ls :=
  List.mergeSort_perm ls _

theorem evictionOrder_pairwise (now : Instant) (ls : List Live) :
    (evictionOrder (Http.Date.unixMillis now) ls).Pairwise
      fun a b => b.score now ≤ a.score now := by
  let le (a b : Live) : Bool := decide (evictionScore (Http.Date.unixMillis now) b.entry ≤
    evictionScore (Http.Date.unixMillis now) a.entry)
  have htrans (a b c : Live) (hab : le a b) (hbc : le b c) : le a c :=
    decide_eq_true ((of_decide_eq_true hbc).trans (of_decide_eq_true hab))
  have htotal (a b : Live) : le a b || le b a := by
    rw [Bool.or_eq_true, decide_eq_true_eq, decide_eq_true_eq]
    exact Nat.le_total _ _
  have hsorted : (evictionOrder (Http.Date.unixMillis now) ls).Pairwise fun a b => le a b :=
    List.pairwise_mergeSort htrans htotal ls
  exact hsorted.imp fun {a b} h => (evictionScore_le_iff b a now).1 (of_decide_eq_true h)

def dropAll (s : Store) (ls : List Live) : Store := ls.foldl drop s

def recount (s : Store) (ls : List Live) : Store :=
  { s with
    live := ls
    stats := { s.stats with
      entries := ls.length
      heapBytes := (ls.map (·.entry.heapBytes)).sum
      directBytes := (ls.map (·.entry.directBytes)).sum } }

structure Picks (s : Store) (ls : List Live) : Prop where
  live : ∀ l ∈ ls, l ∈ s.live
  keys : (ls.map Live.key).Nodup

section
variable {s : Store} {l : Live} {ls : List Live}

theorem live_dropAll (s : Store) (ls : List Live) :
    (s.dropAll ls).live = s.live.filter fun a => a.key ∉ ls.map Live.key := by
  induction ls generalizing s with
  | nil => simp [dropAll]
  | cons l ls ih =>
    change ((s.drop l).dropAll ls).live = _
    rw [ih, drop, List.filter_filter]
    apply List.filter_congr
    intro a _
    by_cases ha : a.key = l.key <;> simp [ha]

theorem dropAll_eq (s : Store) (ls : List Live) : s.dropAll ls = { s with
    live := (s.dropAll ls).live
    stats := { s.stats with
      entries := (s.dropAll ls).stats.entries
      heapBytes := (s.dropAll ls).stats.heapBytes
      directBytes := (s.dropAll ls).stats.directBytes } } := by
  induction ls generalizing s with
  | nil => rfl
  | cons l ls ih => exact ih (s.drop l)

theorem Picks.tail (h : s.Picks (l :: ls)) : (s.drop l).Picks ls := by
  obtain ⟨hnew, hkeys⟩ := List.nodup_cons.1 h.keys
  refine ⟨fun a ha => ?_, hkeys⟩
  have hne : a.key ≠ l.key := fun heq => hnew (heq ▸ List.mem_map_of_mem ha)
  exact List.mem_filter.2 ⟨h.live a (List.mem_cons_of_mem l ha), bne_iff_ne.2 hne⟩

theorem Picks.front {xs ys : List Live} (h : s.Picks (xs ++ ys)) : s.Picks xs := by
  refine ⟨fun l hl => h.live l (List.mem_append_left ys hl), ?_⟩
  have hkeys := h.keys
  rw [List.map_append] at hkeys
  exact hkeys.of_append_left

theorem picks_perm (hd : s.Distinct) (h : ls.Perm s.live) : s.Picks ls :=
  ⟨fun _ hl => h.mem_iff.1 hl, (h.map Live.key).nodup_iff.2 hd⟩

theorem picks_filter (hd : s.Distinct) (p : Live → Bool) : s.Picks (s.live.filter p) :=
  ⟨fun _ hl => List.mem_of_mem_filter hl, (List.filter_sublist.map Live.key).nodup hd⟩

theorem Balanced.dropAll (h : s.Balanced) (hls : s.Picks ls) : (s.dropAll ls).Balanced := by
  induction ls generalizing s with
  | nil => exact h
  | cons l ls ih => exact ih (h.drop (hls.live l List.mem_cons_self)) hls.tail

theorem Balanced.dropAll_eq (h : s.Balanced) (hls : s.Picks ls) :
    s.dropAll ls = s.recount (s.dropAll ls).live := by
  have hcounted := (h.dropAll hls).counted
  rw [recount, ← hcounted.entries, ← hcounted.heap, ← hcounted.direct]
  exact Store.dropAll_eq s ls

theorem dropAll_perm (hd : s.Distinct) (h : s.Picks ls) :
    s.live.Perm (ls ++ (s.dropAll ls).live) := by
  induction ls generalizing s with
  | nil => exact List.Perm.refl _
  | cons l ls ih =>
    have hl := h.live l List.mem_cons_self
    exact (Keyed.perm_cons_filter Live.key hd hl).trans ((ih (hd.drop l) h.tail).cons l)

theorem Balanced.overBudget_iff (h : s.Balanced) :
    s.overBudget = true ↔ s.policy.maxSize < bytesOf s.live := by
  rw [overBudget, h.counted.totalBytes, decide_eq_true_eq]

theorem Balanced.within_iff (h : s.Balanced) :
    s.overBudget = false ↔ bytesOf s.live ≤ s.policy.maxSize := by
  rw [← Nat.not_lt, ← h.overBudget_iff, Bool.not_eq_true]

theorem removeAll_eq (hd : s.Distinct) (h : s.Picks ls) :
    s.removeAll ls = (ls.length, s.dropAll ls) := by
  induction ls generalizing s with
  | nil => rfl
  | cons l ls ih =>
    simp only [removeAll, removeExact_of_mem hd (h.live l List.mem_cons_self),
      ih (hd.drop l) h.tail]
    rfl

theorem evict_eq (hd : s.Distinct) (h : s.Picks ls) : ∃ gone kept, ls = gone ++ kept ∧
    s.evict ls = (gone.length, s.dropAll gone) ∧
    (kept = [] ∨ (s.dropAll gone).overBudget = false) ∧
    ∀ before l after, gone = before ++ l :: after → (s.dropAll before).overBudget = true := by
  induction ls generalizing s with
  | nil => exact ⟨[], [], rfl, rfl, .inl rfl, by simp⟩
  | cons l ls ih =>
    cases hb : s.overBudget with
    | false => exact ⟨[], l :: ls, rfl, by simp [evict, hb, dropAll], .inr hb, by simp⟩
    | true =>
      obtain ⟨gone, kept, rfl, heq, hstop, hneeded⟩ := ih (hd.drop l) h.tail
      refine ⟨l :: gone, kept, rfl, ?_, hstop, fun before a after hsplit => ?_⟩
      · simp only [evict, hb, if_true, removeExact_of_mem hd (h.live l List.mem_cons_self), heq]
        rfl
      · cases before with
        | nil => exact hb
        | cons b before =>
          obtain ⟨rfl, hrest⟩ := List.cons.inj hsplit
          exact hneeded before a after hrest

end

/-- A sweep at `now` leaves `t` of a store, answers `r`, and had to evict `evicted`. -/
structure Swept (s : Store) (now : Instant) (r : SweepReport) (t : Store)
    (evicted : List Live) : Prop where
  /-- The expired entries are gone; of the rest the evicted ones are, and nothing else. -/
  parts : (s.live.filter fun l => now < l.entry.expires).Perm (evicted ++ t.live)
  kept : t.live.Sublist s.live
  fits : t.stats.totalBytes ≤ s.policy.maxSize
  ordered : (evicted.Pairwise fun a b => b.score now ≤ a.score now) ∧
    ∀ a ∈ evicted, ∀ b ∈ t.live, b.score now ≤ a.score now
  needed : ∀ before l after, evicted = before ++ l :: after →
    s.policy.maxSize < bytesOf (l :: after ++ t.live)
  report : r = ⟨(s.live.filter fun l => l.entry.expires ≤ now).length, evicted.length⟩
  stats : t.stats = { s.stats with
    evictions := s.stats.evictions + (r.expired + r.evicted)
    entries := t.live.length
    heapBytes := (t.live.map (·.entry.heapBytes)).sum
    directBytes := (t.live.map (·.entry.directBytes)).sum }
  others : t.policy = s.policy ∧ t.nextSerial = s.nextSerial ∧ t.pressure = s.pressure
  gauges : t.published = if 0 < r.expired + r.evicted then
    some (t.stats.heapBytes, t.stats.directBytes) else s.published

def tally (s : Store) (removed : Nat) : Store :=
  if 0 < removed then
    { s with stats := { s.stats with evictions := s.stats.evictions + removed } }.publish
  else s

theorem tally_eq (s : Store) (n : Nat) : s.tally n = { s with
    stats := { s.stats with evictions := s.stats.evictions + n }
    published := if 0 < n then some (s.stats.heapBytes, s.stats.directBytes)
      else s.published } := by
  unfold tally
  split
  · rfl
  · next h =>
    rw [Nat.eq_zero_of_not_pos h]
    rfl

section
variable {s : Store}

theorem Balanced.recount (h : s.Balanced) {ls : List Live} (hls : ls.Sublist s.live) :
    (s.recount ls).Balanced :=
  ⟨(hls.map Live.key).nodup h.distinct, rfl, rfl, rfl⟩

theorem Balanced.removeAll_expired (h : s.Balanced) (now : Instant) :
    s.removeAll (s.live.filter fun l => l.entry.isExpired now) =
      ((s.live.filter fun l => l.entry.isExpired now).length,
        s.recount (s.live.filter fun l => now < l.entry.expires)) := by
  have hexpired := picks_filter h.distinct fun l : Live => l.entry.isExpired now
  have hleft : (s.dropAll (s.live.filter fun l => l.entry.isExpired now)).live =
      s.live.filter fun l => now < l.entry.expires := by
    rw [live_dropAll]
    apply List.filter_congr
    intro a ha
    have hmem : a.key ∈ (s.live.filter fun l => l.entry.isExpired now).map Live.key ↔
        a.entry.expires ≤ now := by
      rw [List.mem_map]
      constructor
      · rintro ⟨b, hb, hkey⟩
        obtain ⟨hb, hx⟩ := List.mem_filter.1 hb
        rw [List.inj_on_of_nodup_map h.distinct hb ha hkey] at hx
        exact of_decide_eq_true hx
      · exact fun hx => ⟨a, List.mem_filter.2 ⟨ha, decide_eq_true hx⟩, rfl⟩
    simp only [hmem, Int.not_le]
  rw [removeAll_eq h.distinct hexpired, h.dropAll_eq hexpired, hleft]

theorem Balanced.evict_order (h : s.Balanced) (now : Instant) : ∃ gone rest,
    s.evict (evictionOrder (Http.Date.unixMillis now) s.live) = (gone.length, s.recount rest) ∧
    s.live.Perm (gone ++ rest) ∧ rest.Sublist s.live ∧ bytesOf rest ≤ s.policy.maxSize ∧
    (gone.Pairwise fun a b => b.score now ≤ a.score now) ∧
    (∀ a ∈ gone, ∀ b ∈ rest, b.score now ≤ a.score now) ∧
    ∀ before l after, gone = before ++ l :: after →
      s.policy.maxSize < bytesOf (l :: after ++ rest) := by
  have horder := evictionOrder_perm (Http.Date.unixMillis now) s.live
  have hpicks := picks_perm h.distinct horder
  obtain ⟨gone, kept, hsplit, heq, hstop, hneeded⟩ := evict_eq h.distinct hpicks
  have hsorted := evictionOrder_pairwise now s.live
  rw [hsplit] at horder hpicks
  rw [hsplit, List.pairwise_append] at hsorted
  have hgone : s.Picks gone := hpicks.front
  let rest := (s.dropAll gone).live
  have hparts : s.live.Perm (gone ++ rest) := dropAll_perm h.distinct hgone
  -- What is left are the entries behind those that were taken from the order.
  have hkept : kept.Perm rest := (List.perm_append_left_iff gone).1 (horder.trans hparts)
  refine ⟨gone, rest, ?_, hparts, ?_, ?_, hsorted.1, ?_, ?_⟩
  · rw [heq, h.dropAll_eq hgone]
  · change (s.dropAll gone).live.Sublist s.live
    rw [live_dropAll]
    exact List.filter_sublist
  · rcases hstop with rfl | hwithin
    · rw [← bytesOf_perm hkept]
      exact Nat.zero_le _
    · have hle := (h.dropAll hgone).within_iff.1 hwithin
      rw [h.dropAll_eq hgone] at hle
      exact hle
  · exact fun a ha b hb => hsorted.2.2 a ha b (hkept.mem_iff.2 hb)
  · intro before l after hbefore
    have hpicked : s.Picks before := (hbefore ▸ hgone).front
    have hover := (h.dropAll hpicked).overBudget_iff.1 (hneeded before l after hbefore)
    have hleft : (s.dropAll before).live.Perm (l :: after ++ rest) := by
      refine (List.perm_append_left_iff before).1 ?_
      rw [← List.append_assoc, ← hbefore]
      exact (dropAll_perm h.distinct hpicked).symm.trans hparts
    rw [h.dropAll_eq hpicked] at hover
    exact bytesOf_perm hleft ▸ hover

theorem Balanced.swept (h : s.Balanced) (now : Instant) :
    ∃ evicted, s.Swept now (s.sweep now).1 (s.sweep now).2 evicted := by
  have ht := h.recount (List.filter_sublist (p := fun l => now < l.entry.expires))
  obtain ⟨gone, rest, heq, hparts, hrest, hfits, hsorted, hspared, hneeded⟩ := ht.evict_order now
  have hsweep : s.sweep now =
      (⟨(s.live.filter fun l => l.entry.isExpired now).length, gone.length⟩,
        (s.recount rest).tally
          ((s.live.filter fun l => l.entry.isExpired now).length + gone.length)) := by
    simp only [Store.sweep, h.removeAll_expired, heq]
    rfl
  have hbytes := (h.recount (hrest.trans List.filter_sublist)).counted.totalBytes
  rw [hsweep, tally_eq]
  exact ⟨gone, hparts, hrest.trans List.filter_sublist, hbytes.trans_le hfits,
    ⟨hsorted, hspared⟩, hneeded, rfl, rfl, ⟨rfl, rfl, rfl⟩, rfl⟩

def reorder (s : Store) (order : List Live) : Store := { s with live := order }

theorem Balanced.reorder (h : s.Balanced) {order : List Live} (horder : order.Perm s.live) :
    (s.reorder order).Balanced :=
  ⟨(horder.map Live.key).nodup_iff.2 h.distinct, h.counted.perm horder.symm⟩

section
variable {now : Instant} {r : SweepReport} {t : Store} {evicted : List Live}

theorem Swept.totalBytes (h : s.Swept now r t evicted) : t.stats.totalBytes = bytesOf t.live := by
  rw [h.stats, bytesOf_eq]
  rfl

theorem Swept.evicts (h : s.Swept now r t evicted)
    (hover : s.policy.maxSize < bytesOf (s.live.filter fun l => now < l.entry.expires)) :
    evicted ≠ [] := by
  rintro rfl
  have hfits := h.fits
  rw [h.totalBytes, ← List.nil_append t.live, ← bytesOf_perm h.parts] at hfits
  exact Nat.not_lt.2 hfits hover

theorem Swept.spares (h : s.Swept now r t evicted)
    (hsmall : ∀ l ∈ s.live, l.entry.footprint ≤ s.policy.maxSize)
    (hfresh : ∃ l ∈ s.live, now < l.entry.expires) : t.live ≠ [] := by
  intro hnone
  have hparts := h.parts
  rw [hnone, List.append_nil] at hparts
  rcases List.eq_nil_or_concat evicted with rfl | ⟨before, l, rfl⟩
  · obtain ⟨l, hl, hlate⟩ := hfresh
    have hmem := hparts.subset (List.mem_filter.2 ⟨hl, decide_eq_true hlate⟩)
    cases hmem
  · rw [List.concat_eq_append] at h hparts
    have hl : l ∈ s.live := List.mem_of_mem_filter (hparts.symm.subset (by simp))
    have hover := h.needed before l [] rfl
    rw [hnone] at hover
    exact Nat.not_le.2 hover (by simpa [bytesOf] using hsmall l hl)

end

end

end Store

theorem copiedBytes_add_keptBytes (chunks : List Bytes) :
    copiedBytes chunks + keptBytes chunks = chunks.flatten.length := by
  induction chunks with
  | nil => rfl
  | cons chunk chunks ih =>
    have hsplit : copiedBytes [chunk] + keptBytes [chunk] = chunk.length := by
      by_cases hc : directThreshold ≤ chunk.length
      · simp [copiedBytes, keptBytes, hc, Nat.not_lt.2 hc]
      · simp [copiedBytes, keptBytes, hc, Nat.lt_of_not_le hc]
    have hcopied := copiedBytes_append [chunk] chunks
    have hkept := keptBytes_append [chunk] chunks
    rw [List.singleton_append] at hcopied hkept
    rw [List.flatten_cons, List.length_append]
    omega

namespace Session

theorem footprint_le (p : Policy) (es : List Event) {l : Live}
    (hl : l ∈ ((start p).run es).store.live) : l.entry.footprint ≤ p.maxFileSize := by
  obtain ⟨_, _, _, _, _, hadmitted⟩ := (run_traced p es).entries l hl
  obtain ⟨hheap, hdirect⟩ := (run_accounted p es).entries l hl
  have hlength := copiedBytes_add_keptBytes l.entry.chunks
  rw [Entry.footprint, hheap, hdirect, hlength]
  exact hadmitted.body

/-- In every state of every session, in whatever order its entries are listed: a sweep drops the
expired entries and then, one by one in the order of their scores, as many others as it takes to
come within the budget. It touches nothing else, counts what it dropped, and leaves an entry if
there was one that had not expired and a single file fits into the budget. -/
theorem survivors_of_sweep (p : Policy) (es : List Event) (now : Instant) (order : List Live)
    (horder : order.Perm ((start p).run es).store.live) :
    let s := ((start p).run es).store.reorder order
    let r := s.sweep now
    s.policy = p ∧ ∃ evicted, s.Swept now r.1 r.2 evicted ∧
      (p.maxFileSize ≤ p.maxSize → (∃ l ∈ order, now < l.entry.expires) → r.2.live ≠ []) := by
  intro s r
  have hpolicy : s.policy = p := (run_traced p es).policy
  obtain ⟨evicted, hswept⟩ := ((run_balanced p es).reorder horder).swept now
  refine ⟨hpolicy, evicted, hswept, fun hfile hfresh => hswept.spares (fun l hl => ?_) hfresh⟩
  have hfits : l.entry.footprint ≤ p.maxFileSize := footprint_le p es (horder.subset hl)
  exact (hfits.trans hfile).trans_eq (congrArg Policy.maxSize hpolicy.symm)

theorem survivors_of_sweep_two_responses :
    let p : Policy := ⟨true, 10, 10, true, 1000, 1000⟩
    let key (path : String) : Key := ⟨"GET", false, "site.test", path, ""⟩
    let es : List Event := [
      ⟨0, .capture 1 (key "/1") .empty⟩, ⟨0, .head 1 200 .empty⟩, ⟨0, .chunk 1 [1, 2, 3, 4, 5, 6]⟩,
      ⟨0, .commit 1⟩,
      ⟨0, .capture 2 (key "/2") .empty⟩, ⟨0, .head 2 200 .empty⟩, ⟨0, .chunk 2 [1, 2, 3, 4, 5, 6]⟩,
      ⟨0, .commit 2⟩, ⟨50, .lookup (key "/1")⟩]
    let order := ((start p).run es).store.live.reverse
    let s := ((start p).run es).store.reorder order
    order.Perm ((start p).run es).store.live ∧
      (∃ evicted, evicted ≠ [] ∧ s.Swept 80 (s.sweep 80).1 (s.sweep 80).2 evicted) ∧
      (s.sweep 80).2.live ≠ [] := by
  intro p key es order
  have hperm : order.Perm ((start p).run es).store.live := List.reverse_perm _
  have hfresh : ∃ l ∈ order, 80 < l.entry.expires := by decide +kernel
  have hover : (((start p).run es).store.reorder order).policy.maxSize <
      bytesOf ((((start p).run es).store.reorder order).live.filter
        fun l => 80 < l.entry.expires) := by decide +kernel
  obtain ⟨_, evicted, hswept, hspares⟩ := survivors_of_sweep p es 80 order hperm
  exact ⟨hperm, ⟨evicted, hswept.evicts hover, hswept⟩, hspares (by decide) hfresh⟩

end Session
end ReverseProxy.Cache
