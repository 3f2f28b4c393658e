import ReverseProxy.Proofs.Cache.Session

set_option autoImplicit false

namespace ReverseProxy.Cache
open Http.Date (Instant)

def copiedBytes (chunks : List Bytes) : Nat :=
  ((chunks.filter (·.length < directThreshold)).map List.length).sum

def keptBytes (chunks : List Bytes) : Nat :=
  ((chunks.filter (directThreshold ≤ ·.length)).map List.length).sum

theorem copiedBytes_append (xs ys : List Bytes) :
    copiedBytes (xs ++ ys) = copiedBytes xs + copiedBytes ys := by
  simp [copiedBytes]

theorem keptBytes_append (xs ys : List Bytes) :
    keptBytes (xs ++ ys) = keptBytes xs + keptBytes ys := by
  simp [keptBytes]

def CapturedBody.Counted (b : CapturedBody) : Prop :=
  b.heapBytes = copiedBytes b.chunks ∧ b.directBytes = keptBytes b.chunks

theorem CapturedBody.Counted.push {b : CapturedBody} (h : b.Counted) (chunk : Bytes) :
    (b.push chunk).Counted := by
  simp only [Counted, CapturedBody.push, copiedBytes_append, keptBytes_append, ← h.1, ← h.2]
  by_cases hc : directThreshold ≤ chunk.length
  · have hlt : ¬chunk.length < directThreshold := by omega
    simp [isDirect, copiedBytes, keptBytes, hc, hlt]
  · have hlt : chunk.length < directThreshold := by omega
    simp [isDirect, copiedBytes, keptBytes, hc, hlt]

namespace Capture

def Counted (c : Capture) : Prop :=
  ∀ head body, c.state = .recording head body → body.Counted

theorem counted_of_fresh {c : Capture} (h : c.state = .awaitingHead) : c.Counted := by
  intro head body hs
  rw [h] at hs
  cases hs

theorem counted_reject (c : Capture) (why : Rejection) : (c.reject why).Counted := by
  intro head body hs
  cases hs

theorem Counted.onHead? {c d : Capture} (h : c.Counted) {status : Http.Status}
    {headers : Http.Headers} (hd : c.onHead? status headers = some d) : d.Counted := by
  unfold Capture.onHead? at hd
  split at hd
  · split at hd
    · cases hd
      exact counted_reject c _
    · split at hd
      · cases hd
        intro head body hs
        cases hs
        exact ⟨rfl, rfl⟩
      · cases hd
        exact counted_reject c _
      · cases hd
  · cases hd
    exact h

theorem Counted.onChunk {c : Capture} (h : c.Counted) (data : Bytes) : (c.onChunk data).Counted := by
  unfold Capture.onChunk
  split
  · next head body hs =>
    split
    · exact h
    · split
      · exact counted_reject c _
      · intro head' body' hs'
        cases hs'
        exact (h head body hs).push data
  · exact h

theorem beginCapture_state {s : Store} {key : Key} {request : Http.Headers} {now : Instant}
    {c : Capture} (h : s.beginCapture key request now = some c) : c.state = .awaitingHead := by
  simp only [Store.beginCapture] at h
  split at h
  · cases h
  · split at h
    · cases h
    · cases h
      rfl

end Capture

def Entry.Counted (e : Entry) : Prop :=
  e.heapBytes = copiedBytes e.chunks ∧ e.directBytes = keptBytes e.chunks

theorem Capture.Counted.finished? {c : Capture} (h : c.Counted) {now : Instant} {e : Entry}
    (he : c.finished? now = some e) : e.Counted := by
  unfold Capture.finished? at he
  split at he
  · next head body hs =>
    cases he
    exact h head body hs
  · cases he

theorem sum_counted {f : Entry → Nat} {g : List Bytes → Nat} (hg : g [] = 0)
    (happend : ∀ xs ys, g (xs ++ ys) = g xs + g ys) {ls : List Live}
    (h : ∀ l ∈ ls, f l.entry = g l.entry.chunks) :
    (ls.map (f ·.entry)).sum = g (ls.flatMap (·.entry.chunks)) := by
  induction ls with
  | nil => simp [hg]
  | cons l ls ih =>
    have hl := h l List.mem_cons_self
    have hls := ih fun a ha => h a (List.mem_cons_of_mem l ha)
    simp only [List.map_cons, List.sum_cons, List.flatMap_cons, happend, hl, hls]

namespace Store

def ShowsBytes (s : Store) : Prop :=
  s.published = some (s.stats.heapBytes, s.stats.directBytes)

def Shown (s : Store) : Prop := s.live = [] ∨ s.ShowsBytes

structure Announces (s t : Store) : Prop where
  shown : t.Shown
  changed : t.live ≠ s.live → t.ShowsBytes

theorem Announces.of_shows {s t : Store} (h : t.ShowsBytes) : s.Announces t :=
  ⟨.inr h, fun _ => h⟩

theorem Shown.announces {s t : Store} (h : s.Shown) (hl : t.live = s.live)
    (hb : s.ShowsBytes → t.ShowsBytes) : s.Announces t := by
  refine ⟨?_, fun hne => absurd hl hne⟩
  rcases h with he | hs
  · exact .inl (hl.trans he)
  · exact .inr (hb hs)

theorem Shown.showsBytes {s : Store} (h : s.Shown) {l : Live} (hl : l ∈ s.live) : s.ShowsBytes := by
  rcases h with he | hs
  · rw [he] at hl
    cases hl
  · exact hs

theorem announces_lookup {s : Store} (hd : s.Distinct) (h : s.Shown) (key : Key) (now : Instant) :
    s.Announces (s.lookup key now).2 := by
  rcases lookup_cases hd key now with ⟨_, e⟩ | ⟨l, _, _, e⟩ | ⟨l, hf, _, e⟩ <;> rw [e]
  · exact h.announces rfl fun hs => hs
  · exact .of_shows rfl
  · exact .of_shows (h.showsBytes ((find?_eq_some_iff hd).1 hf).1)

theorem announces_commit {s : Store} (h : s.Shown) (c : Capture) (now : Instant) :
    s.Announces (s.commit c now).2 := by
  rcases commit_cases s c now with ⟨_, he⟩ | ⟨e, _, he⟩ <;> rw [he]
  · exact h.announces rfl fun hs => hs
  · exact .of_shows rfl

theorem announces_sweep {s : Store} (hd : s.Distinct) (h : s.Shown) (now : Instant) :
    s.Announces (s.sweep now).2 := by
  obtain ⟨n, m, t, u, ht, hu, _, he⟩ := sweep_cases hd now
  rw [he]
  split
  · exact .of_shows rfl
  · next hz =>
    obtain rfl : n = 0 := by omega
    obtain rfl : m = 0 := by omega
    rw [hu.eq_of_zero, ht.eq_of_zero]
    exact h.announces rfl fun hs => hs

theorem ShowsBytes.series {s : Store} (h : s.ShowsBytes) :
    s.series.filter (·.name == "proxy_cache_bytes") =
      [⟨"proxy_cache_bytes", [("pool", "heap")], s.stats.heapBytes⟩,
        ⟨"proxy_cache_bytes", [("pool", "direct")], s.stats.directBytes⟩] := by
  have hcounter (name : String) (labels : List (String × String)) (n : Nat)
      (hn : name ≠ "proxy_cache_bytes") :
      (Series.counter name labels n).filter (·.name == "proxy_cache_bytes") = [] := by
    unfold Series.counter
    split <;> simp [hn]
  have hs : s.published = _ := h
  simp [Store.series, hs, hcounter]

end Store

namespace Session

/-- What holds in every state of a session. -/
structure Accounted (s : Session) : Prop where
  balanced : s.store.Balanced
  shown : s.store.Shown
  captures : ∀ id c, s.captures id = some c → c.Counted
  entries : ∀ l ∈ s.store.live, l.entry.Counted

theorem start_accounted (p : Policy) : (start p).Accounted where
  balanced := start_balanced p
  shown := .inl rfl
  captures := by intro id c h; cases h
  entries := by intro l h; cases h

theorem step_announces {s : Session} (h : s.Accounted) (e : Event) :
    s.store.Announces (s.step e).store := by
  rcases step_store s e with he | ⟨_, c, _, _, he⟩ | ⟨key, _, he⟩ | ⟨_, he⟩ <;> rw [he]
  · exact h.shown.announces rfl fun hs => hs
  · exact Store.announces_commit h.shown c e.now
  · exact Store.announces_lookup h.balanced.distinct h.shown key e.now
  · exact Store.announces_sweep h.balanced.distinct h.shown e.now

theorem step_captures_counted {s : Session} (h : s.Accounted) (e : Event) (id : Nat) (c : Capture)
    (hc : (s.step e).captures id = some c) : c.Counted := by
  rcases step_capture hc with hc | ⟨key, request, _, hb⟩ | ⟨a, status, headers, _, ha, rfl⟩ |
    ⟨a, data, _, ha, rfl⟩
  · exact h.captures id c hc
  · exact Capture.counted_of_fresh (Capture.beginCapture_state hb)
  · cases hd : a.onHead? status headers with
    | none => exact h.captures id a ha
    | some d => exact (h.captures id a ha).onHead? hd
  · exact (h.captures id a ha).onChunk data

theorem step_entries_counted {s : Session} (h : s.Accounted) (e : Event) (l : Live)
    (hl : l ∈ (s.step e).store.live) : l.entry.Counted := by
  rcases step_live h.balanced.distinct hl with ⟨a, ha, rfl | rfl⟩ | ⟨id, c, _, hc, _, he⟩
  · exact h.entries l ha
  · exact h.entries a ha
  · exact (h.captures id c hc).finished? he

theorem step_accounted (s : Session) (e : Event) (h : s.Accounted) : (s.step e).Accounted where
  balanced := step_balanced h.balanced e
  shown := (step_announces h e).shown
  captures := step_captures_counted h e
  entries := step_entries_counted h e

theorem run_accounted (p : Policy) (es : List Event) : ((start p).run es).Accounted :=
  run_induction (start_accounted p) step_accounted es

/-- In every state of every session no key has two entries, the counters are those of the live
entries and their chunks, and no release has subtracted more than was held; and whatever event
comes next, the gauges show the counters after it if it changes the entries. -/
theorem counters_of_live (p : Policy) (es : List Event) :
    let s := (start p).run es
    (s.store.live.map Live.key).Nodup ∧
    s.store.stats.entries = s.store.live.length ∧
    s.store.stats.heapBytes = copiedBytes (s.store.live.flatMap (·.entry.chunks)) ∧
    s.store.stats.directBytes = keptBytes (s.store.live.flatMap (·.entry.chunks)) ∧
    (start p).run? es = some s ∧
    ∀ e, (s.step e).store.live ≠ s.store.live →
      (s.step e).store.series.filter (·.name == "proxy_cache_bytes") =
        [⟨"proxy_cache_bytes", [("pool", "heap")], (s.step e).store.stats.heapBytes⟩,
          ⟨"proxy_cache_bytes", [("pool", "direct")], (s.step e).store.stats.directBytes⟩] := by
  intro s
  have h : s.Accounted := run_accounted p es
  have hc := h.balanced.counted
  refine ⟨h.balanced.distinct, hc.entries, ?_, ?_, run?_eq (start_balanced p) es, ?_⟩
  · rw [hc.heap]
    exact sum_counted rfl copiedBytes_append fun l hl => (h.entries l hl).1
  · rw [hc.direct]
    exact sum_counted rfl keptBytes_append fun l hl => (h.entries l hl).2
  · intro e hne
    exact ((step_announces h e).changed hne).series

theorem counters_of_live_first_commit :
    let s := (start ⟨true, 100, 100, true, 1000, 1000⟩).run
      [⟨0, .capture 7 ⟨"GET", false, "site.test", "/", ""⟩ .empty⟩, ⟨0, .head 7 200 .empty⟩,
        ⟨3, .chunk 7 [104, 105]⟩]
    let t := s.step ⟨5, .commit 7⟩
    t.store.live ≠ s.store.live ∧
      t.store.series.filter (·.name == "proxy_cache_bytes") =
        [⟨"proxy_cache_bytes", [("pool", "heap")], 2⟩,
          ⟨"proxy_cache_bytes", [("pool", "direct")], 0⟩] := by
  intro s t
  have hne : t.store.live ≠ s.store.live := by decide +kernel
  obtain ⟨_, _, _, _, _, h⟩ := counters_of_live ⟨true, 100, 100, true, 1000, 1000⟩
    [⟨0, .capture 7 ⟨"GET", false, "site.test", "/", ""⟩ .empty⟩, ⟨0, .head 7 200 .empty⟩,
      ⟨3, .chunk 7 [104, 105]⟩]
  exact ⟨hne, h ⟨5, .commit 7⟩ hne⟩

end Session
end ReverseProxy.Cache
