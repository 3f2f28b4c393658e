import Mathlib.Data.List.Induction
import ReverseProxy.Proofs.Cache.Session

set_option autoImplicit false

namespace ReverseProxy.Cache
open Http.Date (Instant)

def Entry.unused (e : Entry) : Entry := { e with lastAccessMs := 0 }

def Capture.Leaves (c : Capture) (created : Instant) (e : Entry) : Prop :=
  ∃ head body, c.state = .recording head body ∧ e = {
    status := head.status
    headers := head.headers
    chunks := body.chunks
    heapBytes := body.heapBytes
    directBytes := body.directBytes
    lastModified := head.lastModified.getD created
    created
    expires := head.expires
    expiresHeader := head.expiresHeader
    lastAccessMs := Http.Date.unixMillis created }

theorem Capture.finished?_eq_some_iff {c : Capture} {now : Instant} {e : Entry} :
    c.finished? now = some e ↔ c.Leaves now e := by
  unfold Capture.finished? Capture.Leaves
  split
  · next head body h =>
    constructor
    · intro he
      exact ⟨head, body, h, (Option.some.inj he).symm⟩
    · rintro ⟨head', body', h', rfl⟩
      rw [h] at h'
      cases h'
      rfl
  · next h =>
    constructor
    · intro he
      cases he
    · rintro ⟨head, body, h', _⟩
      exact absurd h' (h head body)

namespace Store

/-- What is stored under a key, apart from the time of its last use. -/
def stored? (s : Store) (key : Key) : Option Entry := (s.find? key).map fun l => l.entry.unused

theorem stored?_lookup_iff {s : Store} (hd : s.Distinct) (other key : Key) (now : Instant)
    (u : Entry) : (s.lookup other now).2.stored? key = some u ↔
      s.stored? key = some u ∧ ¬(other = key ∧ u.expires ≤ now) := by
  rcases lookup_cases hd other now with ⟨hn, e⟩ | ⟨l, hf, hx, e⟩ | ⟨l, hf, hx, e⟩ <;> rw [e]
  · change s.stored? key = some u ↔ _
    constructor
    · intro h
      refine ⟨h, ?_⟩
      rintro ⟨rfl, _⟩
      simp [stored?, hn] at h
    · exact fun h => h.1
  · obtain ⟨hl, rfl⟩ := (find?_eq_some_iff hd).1 hf
    change ((s.drop l).find? key).map _ = some u ↔ _
    rw [find?_drop]
    by_cases hk : key = l.key
    · subst hk
      simp only [if_true, Option.map_none, reduceCtorEq, true_and, false_iff, not_and, not_not]
      intro h
      simp only [stored?, hf, Option.map_some, Option.some.injEq] at h
      subst h
      exact hx
    · have hk' : ¬l.key = key := fun e => hk e.symm
      simp [hk, hk', stored?]
  · obtain ⟨hl, rfl⟩ := (find?_eq_some_iff hd).1 hf
    change ((s.touch l.key l.serial now).find? key).map _ = some u ↔ _
    rw [find?_touch hd hl]
    by_cases hk : key = l.key
    · subst hk
      simp only [if_true, Option.map_some, stored?, hf, true_and]
      constructor
      · intro h
        refine ⟨h, ?_⟩
        rw [← Option.some.inj h]
        exact Int.not_le.2 hx
      · exact fun h => h.1
    · have hk' : ¬l.key = key := fun e => hk e.symm
      simp [hk, hk', stored?]

theorem commit_eq_true_iff (s : Store) (c : Capture) (now : Instant) :
    (s.commit c now).1 = true ↔ ∃ e, c.Leaves now e := by
  simp only [← Capture.finished?_eq_some_iff]
  rcases commit_cases s c now with ⟨h, e⟩ | ⟨e, h, he⟩
  · simp [e, h]
  · simp [he, h]

theorem stored?_commit_iff (s : Store) (c : Capture) (key : Key) (now : Instant) (u : Entry) :
    (s.commit c now).2.stored? key = some u ↔
      (c.key = key ∧ ∃ e, c.Leaves now e ∧ u = e.unused) ∨
        (s.stored? key = some u ∧ ¬(c.key = key ∧ (s.commit c now).1 = true)) := by
  simp only [commit_eq_true_iff, ← Capture.finished?_eq_some_iff]
  rcases commit_cases s c now with ⟨h, e⟩ | ⟨e, h, he⟩
  · simp [e, h]
  · have hstored : (s.commit c now).2.stored? key =
        if key = c.key then some e.unused else s.stored? key := by
      rw [he]
      change ((s.insert c.key e).find? key).map _ = _
      rw [find?_insert]
      split <;> rfl
    rw [hstored]
    by_cases hk : key = c.key
    · simp [hk, h, eq_comm]
    · have hk' : ¬c.key = key := fun e => hk e.symm
      simp [hk, hk']

theorem stored?_sweep_iff {s : Store} (hd : s.Distinct) (key : Key) (now : Instant) (u : Entry) :
    (s.sweep now).2.stored? key = some u ↔
      s.stored? key = some u ∧ ¬(s.sweep now).2.find? key = none := by
  obtain ⟨n, m, t, v, ht, hv, _, he⟩ := sweep_cases hd now
  have hfind : (s.sweep now).2.find? key = v.find? key := by
    rw [he]
    split <;> rfl
  simp only [stored?, hfind]
  cases hf : v.find? key with
  | none => simp
  | some l =>
    rw [(ht.trans hv).find?_of_find? hd hf]
    simp

theorem lookup_eq_some_iff {s : Store} (hd : s.Distinct) (key : Key) (now : Instant) (r : Entry) :
    (s.lookup key now).1 = some r ↔ ∃ u, s.stored? key = some u ∧ now < u.expires ∧
      r = { u with lastAccessMs := Http.Date.unixMillis now } := by
  rcases lookup_cases hd key now with ⟨hn, e⟩ | ⟨l, hf, hx, e⟩ | ⟨l, hf, hx, e⟩ <;> rw [e]
  · simp [stored?, hn]
  · have hx' : ¬now < l.entry.unused.expires := Int.not_lt.2 hx
    simp [stored?, hf, hx']
  · have hx' : now < l.entry.unused.expires := hx
    simp only [stored?, hf, Option.map_some, Option.some.injEq, exists_eq_left', hx', true_and]
    exact eq_comm

theorem lookup_expired {s : Store} (hd : s.Distinct) {key : Key} {now : Instant} {l : Live}
    (hf : s.find? key = some l) (hx : l.entry.expires ≤ now) :
    (s.lookup key now).1 = none ∧
      (∀ other, (s.lookup key now).2.find? other = if other = key then none else s.find? other) ∧
      (s.lookup key now).2.stats.hits = s.stats.hits ∧
      (s.lookup key now).2.stats.misses = s.stats.misses + 1 := by
  obtain ⟨_, rfl⟩ := (find?_eq_some_iff hd).1 hf
  rcases lookup_cases hd l.key now with ⟨hn, _⟩ | ⟨a, ha, _, e⟩ | ⟨a, ha, hx', _⟩
  · rw [hf] at hn
    cases hn
  · rw [hf] at ha
    cases ha
    rw [e]
    exact ⟨rfl, find?_drop s l, rfl, rfl⟩
  · rw [hf] at ha
    cases ha
    exact absurd hx (Int.not_le.2 hx')

theorem lookup_counts {s : Store} (hd : s.Distinct) (key : Key) (now : Instant) :
    (s.lookup key now).2.stats.hits + (s.lookup key now).2.stats.misses =
      s.stats.hits + s.stats.misses + 1 := by
  rcases lookup_cases hd key now with ⟨_, e⟩ | ⟨l, _, _, e⟩ | ⟨l, _, _, e⟩ <;> rw [e]
  · rfl
  · rfl
  · exact Nat.add_right_comm s.stats.hits 1 s.stats.misses

theorem commit_counts (s : Store) (c : Capture) (now : Instant) :
    (s.commit c now).2.stats.hits = s.stats.hits ∧
      (s.commit c now).2.stats.misses = s.stats.misses := by
  rcases commit_cases s c now with ⟨_, he⟩ | ⟨e, _, he⟩ <;> rw [he]
  · exact ⟨rfl, rfl⟩
  · change (s.insert c.key e).stats.hits = _ ∧ (s.insert c.key e).stats.misses = _
    unfold insert
    cases s.find? c.key <;> exact ⟨rfl, rfl⟩

theorem sweep_counts {s : Store} (hd : s.Distinct) (now : Instant) :
    (s.sweep now).2.stats.hits = s.stats.hits ∧ (s.sweep now).2.stats.misses = s.stats.misses := by
  obtain ⟨n, m, t, u, ht, hu, _, he⟩ := sweep_cases hd now
  obtain ⟨_, _, _, _, hhits, hmisses, _⟩ := (ht.trans hu).frame
  rw [he]
  split <;> exact ⟨hhits, hmisses⟩

end Store

def Event.isLookup (e : Event) : Bool :=
  match e.op with
  | .lookup _ => true
  | _ => false

namespace Session

def Commits (s : Session) (e : Event) (key : Key) (c : Capture) : Prop :=
  ∃ id, e.op = .commit id ∧ s.captures id = some c ∧ c.key = key ∧
    (s.store.commit c e.now).1 = true

/-- The event ends the time of an entry under `key`: another one is committed, a look-up finds it
expired, or a sweep takes it out. -/
def Disturbs (s : Session) (e : Event) (key : Key) (expires : Instant) : Prop :=
  (∃ c, s.Commits e key c) ∨ (e.op = .lookup key ∧ expires ≤ e.now) ∨
    (e.op = .sweep ∧ (s.step e).store.find? key = none)

def Keeps (s : Session) (key : Key) (expires : Instant) : List Event → Prop
  | [] => True
  | e :: es => ¬s.Disturbs e key expires ∧ (s.step e).Keeps key expires es

/-- The last successful commit under `key` left `entry` behind, and nothing disturbed it since. -/
def Holds (s : Session) (es : List Event) (key : Key) (entry : Entry) : Prop :=
  ∃ before e after c, es = before ++ e :: after ∧ (s.run before).Commits e key c ∧
    c.Leaves e.now entry ∧ (s.run (before ++ [e])).Keeps key entry.expires after

theorem keeps_concat (s : Session) (key : Key) (expires : Instant) (es : List Event) (e : Event) :
    s.Keeps key expires (es ++ [e]) ↔
      s.Keeps key expires es ∧ ¬(s.run es).Disturbs e key expires := by
  induction es generalizing s with
  | nil => simp [Keeps, run]
  | cons f es ih =>
    simp only [List.cons_append, Keeps, ih, and_assoc]
    rfl

theorem holds_concat (s : Session) (es : List Event) (e : Event) (key : Key) (entry : Entry) :
    s.Holds (es ++ [e]) key entry ↔
      (∃ c, (s.run es).Commits e key c ∧ c.Leaves e.now entry) ∨
        (s.Holds es key entry ∧ ¬(s.run es).Disturbs e key entry.expires) := by
  constructor
  · rintro ⟨before, f, after, c, hes, hc, hl, hk⟩
    rcases List.eq_nil_or_concat after with rfl | ⟨after, g, rfl⟩
    · obtain ⟨rfl, hf⟩ := List.append_inj' hes rfl
      cases hf
      exact .inl ⟨c, hc, hl⟩
    · -- The commit lies further back, so the last event comes after it.
      rw [List.concat_eq_append] at hes hk
      have hsplit : es ++ [e] = (before ++ f :: after) ++ [g] := by
        simpa using hes
      obtain ⟨rfl, hg⟩ := List.append_inj' hsplit rfl
      cases hg
      obtain ⟨hk, hn⟩ := (keeps_concat _ _ _ _ _).1 hk
      refine .inr ⟨⟨before, f, after, c, rfl, hc, hl, hk⟩, ?_⟩
      rw [← run_append] at hn
      simpa using hn
  · rintro (⟨c, hc, hl⟩ | ⟨⟨before, f, after, c, rfl, hc, hl, hk⟩, hn⟩)
    · exact ⟨es, e, [], c, rfl, hc, hl, trivial⟩
    · refine ⟨before, f, after ++ [e], c, by simp, hc, hl, (keeps_concat _ _ _ _ _).2 ⟨hk, ?_⟩⟩
      rw [← run_append]
      simpa using hn

theorem step_stored?_iff {s : Session} (hd : s.store.Distinct) (e : Event) (key : Key) (u : Entry) :
    (s.step e).store.stored? key = some u ↔
      (∃ c entry, s.Commits e key c ∧ c.Leaves e.now entry ∧ u = entry.unused) ∨
        (s.store.stored? key = some u ∧ ¬s.Disturbs e key u.expires) := by
  cases ho : e.op with
  | capture | head | chunk | abort =>
    simp [step, ho, Disturbs, Commits, feed, setCapture]
  | lookup other =>
    simp [step, ho, Disturbs, Commits, Store.stored?_lookup_iff hd]
  | sweep =>
    simp [step, ho, Disturbs, Commits, Store.stored?_sweep_iff hd]
  | commit id =>
    cases hc : s.captures id with
    | none => simp [step, ho, hc, Disturbs, Commits]
    | some c =>
      -- Only the capture that is open under this number can be the one committed.
      have hcommits : ∀ d, s.Commits e key d ↔
          d = c ∧ c.key = key ∧ (s.store.commit c e.now).1 = true := by
        intro d
        simp only [Commits, ho, Operation.commit.injEq, exists_eq_left', hc, Option.some.injEq]
        constructor
        · rintro ⟨rfl, h⟩
          exact ⟨rfl, h⟩
        · rintro ⟨rfl, h⟩
          exact ⟨rfl, h⟩
      have hstore : (s.step e).store = (s.store.commit c e.now).2 := by
        simp only [step, ho, hc]
      rw [hstore, Store.stored?_commit_iff]
      simp only [Disturbs, hcommits, ho, reduceCtorEq, false_and, or_false, exists_eq_left]
      constructor
      · rintro (⟨hk, entry, hl, rfl⟩ | h)
        · exact .inl ⟨c, entry, ⟨rfl, hk, (Store.commit_eq_true_iff _ _ _).2 ⟨entry, hl⟩⟩, hl, rfl⟩
        · exact .inr h
      · rintro (⟨d, entry, ⟨rfl, hk, _⟩, hl, rfl⟩ | h)
        · exact .inl ⟨hk, entry, hl, rfl⟩
        · exact .inr h

theorem run_stored?_iff (p : Policy) (es : List Event) (key : Key) (u : Entry) :
    ((start p).run es).store.stored? key = some u ↔
      ∃ entry, (start p).Holds es key entry ∧ u = entry.unused := by
  induction es using List.reverseRecOn generalizing u with
  | nil =>
    constructor
    · intro h
      cases h
    · rintro ⟨entry, ⟨before, e, after, c, h, _⟩, _⟩
      simp at h
  | append_singleton es e ih =>
    rw [run_concat, step_stored?_iff (run_balanced p es).distinct, ih]
    constructor
    · rintro (⟨c, entry, hc, hl, rfl⟩ | ⟨⟨entry, hh, rfl⟩, hn⟩)
      · exact ⟨entry, (holds_concat _ _ _ _ _).2 (.inl ⟨c, hc, hl⟩), rfl⟩
      · exact ⟨entry, (holds_concat _ _ _ _ _).2 (.inr ⟨hh, hn⟩), rfl⟩
    · rintro ⟨entry, hh, rfl⟩
      rcases (holds_concat _ _ _ _ _).1 hh with ⟨c, hc, hl⟩ | ⟨hh, hn⟩
      · exact .inl ⟨c, entry, hc, hl, rfl⟩
      · exact .inr ⟨⟨entry, hh, rfl⟩, hn⟩

theorem step_counts {s : Session} (hd : s.store.Distinct) (e : Event) :
    if e.isLookup then
      (s.step e).store.stats.hits + (s.step e).store.stats.misses =
        s.store.stats.hits + s.store.stats.misses + 1
    else (s.step e).store.stats.hits = s.store.stats.hits ∧
      (s.step e).store.stats.misses = s.store.stats.misses := by
  cases ho : e.op with
  | capture | head | chunk | abort => simp [step, ho, Event.isLookup, feed, setCapture]
  | lookup key => simpa [step, ho, Event.isLookup] using Store.lookup_counts hd key e.now
  | sweep => simpa [step, ho, Event.isLookup] using Store.sweep_counts hd e.now
  | commit id =>
    cases hc : s.captures id with
    | none => simp [step, ho, hc, Event.isLookup]
    | some c => simpa [step, ho, hc, Event.isLookup] using Store.commit_counts s.store c e.now

theorem run_counts (p : Policy) (es : List Event) :
    ((start p).run es).store.stats.hits + ((start p).run es).store.stats.misses =
      es.countP Event.isLookup := by
  induction es using List.reverseRecOn with
  | nil => rfl
  | append_singleton es e ih =>
    have hstep := step_counts (run_balanced p es).distinct e
    rw [run_concat, List.countP_append, List.countP_singleton, ← ih]
    split
    · next he => simpa only [he, if_true] using hstep
    · next he =>
      simp only [he, Bool.false_eq_true, if_false] at hstep
      rw [hstep.1, hstep.2, Nat.add_zero]

/-- In every state of every session, whatever the clocks: a look-up answers with the entry of the
last successful commit under its key, as that commit left it apart from the time of its last use,
if nothing has ended its time since and it has not expired, and with nothing otherwise; an expired
entry that it finds is removed and answered as a miss; and the hits and misses are the look-ups,
which no other event changes. -/
theorem lookup_of_last_commit (p : Policy) (es : List Event) (key : Key) (now : Instant) :
    let s := (start p).run es
    (∀ r, (s.store.lookup key now).1 = some r ↔
      ∃ entry, (start p).Holds es key entry ∧ now < entry.expires ∧
        r = { entry with lastAccessMs := Http.Date.unixMillis now }) ∧
    (∀ l, s.store.find? key = some l → l.entry.expires ≤ now →
      (s.store.lookup key now).1 = none ∧
      (∀ other, (s.store.lookup key now).2.find? other =
        if other = key then none else s.store.find? other) ∧
      (s.store.lookup key now).2.stats.hits = s.store.stats.hits ∧
      (s.store.lookup key now).2.stats.misses = s.store.stats.misses + 1) ∧
    s.store.stats.hits + s.store.stats.misses = es.countP Event.isLookup ∧
    (∀ e : Event, e.isLookup = false → (s.step e).store.stats.hits = s.store.stats.hits ∧
      (s.step e).store.stats.misses = s.store.stats.misses) := by
  intro s
  have hd : s.store.Distinct := (run_balanced p es).distinct
  refine ⟨?_, ?_, run_counts p es, ?_⟩
  · intro r
    rw [Store.lookup_eq_some_iff hd]
    constructor
    · rintro ⟨u, hu, hx, rfl⟩
      obtain ⟨entry, hh, rfl⟩ := (run_stored?_iff p es key u).1 hu
      exact ⟨entry, hh, hx, rfl⟩
    · rintro ⟨entry, hh, hx, rfl⟩
      exact ⟨entry.unused, (run_stored?_iff p es key _).2 ⟨entry, hh, rfl⟩, hx, rfl⟩
  · intro l hl hx
    exact Store.lookup_expired hd hl hx
  · intro e he
    have hstep := step_counts hd e
    simpa only [he, Bool.false_eq_true, if_false] using hstep

theorem lookup_of_last_commit_expired :
    let p : Policy := ⟨true, 100, 100, true, 1000, 1000⟩
    let key : Key := ⟨"GET", false, "site.test", "/", ""⟩
    let s := (start p).run [⟨0, .capture 7 key .empty⟩, ⟨0, .head 7 200 .empty⟩,
      ⟨3, .chunk 7 [104, 105]⟩, ⟨5, .commit 7⟩, ⟨6, .lookup key⟩]
    (∃ l, s.store.find? key = some l ∧ l.entry.expires ≤ 2000) ∧
      (s.store.lookup key 2000).1 = none ∧
      (s.store.lookup key 2000).2.stats.misses = 1 ∧
      (s.step ⟨2000, .sweep⟩).store.stats.hits = 1 := by
  intro p key s
  have hfound : ∃ l, s.store.find? key = some l ∧ l.entry.expires ≤ 2000 := by
    refine ⟨(s.store.find? key).get (by decide +kernel), ?_, by decide +kernel⟩
    rw [Option.some_get]
  obtain ⟨l, hl, hx⟩ := hfound
  obtain ⟨_, hexpired, _, hcounts⟩ := lookup_of_last_commit p [⟨0, .capture 7 key .empty⟩,
    ⟨0, .head 7 200 .empty⟩, ⟨3, .chunk 7 [104, 105]⟩, ⟨5, .commit 7⟩, ⟨6, .lookup key⟩] key 2000
  obtain ⟨hnone, _, _, hmisses⟩ := hexpired l hl hx
  have hzero : s.store.stats.misses = 0 := by decide +kernel
  have hhits : s.store.stats.hits = 1 := by decide +kernel
  refine ⟨⟨l, hl, hx⟩, hnone, ?_, ?_⟩
  · rw [hmisses, hzero]
  · rw [(hcounts ⟨2000, .sweep⟩ rfl).1, hhits]

end Session
end ReverseProxy.Cache
