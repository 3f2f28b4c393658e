import ReverseProxy.Proofs.Cache.Balance

set_option autoImplicit false

/-!
# A store shared by operations under way

Look-ups, commits and sweeps of a shared store run at the same time. Each of them is a row of
actions; an action happens at once, and between two actions of one operation any actions of others
may happen. Finding an entry and taking it out are two actions, and what an entry was charged with
is given back in a third. An operation that nothing comes between does what the operation of the
store does.
-/
namespace ReverseProxy.Cache
open Http.Date (Instant)

inductive Cause where
  | lookup
  | expiry
  | eviction
deriving DecidableEq, Repr

namespace Store.SweepReport

def note (r : SweepReport) (cause : Cause) (n : Nat) : SweepReport :=
  match cause with
  | .lookup => r
  | .expiry => { r with expired := r.expired + n }
  | .eviction => { r with evicted := r.evicted + n }

theorem note_zero (r : SweepReport) (cause : Cause) : r.note cause 0 = r := by
  cases cause <;> rfl

theorem note_note (r : SweepReport) (cause : Cause) (m n : Nat) :
    (r.note cause m).note cause n = r.note cause (m + n) := by
  cases cause <;> simp [note, Nat.add_assoc]

end Store.SweepReport

/-- What happens at once. -/
inductive Action where
  | find (key : Key) (now : Instant)
  | touch (l : Live) (now : Instant)
  /-- Takes an entry out of the map if it still is the one that was seen. -/
  | take (l : Live) (cause : Cause)
  | release (l : Live)
  | publish
  | count (hit : Bool)
  | put (key : Key) (e : Entry)
  | ask
  | notify
  | pickExpired (now : Instant)
  | weigh (now : Instant)
  | pickOrder (now : Instant)
  | evict (ls : List Live)
  | tally
deriving DecidableEq, Repr

/-- What an action leaves: the store, the count of the sweep it belongs to, and what has to be done
next. -/
structure Effect where
  store : Store
  report : Store.SweepReport
  next : List Action := []
deriving DecidableEq, Repr

/-- Lets an action happen. There is no effect if a counter would have to give back more than it
holds. -/
def Action.perform? (s : Store) (r : Store.SweepReport) : Action → Option Effect
  | .find key now => some ⟨s, r, match s.find? key with
    | some l => if l.entry.isExpired now then [.take l .lookup, .count false]
        else [.touch l now, .count true]
    | none => [.count false]⟩
  | .touch l now => some ⟨s.touch l.key l.serial now, r, []⟩
  | .take l cause => some <| match s.live.find? (Store.isEntry l.key l.serial) with
    | some found => {
        -- The counters still hold what the entry was charged with.
        store := { s with live := s.live.filter fun a => !Store.isEntry l.key l.serial a }
        report := r.note cause 1
        next := .release found :: if cause = .lookup then [.publish] else [] }
    | none => ⟨s, r, []⟩
  | .release l => (s.stats.release? l.entry).map fun stats => ⟨{ s with stats }, r, []⟩
  | .publish => some ⟨s.publish, r, []⟩
  | .count hit => some ⟨if hit then s.countHit else s.countMiss, r, []⟩
  | .put key e => (s.insert? key e).map fun t => ⟨t, r, [.publish, .ask]⟩
  | .ask => some ⟨s, r, if s.overBudget then [.notify] else []⟩
  | .notify => some ⟨{ s with pressure := true }, r, []⟩
  | .pickExpired now =>
    some ⟨s, r, (s.live.filter fun l => l.entry.isExpired now).map (.take · .expiry)⟩
  | .weigh now => some ⟨s, r, if s.overBudget then [.pickOrder now] else []⟩
  | .pickOrder now =>
    some ⟨s, r, [.evict (Store.evictionOrder (Http.Date.unixMillis now) s.live)]⟩
  | .evict [] => some ⟨s, r, []⟩
  | .evict (l :: ls) => some ⟨s, r, if s.overBudget then [.take l .eviction, .evict ls] else []⟩
  | .tally => some <| if 0 < r.expired + r.evicted then
      ⟨{ s with stats := { s.stats with
        evictions := s.stats.evictions + (r.expired + r.evicted) } }, r, [.publish]⟩
    else ⟨s, r, []⟩

namespace Action
variable {s : Store} {r : Store.SweepReport} {l found : Live}

theorem perform?_take_of_none (hf : s.live.find? (Store.isEntry l.key l.serial) = none)
    (cause : Cause) : (take l cause).perform? s r = some ⟨s, r, []⟩ := by
  simp only [perform?, hf]

theorem perform?_take_of_some (hf : s.live.find? (Store.isEntry l.key l.serial) = some found)
    (cause : Cause) : (take l cause).perform? s r = some {
      store := { s with live := s.live.filter fun a => !Store.isEntry l.key l.serial a }
      report := r.note cause 1
      next := .release found :: if cause = .lookup then [.publish] else [] } := by
  simp only [perform?, hf]

def gives (s : Store) : Action → List Live
  | .release l => [l]
  | .put key _ => (s.find? key).toList
  | _ => []

end Action

inductive Job where
  | lookup (key : Key) (now : Instant)
  | commit (c : Capture) (now : Instant)
  | sweep (now : Instant)
deriving DecidableEq, Repr

namespace Job

def actions : Job → List Action
  | .lookup key now => [.find key now]
  | .commit c now => (c.finished? now).toList.map (.put c.key)
  | .sweep now => [.pickExpired now, .weigh now, .tally]

def result (s : Store) : Job → Store
  | .lookup key now => (s.lookup key now).2
  | .commit c now => (s.commit c now).2
  | .sweep now => (s.sweep now).2

end Job

structure Thread where
  todo : List Action
  report : Store.SweepReport := ⟨0, 0⟩
deriving DecidableEq, Repr

/-- A store with the operations under way on it. -/
structure Shared where
  store : Store
  threads : List Thread := []
  given : List Live := []
deriving DecidableEq, Repr

inductive Shared.Event where
  | begin (job : Job)
  | go (thread : Nat)
deriving DecidableEq, Repr

namespace Shared

def start (p : Policy) : Shared := ⟨{ policy := p }, [], []⟩

def begin (s : Shared) (job : Job) : Shared :=
  { s with threads := s.threads ++ [{ todo := job.actions }] }

def go? (s : Shared) (i : Nat) : Option Shared :=
  match s.threads[i]? with
  | some ⟨a :: rest, r⟩ => (a.perform? s.store r).map fun e => {
      store := e.store
      threads := s.threads.set i ⟨e.next ++ rest, e.report⟩
      given := s.given ++ a.gives s.store }
  | _ => some s

def step? (s : Shared) : Event → Option Shared
  | .begin job => some (s.begin job)
  | .go i => s.go? i

def run? (s : Shared) (es : List Event) : Option Shared := es.foldlM step? s

end Shared

/-- The thread `u` has the store `s` for itself until it is left as `v`. -/
inductive Alone : Store → Thread → Store → Thread → Prop where
  | refl (s : Store) (u : Thread) : Alone s u s u
  | step {s : Store} {a : Action} {rest : List Action} {r : Store.SweepReport} {e : Effect}
    {t : Store} {v : Thread} (happens : a.perform? s r = some e)
    (goesOn : Alone e.store ⟨e.next ++ rest, e.report⟩ t v) : Alone s ⟨a :: rest, r⟩ t v

namespace Alone
variable {s t s' : Store} {u v w : Thread} {r : Store.SweepReport}

theorem trans (h : Alone s u t v) (h' : Alone t v s' w) : Alone s u s' w := by
  induction h with
  | refl => exact h'
  | step happens _ ih => exact .step happens (ih h')

theorem one {a : Action} {rest : List Action} {e : Effect} (h : a.perform? s r = some e) :
    Alone s ⟨a :: rest, r⟩ e.store ⟨e.next ++ rest, e.report⟩ := .step h (.refl _ _)

theorem remove (h : s.Balanced) (l : Live) (cause : Cause) (rest : List Action) :
    Alone s ⟨.take l cause :: rest, r⟩ (s.removeExact l.key l.serial).2
      ⟨(if (s.removeExact l.key l.serial).1 ∧ cause = .lookup then [.publish] else []) ++ rest,
        r.note cause (s.removeExact l.key l.serial).1.toNat⟩ := by
  cases hf : s.live.find? (Store.isEntry l.key l.serial) with
  | none =>
    have hremove : s.removeExact l.key l.serial = (false, s) := by simp only [Store.removeExact, hf]
    have htake : Alone s ⟨.take l cause :: rest, r⟩ s ⟨[] ++ rest, r⟩ :=
      one (Action.perform?_take_of_none hf cause)
    simpa only [hremove, Bool.false_eq_true, false_and, if_false, Bool.toNat_false,
      Store.SweepReport.note_zero] using htake
  | some found =>
    have hremove : s.removeExact l.key l.serial = (true, { s with
        live := s.live.filter fun a => !Store.isEntry l.key l.serial a
        stats := s.stats.release found.entry }) := by
      simp only [Store.removeExact, hf]
    have hcovers := (h.covers (List.mem_of_find?_eq_some hf)).release?
    simp only [hremove, true_and, Bool.toNat_true]
    refine .step (Action.perform?_take_of_some hf cause) (one (e := {
        store := { s with
          live := s.live.filter fun a => !Store.isEntry l.key l.serial a
          stats := s.stats.release found.entry }
        report := r.note cause 1 }) ?_)
    simp only [Action.perform?, hcovers, Option.map_some]

theorem removeAll (h : s.Balanced) (ls : List Live) (rest : List Action) :
    Alone s ⟨ls.map (.take · .expiry) ++ rest, r⟩ (s.removeAll ls).2
      ⟨rest, r.note .expiry (s.removeAll ls).1⟩ := by
  induction ls generalizing s r with
  | nil => exact .refl _ _
  | cons l ls ih =>
    have hone := remove (r := r) h l .expiry (ls.map (.take · .expiry) ++ rest)
    have hrest := ih (r := r.note .expiry (s.removeExact l.key l.serial).1.toNat)
      (h.removeExact l.key l.serial)
    simp only [reduceCtorEq, and_false, if_false, List.nil_append] at hone
    rw [Store.SweepReport.note_note] at hrest
    have hcount : (s.removeAll (l :: ls)).1 = (s.removeExact l.key l.serial).1.toNat +
        ((s.removeExact l.key l.serial).2.removeAll ls).1 := by
      simp only [Store.removeAll]
      cases (s.removeExact l.key l.serial).1 <;> simp [Nat.add_comm]
    rw [hcount]
    exact hone.trans hrest

theorem evict (h : s.Balanced) (ls : List Live) (rest : List Action) :
    Alone s ⟨.evict ls :: rest, r⟩ (s.evict ls).2 ⟨rest, r.note .eviction (s.evict ls).1⟩ := by
  induction ls generalizing s r with
  | nil => exact one (e := ⟨s, r, []⟩) rfl
  | cons l ls ih =>
    cases hb : s.overBudget with
    | false =>
      simp only [Store.evict, hb]
      exact one (e := ⟨s, r, []⟩) (by simp only [Action.perform?, hb]; rfl)
    | true =>
      have hone := remove (r := r) h l .eviction (.evict ls :: rest)
      have hrest := ih (r := r.note .eviction (s.removeExact l.key l.serial).1.toNat)
        (h.removeExact l.key l.serial)
      simp only [reduceCtorEq, and_false, if_false, List.nil_append] at hone
      rw [Store.SweepReport.note_note] at hrest
      have hcount : (s.evict (l :: ls)).1 = (s.removeExact l.key l.serial).1.toNat +
          ((s.removeExact l.key l.serial).2.evict ls).1 := by
        simp only [Store.evict, hb, if_true]
        cases (s.removeExact l.key l.serial).1 <;> simp [Nat.add_comm]
      have hstore : (s.evict (l :: ls)).2 = ((s.removeExact l.key l.serial).2.evict ls).2 := by
        simp only [Store.evict, hb, if_true]
      rw [hcount, hstore]
      refine .step (e := ⟨s, r, [.take l .eviction, .evict ls]⟩) ?_ (hone.trans hrest)
      simp only [Action.perform?, hb, if_true]

theorem lookup (h : s.Balanced) (key : Key) (now : Instant) :
    Alone s ⟨[.find key now], r⟩ (s.lookup key now).2 ⟨[], r⟩ := by
  rcases Store.lookup_cases h.distinct key now with ⟨hf, he⟩ | ⟨l, hf, hx, he⟩ | ⟨l, hf, hx, he⟩ <;>
    rw [he]
  · refine .step (e := ⟨s, r, [.count false]⟩) (by simp only [Action.perform?, hf]) ?_
    exact one (e := ⟨s.countMiss, r, []⟩) rfl
  · have hexpired : l.entry.isExpired now = true := decide_eq_true hx
    refine .step (e := ⟨s, r, [.take l .lookup, .count false]⟩)
      (by simp only [Action.perform?, hf, hexpired, if_true]) ?_
    have hl : l ∈ s.live := ((Store.find?_eq_some_iff h.distinct).1 hf).1
    have hremove := remove (r := r) h l .lookup [.count false]
    rw [Store.removeExact_of_mem h.distinct hl] at hremove
    refine hremove.trans (.step (e := ⟨(s.drop l).publish, r, []⟩) rfl ?_)
    exact one (e := ⟨(s.drop l).publish.countMiss, r, []⟩) rfl
  · have hfresh : l.entry.isExpired now = false := decide_eq_false (Int.not_le.2 hx)
    refine .step (e := ⟨s, r, [.touch l now, .count true]⟩)
      (by simp [Action.perform?, hf, hfresh]) ?_
    refine .step (e := ⟨s.touch l.key l.serial now, r, []⟩) rfl ?_
    exact one (e := ⟨(s.touch l.key l.serial now).countHit, r, []⟩) rfl

theorem commit (h : s.Balanced) (c : Capture) (now : Instant) :
    Alone s ⟨(c.finished? now).toList.map (.put c.key), r⟩ (s.commit c now).2 ⟨[], r⟩ := by
  cases hf : c.finished? now with
  | none =>
    simp only [Store.commit, hf]
    exact .refl s _
  | some e =>
    simp only [Store.commit, hf]
    refine .step (e := ⟨s.insert c.key e, r, [.publish, .ask]⟩)
      (by simp only [Action.perform?, h.insert?, Option.map_some]) ?_
    refine .step (e := ⟨(s.insert c.key e).publish, r, []⟩) rfl ?_
    cases hb : (s.insert c.key e).publish.overBudget with
    | false =>
      exact one (e := ⟨(s.insert c.key e).publish, r, []⟩) (by simp [Action.perform?, hb])
    | true =>
      refine .step (e := ⟨(s.insert c.key e).publish, r, [.notify]⟩)
        (by simp only [Action.perform?, hb, if_true]) ?_
      exact one (e := ⟨_, r, []⟩) rfl

theorem evictInOrder (h : s.Balanced) (now : Instant) (rest : List Action) :
    Alone s ⟨.weigh now :: rest, r⟩
      (s.evict (Store.evictionOrder (Http.Date.unixMillis now) s.live)).2
      ⟨rest, r.note .eviction
        (s.evict (Store.evictionOrder (Http.Date.unixMillis now) s.live)).1⟩ := by
  cases hb : s.overBudget with
  | true =>
    refine .step (e := ⟨s, r, [.pickOrder now]⟩)
      (by simp only [Action.perform?, hb, if_true]) (.step rfl ?_)
    exact evict h _ rest
  | false =>
    have hnone (ls : List Live) : s.evict ls = (0, s) := by
      cases ls <;> simp [Store.evict, hb]
    rw [hnone, Store.SweepReport.note_zero]
    exact one (e := ⟨s, r, []⟩) (by simp [Action.perform?, hb])

theorem tally : Alone s ⟨[.tally], r⟩
    (if 0 < r.expired + r.evicted then
      { s with stats := { s.stats with
        evictions := s.stats.evictions + (r.expired + r.evicted) } }.publish
    else s) ⟨[], r⟩ := by
  split
  · next hsome =>
    refine .step (e := ⟨_, r, [.publish]⟩) (by simp only [Action.perform?, hsome, if_true]; rfl) ?_
    exact one (e := ⟨_, r, []⟩) rfl
  · next hnone => exact one (e := ⟨s, r, []⟩) (by simp only [Action.perform?, hnone, if_false])

theorem sweep (h : s.Balanced) (now : Instant) :
    Alone s ⟨[.pickExpired now, .weigh now, .tally], ⟨0, 0⟩⟩ (s.sweep now).2
      ⟨[], (s.sweep now).1⟩ := by
  let expired := s.live.filter fun l => l.entry.isExpired now
  let t := (s.removeAll expired).2
  have ht : t.Balanced := h.drops (Store.removeAll_drops h.distinct expired)
  have hexpired := removeAll (r := ⟨0, 0⟩) h expired [.weigh now, .tally]
  have hevict := evictInOrder
    (r := (⟨0, 0⟩ : Store.SweepReport).note .expiry (s.removeAll expired).1) ht now [.tally]
  have hreport : ((⟨0, 0⟩ : Store.SweepReport).note .expiry (s.removeAll expired).1).note .eviction
      (t.evict (Store.evictionOrder (Http.Date.unixMillis now) t.live)).1 = (s.sweep now).1 := by
    simp only [Store.SweepReport.note, Nat.zero_add]
    rfl
  rw [hreport] at hevict
  exact .step rfl (hexpired.trans (hevict.trans tally))

theorem job (h : s.Balanced) (j : Job) :
    ∃ r', Alone s { todo := j.actions } (j.result s) ⟨[], r'⟩ := by
  cases j with
  | lookup key now => exact ⟨_, lookup h key now⟩
  | commit c now => exact ⟨_, commit h c now⟩
  | sweep now => exact ⟨_, sweep h now⟩

end Alone

namespace Shared

theorem run?_append {s t : Shared} {es fs : List Event} (h : s.run? es = some t) :
    s.run? (es ++ fs) = t.run? fs := by
  rw [run?, List.foldlM_append]
  change (s.run? es).bind _ = _
  rw [h]
  rfl

theorem run?_of_alone {s t : Store} {u v : Thread} (h : Alone s u t v) (before : List Thread)
    (given : List Live) : ∃ n given',
      (Shared.mk s (before ++ [u]) given).run? (List.replicate n (.go before.length)) =
        some ⟨t, before ++ [v], given'⟩ := by
  -- By induction on what the thread does; the threads before it stay as they are.
  induction h generalizing given with
  | refl s u => exact ⟨0, given, rfl⟩
  | @step s a rest r e t v happens _ ih =>
    obtain ⟨n, given', hrun⟩ := ih (given ++ a.gives s)
    refine ⟨n + 1, given', ?_⟩
    have hstep : (Shared.mk s (before ++ [⟨a :: rest, r⟩]) given).step? (.go before.length) =
        some ⟨e.store, before ++ [⟨e.next ++ rest, e.report⟩], given ++ a.gives s⟩ := by
      simp [step?, go?, happens]
    rw [List.replicate_succ, run?, List.foldlM_cons, hstep]
    exact hrun

/-- An operation that begins on a balanced store and that nothing comes between does what the
operation of the store does. -/
theorem run?_job (s : Shared) (h : s.store.Balanced) (job : Job) : ∃ n r given,
    s.run? (.begin job :: List.replicate n (.go s.threads.length)) =
      some ⟨job.result s.store, s.threads ++ [⟨[], r⟩], given⟩ := by
  obtain ⟨r, halone⟩ := Alone.job h job
  obtain ⟨n, given, hrun⟩ := run?_of_alone halone s.threads s.given
  exact ⟨n, r, given, hrun⟩

end Shared
end ReverseProxy.Cache
