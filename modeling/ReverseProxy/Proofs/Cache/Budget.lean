import Mathlib.Algebra.Order.BigOperators.Group.List
import ReverseProxy.Cache.Maintenance
import ReverseProxy.Proofs.Cache.Removals
import ReverseProxy.Proofs.Cache.Sweeping

set_option autoImplicit false

/-!
# The budget of a store that is maintained

Entries come in at any time, and only maintenance brings a store back within its budget. A store
over its budget is never forgotten: some commit is about to ask for maintenance, maintenance has
been asked for, or it runs and will see to it. A request that comes while maintenance runs is kept
until the task waits again.
-/
namespace ReverseProxy.Cache
open Http.Date (Instant)

def Live.outline (l : Live) : (Key × Nat) × Nat := (l.name, l.entry.footprint)

theorem bytesOf_le {xs ys : List Live} (h : (xs.map Live.outline).Sublist (ys.map Live.outline)) :
    bytesOf xs ≤ bytesOf ys := by
  have hsum (ls : List Live) : bytesOf ls = ((ls.map Live.outline).map Prod.snd).sum := by
    rw [List.map_map]
    rfl
  rw [hsum, hsum]
  exact (h.map Prod.snd).sum_le_sum fun _ _ => Nat.zero_le _

theorem names_subset {xs ys : List Live} (h : (xs.map Live.outline).Sublist (ys.map Live.outline)) :
    xs.map Live.name ⊆ ys.map Live.name := by
  have hnames (ls : List Live) : ls.map Live.name = (ls.map Live.outline).map Prod.fst := by
    rw [List.map_map]
    rfl
  rw [hnames, hnames]
  exact (h.map Prod.fst).subset

namespace Store

def Over (s : Store) : Prop := s.policy.maxSize < bytesOf s.live

theorem Over.overBudget {s : Store} {owed given : List Live} (h : s.Over)
    (hcharged : s.Charged owed given) : s.overBudget = true := by
  have htotal := hcharged.counted.totalBytes
  rw [bytesOf_append] at htotal
  rw [Store.overBudget, decide_eq_true_eq, htotal]
  exact Nat.lt_add_right _ h

end Store

structure Effect.Quiet (e : Effect) (s : Store) : Prop where
  entries : (e.store.live.map Live.outline).Sublist (s.live.map Live.outline)
  policy : e.store.policy = s.policy
  pressure : s.pressure = true → e.store.pressure = true

theorem Effect.Quiet.over_before {e : Effect} {s : Store} (h : e.Quiet s) (hover : e.store.Over) :
    s.Over := by
  have hless := bytesOf_le h.entries
  rw [Store.Over, h.policy] at hover
  exact hover.trans_le hless

structure Effect.Admits (e : Effect) (s : Store) : Prop where
  asks : .ask ∈ e.next
  serials : e.store.nextSerial = s.nextSerial + 1

theorem Effect.Quiet.of_live_eq {s t : Store} {r : Store.SweepReport} {next : List Action}
    (hlive : t.live = s.live) (hpolicy : t.policy = s.policy)
    (hpressure : s.pressure = true → t.pressure = true) : (Effect.mk t r next).Quiet s :=
  ⟨hlive ▸ List.Sublist.refl _, hpolicy, hpressure⟩

theorem Action.quiet_or_admits {a : Action} {s : Store} {r : Store.SweepReport} {e : Effect}
    (he : a.perform? s r = some e) : e.Quiet s ∨ e.Admits s := by
  cases a with
  | put key entry =>
    obtain ⟨t, ht, rfl⟩ := Option.map_eq_some_iff.1 he
    obtain ⟨stats, _, rfl⟩ := Option.map_eq_some_iff.1 ht
    exact .inr ⟨by simp, rfl⟩
  | touch l now =>
    cases he
    refine .inl ⟨?_, rfl, id⟩
    rw [Store.touch_map (fun _ _ => rfl)]
  | take l cause =>
    cases hf : s.live.find? (Store.isEntry l.key l.serial) with
    | none =>
      rw [perform?_take_of_none hf] at he
      cases he
      exact .inl (.of_live_eq rfl rfl id)
    | some found =>
      rw [perform?_take_of_some hf] at he
      cases he
      exact .inl ⟨List.filter_sublist.map _, rfl, id⟩
  | release l =>
    obtain ⟨stats, _, rfl⟩ := Option.map_eq_some_iff.1 he
    exact .inl (.of_live_eq rfl rfl id)
  | count hit =>
    cases he
    cases hit <;> exact .inl (.of_live_eq rfl rfl id)
  | notify =>
    cases he
    exact .inl (.of_live_eq rfl rfl fun _ => rfl)
  | evict ls =>
    cases ls <;> cases he <;> exact .inl (.of_live_eq rfl rfl id)
  | tally =>
    cases he
    split <;> exact .inl (.of_live_eq rfl rfl id)
  | find | publish | ask | pickExpired | weigh | pickOrder =>
    cases he
    exact .inl (.of_live_eq rfl rfl id)

namespace Thread

/-- A commit that has stored its entry and has yet to ask for maintenance, if that is needed. -/
def Asks (u : Thread) : Prop := .ask ∈ u.todo ∨ .notify ∈ u.todo

/-- A sweep that has yet to weigh the store, or has every entry of it on its list. -/
def Clears (u : Thread) (s : Store) : Prop :=
  (∃ now, .weigh now ∈ u.todo ∨ .pickOrder now ∈ u.todo) ∨
    s.live.map Live.name ⊆ u.decided.map Live.name

variable {s : Store} {a : Action} {rest : List Action} {r : Store.SweepReport} {e : Effect}
  {owed given : List Live}

theorem decided_perform (h : s.live.map Live.name ⊆ (decided ⟨a :: rest, r⟩).map Live.name)
    (he : a.perform? s r = some e) (hquiet : e.Quiet s) (hbefore : s.overBudget = true) :
    e.store.live.map Live.name ⊆ (decided ⟨e.next ++ rest, e.report⟩).map Live.name := by
  intro name hname
  have hdecided := h (names_subset hquiet.entries hname)
  rw [decided, List.flatMap_cons, List.map_append, List.mem_append] at hdecided
  rw [decided, List.flatMap_append, List.map_append]
  rcases hdecided with hown | hrest
  · refine List.mem_append_left _ ?_
    cases a with
    | take l cause =>
      -- The entry is gone, and no other has its name.
      obtain ⟨m, hm, rfl⟩ := List.mem_map.1 hname
      exact absurd (List.mem_singleton.1 hown) ((Action.mem_take he).1 hm).2
    | evict ls =>
      cases ls with
      | nil => cases hown
      | cons l ls =>
        simp only [Action.perform?, hbefore, if_true] at he
        cases he
        simpa [Action.decides] using hown
    | find | touch | release | publish | count | put | ask | notify | pickExpired | weigh |
      pickOrder | tally => cases hown
  · exact List.mem_append_right _ hrest

theorem Clears.perform (h : Clears ⟨a :: rest, r⟩ s) (he : a.perform? s r = some e)
    (hcharged : s.Charged owed given) (hquiet : e.Quiet s) (hover : e.store.Over) :
    Clears ⟨e.next ++ rest, e.report⟩ e.store := by
  have hbefore : s.overBudget = true := (hquiet.over_before hover).overBudget hcharged
  rcases h with ⟨now, hweigh | hpick⟩ | hlisted
  · rcases List.mem_cons.1 hweigh with rfl | hweigh
    · simp only [Action.perform?, hbefore, if_true] at he
      cases he
      exact .inl ⟨now, .inr List.mem_cons_self⟩
    · exact .inl ⟨now, .inl (List.mem_append_right _ hweigh)⟩
  · rcases List.mem_cons.1 hpick with rfl | hpick
    · cases he
      refine .inr fun name hname => ?_
      obtain ⟨l, hl, rfl⟩ := List.mem_map.1 hname
      refine List.mem_map_of_mem (List.mem_append_left _ ?_)
      simpa [Action.decides] using (Store.evictionOrder_perm _ _).mem_iff.2 hl
    · exact .inl ⟨now, .inr (List.mem_append_right _ hpick)⟩
  · exact .inr (decided_perform hlisted he hquiet hbefore)

theorem Clears.mono {u : Thread} {t : Store} (h : u.Clears s)
    (hentries : (t.live.map Live.outline).Sublist (s.live.map Live.outline)) : u.Clears t :=
  h.imp_right (List.Subset.trans (names_subset hentries))

theorem Clears.not_over {u : Thread} (h : u.Clears s) (hdone : u.todo = []) : ¬s.Over := by
  have hnone : s.live = [] := by
    rcases h with ⟨now, hweigh | hpick⟩ | hlisted
    · simp [hdone] at hweigh
    · simp [hdone] at hpick
    · simpa [decided, hdone] using hlisted
  simp [Store.Over, hnone, bytesOf]

theorem Asks.perform (h : Asks ⟨a :: rest, r⟩) (he : a.perform? s r = some e)
    (hover : e.store.Over) (hcharged : e.store.Charged owed given) :
    e.store.pressure = true ∨ Asks ⟨e.next ++ rest, e.report⟩ := by
  rcases h with hask | hnotify
  · rcases List.mem_cons.1 hask with rfl | hask
    · cases he
      have hbefore : s.overBudget = true := hover.overBudget hcharged
      exact .inr (.inr (List.mem_append_left _ (by simp [hbefore])))
    · exact .inr (.inl (List.mem_append_right _ hask))
  · rcases List.mem_cons.1 hnotify with rfl | hnotify
    · cases he
      exact .inl rfl
    · exact .inr (.inr (List.mem_append_right _ hnotify))

end Thread

namespace Shared

def Warned (s : Shared) : Prop := s.store.pressure = true ∨ ∃ u ∈ s.threads, u.Asks

def Clears (s : Shared) (i : Nat) : Prop := ∃ u, s.threads[i]? = some u ∧ u.Clears s.store

/-- A store that came to be over its budget, or stays over it, is not forgotten. -/
inductive Watches (s t : Shared) : Prop where
  | admitted (warned : t.Warned) (serials : s.store.nextSerial < t.store.nextSerial)
  | kept (before : s.store.Over) (serials : s.store.nextSerial ≤ t.store.nextSerial)
    (warned : s.Warned → t.Warned) (clears : ∀ k, s.Clears k → t.Clears k)

variable {s t : Shared} {i : Nat}

theorem go?_cases (h : s.go? i = some t) : t = s ∨ ∃ a rest r e,
    s.threads[i]? = some ⟨a :: rest, r⟩ ∧ a.perform? s.store r = some e ∧
      t = ⟨e.store, s.threads.set i ⟨e.next ++ rest, e.report⟩, s.given ++ a.gives s.store⟩ := by
  rcases hi : s.threads[i]? with _ | ⟨_ | ⟨a, rest⟩, r⟩ <;> simp only [go?, hi] at h
  · exact .inl (Option.some.inj h).symm
  · exact .inl (Option.some.inj h).symm
  · obtain ⟨e, he, rfl⟩ := Option.map_eq_some_iff.1 h
    exact .inr ⟨a, rest, r, e, rfl, he, rfl⟩

section
variable {a : Action} {rest : List Action} {r : Store.SweepReport} {e : Effect}
  {owed given : List Live}

theorem getElem?_set_thread (hi : s.threads[i]? = some ⟨a :: rest, r⟩) (v : Thread) :
    (s.threads.set i v)[i]? = some v :=
  List.getElem?_set_self (List.getElem?_eq_some_iff.1 hi).1

theorem Warned.go (h : s.Warned) (hi : s.threads[i]? = some ⟨a :: rest, r⟩)
    (he : a.perform? s.store r = some e) (hquiet : e.Quiet s.store) (hover : e.store.Over)
    (hcharged : e.store.Charged owed given) (given' : List Live) :
    Warned ⟨e.store, s.threads.set i ⟨e.next ++ rest, e.report⟩, given'⟩ := by
  rcases h with hpressure | ⟨u, hu, hasks⟩
  · exact .inl (hquiet.pressure hpressure)
  · obtain ⟨j, hj⟩ := List.mem_iff_getElem?.1 hu
    by_cases hji : j = i
    · obtain rfl : u = ⟨a :: rest, r⟩ := Option.some.inj (hj.symm.trans (hji ▸ hi))
      refine (hasks.perform he hover hcharged).imp_right fun hasks => ?_
      exact ⟨_, List.mem_of_getElem? (getElem?_set_thread hi _), hasks⟩
    · have hstays : (s.threads.set i ⟨e.next ++ rest, e.report⟩)[j]? = some u :=
        (List.getElem?_set_ne (Ne.symm hji)).trans hj
      exact .inr ⟨u, List.mem_of_getElem? hstays, hasks⟩

theorem Clears.go {k : Nat} (h : s.Clears k) (hi : s.threads[i]? = some ⟨a :: rest, r⟩)
    (he : a.perform? s.store r = some e) (hquiet : e.Quiet s.store) (hover : e.store.Over)
    (hcharged : s.store.Charged owed given) (given' : List Live) :
    Clears ⟨e.store, s.threads.set i ⟨e.next ++ rest, e.report⟩, given'⟩ k := by
  obtain ⟨u, hk, hclears⟩ := h
  by_cases hki : k = i
  · obtain rfl : u = ⟨a :: rest, r⟩ := Option.some.inj (hk.symm.trans (hki ▸ hi))
    exact ⟨_, hki ▸ getElem?_set_thread hi _, hclears.perform he hcharged hquiet hover⟩
  · exact ⟨u, (List.getElem?_set_ne (Ne.symm hki)).trans hk, hclears.mono hquiet.entries⟩

end

theorem go_watches (h : s.Sound) (hgo : s.go? i = some t) (hover : t.store.Over) :
    s.Watches t := by
  obtain ⟨t', hgo', hsound, hlater⟩ := go_sound h i
  obtain rfl : t' = t := Option.some.inj (hgo'.symm.trans hgo)
  rcases go?_cases hgo with rfl | ⟨a, rest, r, e, hi, he, rfl⟩
  · exact .kept hover (Nat.le_refl _) id fun _ => id
  · rcases Action.quiet_or_admits he with hquiet | hadmits
    · exact .kept (hquiet.over_before hover) hlater.serials
        (fun hwarned => hwarned.go hi he hquiet hover hsound.charged _)
        fun k hclears => hclears.go hi he hquiet hover h.charged _
    · refine .admitted (.inr ⟨_, List.mem_of_getElem? (getElem?_set_thread hi _), .inl ?_⟩) ?_
      · exact List.mem_append_left _ hadmits.asks
      · rw [hadmits.serials]
        exact Nat.lt_succ_self _

theorem begin_watches (job : Job) (hover : s.store.Over) : s.Watches (s.begin job) := by
  refine .kept hover (Nat.le_refl _) (fun hwarned => ?_) fun k hclears => ?_
  · exact hwarned.imp_right fun ⟨u, hu, hasks⟩ => ⟨u, List.mem_append_left _ hu, hasks⟩
  · obtain ⟨u, hk, hclears⟩ := hclears
    exact ⟨u, List.getElem?_append_left (List.getElem?_eq_some_iff.1 hk).1 ▸ hk, hclears⟩

theorem step_watches (h : s.Sound) {e : Event} (hstep : s.step? e = some t)
    (hover : t.store.Over) : s.Watches t := by
  cases e with
  | begin job =>
    cases hstep
    exact begin_watches job hover
  | go i => exact go_watches h hstep hover

end Shared

inductive Task where
  | waiting
  /-- It sweeps, as a thread of the store; so many entries had been put in when it woke up. -/
  | sweeping (thread : Nat) (admitted : Nat)
  | stopped
deriving DecidableEq, Repr

structure Maintained where
  shared : Shared
  task : Task := .waiting
deriving DecidableEq, Repr

inductive Maintained.Event where
  | work (e : Shared.Event)
  | tick (now : Instant)
  | wake (now : Instant)
  | rest
  | stop
deriving DecidableEq, Repr

namespace Maintained

def start (p : Policy) : Maintained := ⟨.start p, .waiting⟩

def sweep (m : Maintained) (now : Instant) : Maintained where
  shared := m.shared.begin (.sweep now)
  task := .sweeping m.shared.threads.length m.shared.store.nextSerial

def answer (m : Maintained) : Maintained :=
  { m with shared := { m.shared with store := { m.shared.store with pressure := false } } }

def step? (m : Maintained) : Event → Option Maintained
  | .work e => (m.shared.step? e).map fun shared => { m with shared }
  | .tick now => some (if m.task = .waiting then m.sweep now else m)
  | .wake now =>
    some (if m.task = .waiting ∧ m.shared.store.pressure then m.answer.sweep now else m)
  | .rest =>
    match m.task with
    | .sweeping k _ =>
      some (if m.shared.threads[k]?.all (·.todo.isEmpty) then { m with task := .waiting } else m)
    | _ => some m
  | .stop => some (if m.task = .waiting then { m with task := .stopped } else m)

def run? (m : Maintained) (es : List Event) : Option Maintained := es.foldlM step? m

def Clears (m : Maintained) : Prop := ∃ k n, m.task = .sweeping k n ∧ m.shared.Clears k

/-- What holds at all times. A request during a sweep of the task is due to an entry that came in
after the task woke up. -/
structure Guarded (m : Maintained) : Prop where
  sound : m.shared.Sound
  woken : ∀ k n, m.task = .sweeping k n → n ≤ m.shared.store.nextSerial
  watched : m.shared.store.Over → m.Clears ∨
    (m.shared.Warned ∧ ∀ k n, m.task = .sweeping k n → n < m.shared.store.nextSerial)

variable {m t : Maintained}

theorem start_guarded (p : Policy) : (start p).Guarded where
  sound := Shared.start_sound p
  woken := by simp [start]
  watched h := by
    simp [start, Shared.start, Store.Over, bytesOf] at h

theorem Guarded.work (h : m.Guarded) {e : Shared.Event} {s : Shared}
    (hs : m.shared.step? e = some s) : (Maintained.mk s m.task).Guarded := by
  obtain ⟨s', hs', hsound, hlater⟩ := Shared.step_sound h.sound e
  obtain rfl : s' = s := Option.some.inj (hs'.symm.trans hs)
  refine ⟨hsound, fun k n htask => (h.woken k n htask).trans hlater.serials, fun hover => ?_⟩
  rcases Shared.step_watches h.sound hs hover with ⟨hwarned, hserials⟩ |
    ⟨hbefore, hserials, hwarned, hclears⟩
  -- What came in brings its own request; else all that held goes on holding.
  · exact .inr ⟨hwarned, fun k n htask => (h.woken k n htask).trans_lt hserials⟩
  · rcases h.watched hbefore with ⟨k, n, htask, hk⟩ | ⟨hasked, hnew⟩
    · exact .inl ⟨k, n, htask, hclears k hk⟩
    · exact .inr ⟨hwarned hasked, fun k n htask => (hnew k n htask).trans_le hserials⟩

theorem Guarded.sweep (h : m.shared.Sound) (now : Instant) : (m.sweep now).Guarded where
  sound := Shared.begin_sound h _
  woken k n htask := by
    cases htask
    exact Nat.le_refl _
  watched _ := by
    refine .inl ⟨_, _, rfl, { todo := (Job.sweep now).actions }, ?_, .inl ⟨now, .inl ?_⟩⟩
    · exact List.getElem?_concat_length
    · simp [Job.actions]

theorem answer_sound (h : m.shared.Sound) : m.answer.shared.Sound :=
  ⟨h.charged.congr rfl rfl rfl rfl rfl, h.decided⟩

theorem Guarded.within (h : m.Guarded) {k n : Nat} (htask : m.task = .sweeping k n)
    (hdone : m.shared.threads[k]?.all (·.todo.isEmpty)) (hover : m.shared.store.Over) :
    m.shared.Warned ∧ n < m.shared.store.nextSerial := by
  rcases h.watched hover with ⟨k', n', htask', u, hu, hclears⟩ | ⟨hwarned, hnew⟩
  · obtain ⟨rfl, rfl⟩ := Task.sweeping.inj (htask.symm.trans htask')
    rw [hu, Option.all_some, List.isEmpty_iff] at hdone
    exact absurd hover (hclears.not_over hdone)
  · exact ⟨hwarned, hnew k n htask⟩

theorem Guarded.leave (h : m.Guarded) {task : Task}
    (hwarned : m.shared.store.Over → m.shared.Warned)
    (htask : ∀ k n, task ≠ .sweeping k n) : { m with task }.Guarded where
  sound := h.sound
  woken k n heq := absurd heq (htask k n)
  watched hover := .inr ⟨hwarned hover, fun k n heq => absurd heq (htask k n)⟩

theorem Guarded.warned (h : m.Guarded) (htask : m.task = .waiting) (hover : m.shared.store.Over) :
    m.shared.Warned := by
  rcases h.watched hover with ⟨k, n, hsweeping, _⟩ | ⟨hwarned, _⟩
  · cases htask.symm.trans hsweeping
  · exact hwarned

theorem step?_rest {k n : Nat} (htask : m.task = .sweeping k n) :
    m.step? .rest = some (if m.shared.threads[k]?.all (·.todo.isEmpty) then
      { m with task := .waiting } else m) := by
  simp only [step?, htask]

theorem step_guarded (h : m.Guarded) (e : Event) : ∃ t, m.step? e = some t ∧ t.Guarded ∧
    t.shared.store.policy = m.shared.store.policy := by
  cases e with
  | work e =>
    obtain ⟨s, hs, -, hlater⟩ := Shared.step_sound h.sound e
    exact ⟨_, by simp only [step?, hs, Option.map_some], h.work hs, hlater.policy⟩
  | tick now =>
    refine ⟨_, rfl, ?_⟩
    split
    · exact ⟨.sweep h.sound now, rfl⟩
    · exact ⟨h, rfl⟩
  | wake now =>
    refine ⟨_, rfl, ?_⟩
    split
    · exact ⟨.sweep (answer_sound h.sound) now, rfl⟩
    · exact ⟨h, rfl⟩
  | rest =>
    cases htask : m.task with
    | waiting | stopped => exact ⟨m, by simp only [step?, htask], h, rfl⟩
    | sweeping k n =>
      refine ⟨_, step?_rest htask, ?_⟩
      split
      · next hdone =>
        exact ⟨h.leave (fun hover => (h.within htask hdone hover).1) (by simp), rfl⟩
      · exact ⟨h, rfl⟩
  | stop =>
    refine ⟨_, rfl, ?_⟩
    split
    · next htask => exact ⟨h.leave (h.warned htask) (by simp), rfl⟩
    · exact ⟨h, rfl⟩

theorem run_guarded (h : m.Guarded) (es : List Event) : ∃ t, m.run? es = some t ∧ t.Guarded ∧
    t.shared.store.policy = m.shared.store.policy := by
  induction es generalizing m with
  | nil => exact ⟨m, rfl, h, rfl⟩
  | cons e es ih =>
    obtain ⟨t, ht, hguarded, hpolicy⟩ := step_guarded h e
    obtain ⟨w, hw, hguarded', hpolicy'⟩ := ih hguarded
    refine ⟨w, ?_, hguarded', hpolicy'.trans hpolicy⟩
    rw [run?, List.foldlM_cons, ht]
    exact hw

theorem run?_cons {e : Event} (h : m.step? e = some t) (es : List Event) :
    m.run? (e :: es) = t.run? es := by
  rw [run?, List.foldlM_cons, h]
  rfl

theorem run?_append {es fs : List Event} (h : m.run? es = some t) :
    m.run? (es ++ fs) = t.run? fs := by
  rw [run?, List.foldlM_append]
  change (m.run? es).bind _ = _
  rw [h]
  rfl

theorem run?_work (m : Maintained) {s : Shared} {es : List Shared.Event}
    (h : m.shared.run? es = some s) : m.run? (es.map .work) = some { m with shared := s } := by
  induction es generalizing m with
  | nil =>
    cases h
    rfl
  | cons e es ih =>
    rw [Shared.run?, List.foldlM_cons] at h
    obtain ⟨s', hs', hrest⟩ := Option.bind_eq_some_iff.1 h
    rw [List.map_cons, run?_cons (t := { m with shared := s' })]
    · exact ih { m with shared := s' } hrest
    · simp only [step?, hs', Option.map_some]

theorem settle_of_due {s : Store} (h : s.Balanced) {c : Maintenance} {timeMs : Nat} (now : Instant)
    (hdue : c.isDue s timeMs = true) :
    (c.settle s timeMs now).2.pressure = false ∧
      bytesOf (c.settle s timeMs now).2.live ≤ s.policy.maxSize := by
  have hbalanced : Store.Balanced { s with pressure := false } := ⟨h.distinct, h.counted⟩
  obtain ⟨evicted, hswept⟩ := hbalanced.swept now
  have hsettle : (c.settle s timeMs now).2 = (Store.sweep { s with pressure := false } now).2 := by
    simp only [Maintenance.settle, hdue, if_true]
  rw [hsettle]
  exact ⟨hswept.others.2.2, hswept.totalBytes ▸ hswept.fits⟩

/-- What the task does at a time is a run of it: it wakes up, sweeps alone and waits again. -/
theorem run?_settle (m : Maintained) (h : m.shared.store.Balanced) (htask : m.task = .waiting)
    (hnothing : m.shared.owed = []) (c : Maintenance) (timeMs : Nat) (now : Instant) :
    ∃ es t, m.run? es = some t ∧ t.task = .waiting ∧ t.shared.owed = [] ∧
      t.shared.store = (c.settle m.shared.store timeMs now).2 := by
  cases hdue : c.isDue m.shared.store timeMs with
  | false => exact ⟨[], m, rfl, htask, hnothing, by simp [Maintenance.settle, hdue]⟩
  | true =>
    -- A request is taken first; where there is none the interval has ended.
    obtain ⟨e, he⟩ : ∃ e, m.step? e = some (m.answer.sweep now) := by
      cases hpressure : m.shared.store.pressure with
      | true => exact ⟨.wake now, by simp [step?, htask, hpressure]⟩
      | false =>
        have hanswer : m.answer = m := by
          rw [answer, ← hpressure]
        exact ⟨.tick now, by simp [step?, htask, hanswer]⟩
    have hbalanced : m.answer.shared.store.Balanced := ⟨h.distinct, h.counted⟩
    obtain ⟨n, r, given, hrun⟩ := Shared.run?_job m.answer.shared hbalanced (.sweep now)
    rw [Shared.run?, List.foldlM_cons] at hrun
    let k := m.shared.threads.length
    let swept : Shared := ⟨(Job.sweep now).result m.answer.shared.store,
      m.shared.threads ++ [⟨[], r⟩], given⟩
    have hwork : (m.answer.sweep now).run? ((List.replicate n (.go k)).map .work) =
        some ⟨swept, .sweeping k m.shared.store.nextSerial⟩ :=
      run?_work (m.answer.sweep now) hrun
    have hdone : swept.threads[k]?.all (·.todo.isEmpty) := by
      simp [swept, k]
    have howed : swept.owed = m.shared.owed ++ [] := List.flatMap_append
    refine ⟨e :: ((List.replicate n (.go k)).map .work ++ [.rest]), ⟨swept, .waiting⟩, ?_, rfl,
      by rw [howed, hnothing, List.append_nil], ?_⟩
    · rw [run?_cons he, run?_append hwork, run?_cons (step?_rest rfl), if_pos hdone]
      rfl
    · simp only [Maintenance.settle, hdue, if_true]
      rfl

/-- Commits, look-ups and sweeps come in any way while the task wakes up at the end of an interval
or because it was asked, sweeps and waits again. Whenever the entries take up more than they may,
maintenance has been asked for, or a commit that is half-way is about to ask, or the task sweeps and
keeps the store in view. When the task waits again and nothing was put in since it woke up, the
entries are within the budget. The counters say what the entries take up and what is owed besides.
What the task does at a time, while nothing is owed and no other operation goes on, is such a
run; if something was due, no request is left after it and the entries are within the budget. -/
theorem budget_of_interleaving (p : Policy) (es : List Event) :
    ∃ m, (start p).run? es = some m ∧
    (p.maxSize < bytesOf m.shared.store.live →
      m.shared.store.pressure = true ∨ (∃ u ∈ m.shared.threads, u.Asks) ∨ m.Clears) ∧
    (∀ k n t, m.task = .sweeping k n → m.step? .rest = some t → t.task = .waiting →
      t.shared.store.nextSerial = n → bytesOf t.shared.store.live ≤ p.maxSize) ∧
    m.shared.store.stats.totalBytes = bytesOf m.shared.store.live + bytesOf m.shared.owed ∧
    (m.task = .waiting → m.shared.owed = [] → ∀ (c : Maintenance) timeMs now, ∃ fs t,
      m.run? fs = some t ∧ t.task = .waiting ∧ t.shared.owed = [] ∧
        t.shared.store = (c.settle m.shared.store timeMs now).2 ∧
        (c.isDue m.shared.store timeMs = true →
          t.shared.store.pressure = false ∧ bytesOf t.shared.store.live ≤ p.maxSize)) := by
  obtain ⟨m, hm, hguarded, hpolicy⟩ := run_guarded (start_guarded p) es
  have hp : m.shared.store.policy = p := hpolicy
  refine ⟨m, hm, fun hover => ?_, fun k n t htask hrest hwaits hnone => ?_, ?_,
    fun htask hnothing c timeMs now => ?_⟩
  · rw [← hp] at hover
    rcases hguarded.watched hover with hclears | ⟨hpressure | hasks, -⟩
    · exact .inr (.inr hclears)
    · exact .inl hpressure
    · exact .inr (.inl hasks)
  · rw [step?_rest htask] at hrest
    cases hrest
    split at hwaits
    · next hdone =>
      rw [if_pos hdone] at hnone ⊢
      rw [← hp]
      refine Nat.not_lt.1 fun hover => ?_
      exact (hguarded.within htask hdone hover).2.ne hnone.symm
    · cases htask.symm.trans hwaits
  · rw [hguarded.sound.charged.counted.totalBytes, bytesOf_append]
  · have hbalanced := hguarded.sound.balanced hnothing
    obtain ⟨fs, t, hrun, hwaits, howed, hstore⟩ :=
      run?_settle m hbalanced htask hnothing c timeMs now
    refine ⟨fs, t, hrun, hwaits, howed, hstore, fun hdue => ?_⟩
    rw [hstore, ← hp]
    exact settle_of_due hbalanced now hdue

/-- Two responses of two bytes in a store for three: it is over its budget and has asked. The task
wakes up when the first has expired, and waits again with the second. -/
theorem budget_of_interleaving_two_responses :
    let response (path : String) (expires : Instant) : Capture :=
      ⟨⟨"GET", false, "site.test", path, ""⟩, 100, 1000, 0,
        .recording ⟨200, .empty, expires, [], false, none⟩ ⟨[[1, 2]], 2, 0⟩⟩
    let p : Policy := ⟨true, 3, 100, true, 1000, 1000⟩
    let stored : List Event := [.work (.begin (.commit (response "/1" 10) 0)), .work (.go 0),
      .work (.go 0), .work (.go 0), .work (.begin (.commit (response "/2" 1000) 0)), .work (.go 1),
      .work (.go 1), .work (.go 1), .work (.go 1)]
    let swept : List Event := .wake 20 :: List.replicate 6 (.work (.go 2))
    (∃ m, (start p).run? stored = some m ∧ p.maxSize < bytesOf m.shared.store.live ∧
      m.shared.store.stats.totalBytes = bytesOf m.shared.store.live ∧
      (m.shared.store.pressure = true ∨ (∃ u ∈ m.shared.threads, u.Asks) ∨ m.Clears) ∧
      ∃ fs t, m.run? fs = some t ∧ t.task = .waiting ∧ t.shared.owed = [] ∧
        t.shared.store = ((Maintenance.mk true 0).settle m.shared.store 5 20).2 ∧
        t.shared.store.pressure = false ∧ bytesOf t.shared.store.live ≤ p.maxSize) ∧
    ∃ m t, (start p).run? (stored ++ swept) = some m ∧ m.task = .sweeping 2 2 ∧
      m.step? .rest = some t ∧ t.task = .waiting ∧ bytesOf t.shared.store.live ≤ p.maxSize := by
  intro response p stored swept
  constructor
  · obtain ⟨m, hm, hwatched, -, htotal, hsettles⟩ := budget_of_interleaving p stored
    have hstate : ((start p).run? stored).map (fun m =>
        (decide (p.maxSize < bytesOf m.shared.store.live), m.shared.owed, m.task)) =
          some (true, [], .waiting) := by decide +kernel
    rw [hm] at hstate
    obtain ⟨hover, hrest⟩ := Prod.mk.inj (Option.some.inj hstate)
    obtain ⟨hnothing, htask⟩ := Prod.mk.inj hrest
    rw [hnothing] at htotal
    obtain ⟨fs, t, hrun, hwaits, howed, hstore, hswept⟩ := hsettles htask hnothing ⟨true, 0⟩ 5 20
    exact ⟨m, hm, of_decide_eq_true hover, htotal, hwatched (of_decide_eq_true hover),
      fs, t, hrun, hwaits, howed, hstore, hswept rfl⟩
  · obtain ⟨m, hm, -, hwithin, -⟩ := budget_of_interleaving p (stored ++ swept)
    have hstate : ((start p).run? (stored ++ swept)).map (fun m =>
        (m.task, (m.step? .rest).map fun t => (t.task, t.shared.store.nextSerial))) =
          some (.sweeping 2 2, some (.waiting, 2)) := by decide +kernel
    rw [hm] at hstate
    obtain ⟨htask, hrest⟩ := Prod.mk.inj (Option.some.inj hstate)
    obtain ⟨t, ht, hwaits⟩ := Option.map_eq_some_iff.1 hrest
    obtain ⟨hwaits, hnone⟩ := Prod.mk.inj hwaits
    exact ⟨m, t, hm, htask, ht, hwaits, hwithin 2 2 t htask ht hwaits hnone⟩

end Maintained
end ReverseProxy.Cache
