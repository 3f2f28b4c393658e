import Mathlib.Algebra.GroupWithZero.Nat
import Mathlib.Algebra.Order.BigOperators.Group.List
import Mathlib.Algebra.Order.Group.Nat
import ReverseProxy.Proofs.Pool.Traffic

set_option autoImplicit false

/-!
# Nothing is late

Events happen in the order in which they are due and none is left out, so whenever time has passed
nobody waits whose patience has ended and no drain has missed a look. The events that lie before a
time can be counted; each of them takes one away, so the bound on their number suffices.
-/
namespace ReverseProxy.Pool

def Drain.looksUntil (d : Drain) (untilMs : Nat) : Nat :=
  if d.done || decide (untilMs < d.nextLookMs) then 0
  else (untilMs - d.nextLookMs) / lookIntervalMs + 1

namespace ConnectionPool

theorem giveUp_ne_waits (p : ConnectionPool) (t : Ticket) (e : Endpoint) :
    (p.giveUp t e).1 ≠ .waits := by
  unfold ConnectionPool.giveUp
  split
  · next hready =>
    simp only [ConnectionPool.pickUp, hready, Bool.not_true, if_neg Bool.false_ne_true]
    split <;> exact Asked.noConfusion
  · exact Asked.noConfusion

end ConnectionPool

namespace Schedule

/-- Whoever waits has patience left, and no look of a drain is overdue. -/
structure Timely (s : Schedule) : Prop where
  waits : ∀ w ∈ s.waiters, s.nowMs ≤ w.deadlineMs
  looks : ∀ d ∈ s.drains, d.done = false → s.nowMs ≤ d.nextLookMs

def earlier : Option Event → Event → Option Event
  | some b, e => if b.before e then some b else some e
  | none, e => some e

def eventsUntil (s : Schedule) (untilMs : Nat) : Nat :=
  s.waiters.length + (s.drains.map (·.looksUntil untilMs)).sum

theorem exists_set {α : Type} {l : List α} {i : Nat} {a : α} (h : l[i]? = some a) (b : α) :
    ∃ before after, l = before ++ a :: after ∧ l.set i b = before ++ b :: after := by
  obtain ⟨hlt, rfl⟩ := List.getElem?_eq_some_iff.1 h
  obtain ⟨before, after, hl, _, hset⟩ := @List.exists_of_set _ i b l hlt
  exact ⟨before, after, hl, hset⟩

section
variable {s s' : Schedule} {hs : List Holding} {w : Waiter} {d : Drain} {e : Event} {i : Nat}
  {untilMs : Nat}

theorem mem_events : e ∈ s.events ↔ (∃ w ∈ s.waiters, e = .patienceEnds w) ∨
    ∃ i d, s.drains[i]? = some d ∧ d.done = false ∧ e = .drainLooks i d := by
  simp only [events, List.mem_append, List.mem_map, List.mem_filter]
  refine or_congr ⟨?_, ?_⟩ ⟨?_, ?_⟩
  · rintro ⟨w, hw, rfl⟩
    exact ⟨w, hw, rfl⟩
  · rintro ⟨w, hw, rfl⟩
    exact ⟨w, hw, rfl⟩
  · rintro ⟨⟨d, i⟩, ⟨hd, hdone⟩, rfl⟩
    exact ⟨i, d, List.mem_zipIdx_iff_getElem?.1 hd, by simpa using hdone, rfl⟩
  · rintro ⟨i, d, hd, hdone, rfl⟩
    exact ⟨(d, i), ⟨List.mem_zipIdx_iff_getElem?.2 hd, by simp [hdone]⟩, rfl⟩

theorem timely_iff : s.Timely ↔ ∀ e ∈ s.events, s.nowMs ≤ e.time.1 := by
  constructor
  · intro h e he
    rcases mem_events.1 he with ⟨w, hw, rfl⟩ | ⟨i, d, hd, hdone, rfl⟩
    · exact h.waits w hw
    · exact h.looks d (List.mem_of_getElem? hd) hdone
  · intro h
    refine ⟨fun w hw => h (.patienceEnds w) (mem_events.2 (.inl ⟨w, hw, rfl⟩)),
      fun d hd hdone => ?_⟩
    obtain ⟨i, hi⟩ := List.mem_iff_getElem?.1 hd
    exact h (.drainLooks i d) (mem_events.2 (.inr ⟨i, d, hi, hdone, rfl⟩))

theorem before_time {a b : Event} :
    (a.before b = true → a.time.1 ≤ b.time.1) ∧ (a.before b = false → b.time.1 ≤ a.time.1) := by
  simp only [Event.before, Bool.or_eq_true, Bool.and_eq_true, decide_eq_true_eq, beq_iff_eq,
    Bool.or_eq_false_iff, Bool.and_eq_false_iff, decide_eq_false_iff_not, beq_eq_false_iff_ne]
  omega

theorem nextEvent?_eq (s : Schedule) : s.nextEvent? = s.events.foldl earlier none := by
  unfold nextEvent?
  congr 1
  funext best e
  cases best <;> rfl

theorem foldl_earlier (es : List Event) (best : Event) :
    ∃ e, es.foldl earlier (some best) = some e ∧
      e.time.1 ≤ best.time.1 ∧ ∀ a ∈ es, e.time.1 ≤ a.time.1 := by
  induction es generalizing best with
  | nil => exact ⟨best, rfl, Nat.le_refl _, fun a ha => (List.not_mem_nil ha).elim⟩
  | cons a es ih =>
    rw [List.foldl_cons]
    have htime := before_time (a := best) (b := a)
    have hpick : earlier (some best) a = if best.before a then some best else some a := rfl
    rw [hpick]
    cases hb : best.before a with
    | true =>
      have hle := htime.1 hb
      obtain ⟨e, he, hbest, hall⟩ := ih best
      refine ⟨e, he, hbest, List.forall_mem_cons.2 ⟨?_, hall⟩⟩
      omega
    | false =>
      have hle := htime.2 hb
      obtain ⟨e, he, ha, hall⟩ := ih a
      refine ⟨e, he, ?_, List.forall_mem_cons.2 ⟨ha, hall⟩⟩
      omega

theorem nextEvent?_eq_none (h : s.nextEvent? = none) : s.events = [] := by
  rw [nextEvent?_eq] at h
  cases hes : s.events with
  | nil => rfl
  | cons a es =>
    rw [hes, List.foldl_cons] at h
    obtain ⟨e, he, _⟩ := foldl_earlier es a
    rw [earlier, he] at h
    cases h

theorem nextEvent?_le (h : s.nextEvent? = some e) {a : Event} (ha : a ∈ s.events) :
    e.time.1 ≤ a.time.1 := by
  rw [nextEvent?_eq] at h
  cases hes : s.events with
  | nil =>
    rw [hes] at ha
    exact (List.not_mem_nil ha).elim
  | cons b es =>
    rw [hes, List.foldl_cons] at h
    obtain ⟨e', he', hb, hall⟩ := foldl_earlier es b
    rw [earlier, he'] at h
    cases h
    rw [hes] at ha
    rcases List.mem_cons.1 ha with rfl | ha
    · exact hb
    · exact hall a ha

theorem Ledger.giveUp_ne_waits (hl : s.Ledger hs) (hw : w ∈ s.waiters) :
    (s.registry.giveUp w.lease.pool w.ticket w.lease.endpoint).1 ≠ .waits := by
  obtain ⟨p, hp, _⟩ := (hl.split hw).1.waiting
  unfold Registry.giveUp
  rw [hp]
  exact p.giveUp_ne_waits w.ticket w.lease.endpoint

theorem waiters_giveUp (hl : s.Ledger hs) (hw : w ∈ s.waiters) :
    (s.giveUp w).waiters = s.waiters.filter (·.ticket != w.ticket) := by
  have hne := hl.giveUp_ne_waits hw
  unfold Schedule.giveUp
  dsimp only
  cases ha : (s.registry.giveUp w.lease.pool w.ticket w.lease.endpoint).1 with
  | waits => exact absurd ha hne
  | granted | refused why => rfl

theorem waiters_pickUp (s : Schedule) (w : Waiter) :
    (s.pickUp w).waiters.Sublist s.waiters := by
  unfold Schedule.pickUp
  cases (s.registry.pickUp w.lease.pool w.ticket).1 with
  | waits => exact .refl _
  | granted | refused why => exact List.filter_sublist

theorem waiters_foldl_pickUp (ws : List Waiter) (s : Schedule) :
    (ws.foldl Schedule.pickUp s).waiters.Sublist s.waiters := by
  induction ws generalizing s with
  | nil => exact .refl _
  | cons w ws ih => exact (ih (s.pickUp w)).trans (s.waiters_pickUp w)

theorem waiters_pickUpAll (s : Schedule) : s.pickUpAll.waiters.Sublist s.waiters :=
  waiters_foldl_pickUp s.waiters s

theorem waiters_look (s : Schedule) (i : Nat) (d : Drain) : (s.look i d).waiters = s.waiters := by
  unfold Schedule.look
  split <;> rfl

theorem nowMs_look (s : Schedule) (i : Nat) (d : Drain) : (s.look i d).nowMs = s.nowMs := by
  unfold Schedule.look
  split <;> rfl

theorem drains_look (s : Schedule) (i : Nat) (d : Drain) :
    (s.look i d).drains = s.drains.set i { d with done := true } ∨
      (s.look i d).drains = s.drains.set i { d with nextLookMs := s.nowMs + lookIntervalMs } := by
  unfold Schedule.look
  split
  · exact .inl rfl
  · exact .inr rfl

theorem Timely.congr (ht : s.Timely) (hw : s'.waiters.Sublist s.waiters)
    (hd : s'.drains = s.drains) (hn : s'.nowMs = s.nowMs) : s'.Timely where
  waits w hmem := hn ▸ ht.waits w (hw.subset hmem)
  looks d hmem hdone := hn ▸ ht.looks d (hd ▸ hmem) hdone

theorem Timely.pickUpAll (ht : s.Timely) : s.pickUpAll.Timely :=
  ht.congr s.waiters_pickUpAll s.serves_pickUpAll.drains s.serves_pickUpAll.nowMs

theorem Timely.look (ht : s.Timely) (i : Nat) (d : Drain) : (s.look i d).Timely := by
  refine ⟨fun w hw => ?_, fun a ha hdone => ?_⟩
  · rw [waiters_look] at hw
    rw [nowMs_look]
    exact ht.waits w hw
  · rw [nowMs_look]
    rcases s.drains_look i d with hset | hset
    · rw [hset] at ha
      rcases List.mem_or_eq_of_mem_set ha with ha | rfl
      · exact ht.looks a ha hdone
      · cases hdone
    · rw [hset] at ha
      rcases List.mem_or_eq_of_mem_set ha with ha | rfl
      · exact ht.looks a ha hdone
      · exact Nat.le_add_right _ _

theorem Timely.now_eq (ht : s.Timely) (he : e ∈ s.events) : max s.nowMs e.time.1 = e.time.1 :=
  Nat.max_eq_right (timely_iff.1 ht e he)

/-- The next event is no later than any other, so time may go on to it. -/
theorem Timely.arrive (ht : s.Timely) (he : s.nextEvent? = some e) :
    Timely { s with nowMs := max s.nowMs e.time.1 } := by
  have hmem := mem_events_of_nextEvent? he
  rw [timely_iff]
  intro a ha
  rw [ht.now_eq hmem]
  exact nextEvent?_le he ha

theorem Ledger.arrive (hl : s.Ledger hs) (n : Nat) : Ledger { s with nowMs := n } hs :=
  hl.congr rfl rfl rfl rfl

theorem happen_patience (s : Schedule) (w : Waiter) : s.happen (.patienceEnds w) =
    ({ s with nowMs := max s.nowMs w.deadlineMs }.giveUp w).pickUpAll := rfl

theorem happen_looks (s : Schedule) (i : Nat) (d : Drain) : s.happen (.drainLooks i d) =
    ({ s with nowMs := max s.nowMs d.nextLookMs }.look i d).pickUpAll := rfl

theorem Timely.happen (ht : s.Timely) (hl : s.Ledger hs) (he : s.nextEvent? = some e) :
    (s.happen e).Timely := by
  have harrived := ht.arrive he
  rcases mem_events.1 (mem_events_of_nextEvent? he) with ⟨w, hw, rfl⟩ | ⟨i, d, hd, hdone, rfl⟩
  · rw [happen_patience]
    refine Timely.pickUpAll (harrived.congr ?_ ?_ ?_)
    · rw [waiters_giveUp (hl.arrive (max s.nowMs w.deadlineMs)) hw]
      exact List.filter_sublist
    · exact (serves_giveUp _ w).drains
    · exact (serves_giveUp _ w).nowMs
  · rw [happen_looks]
    exact (harrived.look i d).pickUpAll

theorem nowMs_happen (ht : s.Timely) (he : s.nextEvent? = some e) :
    (s.happen e).nowMs = e.time.1 := by
  have hmem := mem_events_of_nextEvent? he
  have hnow := ht.now_eq hmem
  rcases mem_events.1 hmem with ⟨w, hw, rfl⟩ | ⟨i, d, hd, hdone, rfl⟩
  · rw [happen_patience, (serves_pickUpAll _).nowMs, (serves_giveUp _ w).nowMs]
    exact hnow
  · rw [happen_looks, (serves_pickUpAll _).nowMs, nowMs_look]
    exact hnow

theorem looksUntil_next (h : d.nextLookMs ≤ untilMs) (hdone : d.done = false) {n : Nat}
    (hn : d.nextLookMs ≤ n) : ({ d with nextLookMs := n + lookIntervalMs } : Drain).looksUntil
      untilMs < d.looksUntil untilMs := by
  have hpos : ¬untilMs < d.nextLookMs := by omega
  have hbefore : d.looksUntil untilMs = (untilMs - d.nextLookMs) / lookIntervalMs + 1 := by
    simp [Drain.looksUntil, hdone, hpos]
  rw [hbefore]
  by_cases hlater : untilMs < n + lookIntervalMs
  · simp [Drain.looksUntil, hlater]
  · have hafter : ({ d with nextLookMs := n + lookIntervalMs } : Drain).looksUntil untilMs =
        (untilMs - (n + lookIntervalMs)) / lookIntervalMs + 1 := by
      simp [Drain.looksUntil, hdone, hlater]
    rw [hafter]
    unfold lookIntervalMs at hlater ⊢
    omega

theorem eventsUntil_happen (ht : s.Timely) (hl : s.Ledger hs) (he : s.nextEvent? = some e)
    (hle : e.time.1 ≤ untilMs) : (s.happen e).eventsUntil untilMs < s.eventsUntil untilMs := by
  have hmem := mem_events_of_nextEvent? he
  have hnow := ht.now_eq hmem
  rcases mem_events.1 hmem with ⟨w, hw, rfl⟩ | ⟨i, d, hd, hdone, rfl⟩
  · rw [happen_patience]
    have hgone := waiters_giveUp (hl.arrive (max s.nowMs w.deadlineMs)) hw
    have hfewer := (waiters_pickUpAll
      ({ s with nowMs := max s.nowMs w.deadlineMs }.giveUp w)).length_le
    have hone := (Keyed.perm_cons_filter Waiter.ticket hl.waiting hw).length_eq
    unfold eventsUntil
    rw [(serves_pickUpAll _).drains, (serves_giveUp _ w).drains]
    rw [hgone] at hfewer
    rw [List.length_cons] at hone
    change _ + (s.drains.map _).sum < _
    change _ ≤ (s.waiters.filter _).length at hfewer
    omega
  · rw [happen_looks]
    have hsame := waiters_look { s with nowMs := max s.nowMs d.nextLookMs } i d
    have hfewer := (waiters_pickUpAll
      ({ s with nowMs := max s.nowMs d.nextLookMs }.look i d)).length_le
    rw [hsame] at hfewer
    change _ ≤ s.waiters.length at hfewer
    have hlook : d.nextLookMs ≤ untilMs := hle
    -- Only the share of the drain that looked changes.
    have hless (d' : Drain) (hd' : d'.looksUntil untilMs < d.looksUntil untilMs) :
        ((s.drains.set i d').map (·.looksUntil untilMs)).sum <
          (s.drains.map (·.looksUntil untilMs)).sum := by
      obtain ⟨before, after, hl, hset⟩ := exists_set hd d'
      rw [hset, hl]
      simp only [List.map_append, List.map_cons, List.sum_append, List.sum_cons]
      omega
    have hsum : (({ s with nowMs := max s.nowMs d.nextLookMs }.look i d).drains.map
        (Drain.looksUntil · untilMs)).sum < (s.drains.map (Drain.looksUntil · untilMs)).sum := by
      rcases drains_look { s with nowMs := max s.nowMs d.nextLookMs } i d with hset | hset
      · rw [hset]
        refine hless _ ?_
        have hpos : ¬untilMs < d.nextLookMs := by omega
        simp [Drain.looksUntil, hdone, hpos]
      · rw [hset]
        exact hless _ (looksUntil_next hlook hdone (Nat.le_max_right _ _))
    unfold eventsUntil
    rw [(serves_pickUpAll _).drains]
    omega

theorem runWithFuel_induction {I : Schedule → Prop} (fuel : Nat) (hl : s.Ledger hs)
    (ht : s.Timely) (hn : s.nowMs ≤ untilMs) (hi : I s)
    (hstep : ∀ s e, s.Ledger hs → s.Timely → s.nextEvent? = some e → I s → I (s.happen e)) :
    let s' := runWithFuel (fun _ => false) untilMs fuel s
    s'.Ledger hs ∧ s'.Timely ∧ s'.nowMs ≤ untilMs ∧ I s' := by
  induction fuel generalizing s with
  | zero => exact ⟨hl, ht, hn, hi⟩
  | succ fuel ih =>
    simp only [runWithFuel, if_neg Bool.false_ne_true]
    cases he : s.nextEvent? with
    | none => exact ⟨hl, ht, hn, hi⟩
    | some e =>
      dsimp only
      split
      · next hle =>
        exact ih (hl.happen (mem_events_of_nextEvent? he)) (ht.happen hl he)
          (nowMs_happen ht he ▸ hle) (hstep s e hl ht he hi)
      · exact ⟨hl, ht, hn, hi⟩

theorem runWithFuel_last (fuel : Nat) (hl : s.Ledger hs) (ht : s.Timely)
    (hfuel : s.eventsUntil untilMs < fuel) :
    ∀ e ∈ (runWithFuel (fun _ => false) untilMs fuel s).events, untilMs < e.time.1 := by
  induction fuel generalizing s with
  | zero => exact absurd hfuel (Nat.not_lt_zero _)
  | succ fuel ih =>
    simp only [runWithFuel, if_neg Bool.false_ne_true]
    cases he : s.nextEvent? with
    | none =>
      dsimp only
      rw [nextEvent?_eq_none he]
      exact fun e hmem => (List.not_mem_nil hmem).elim
    | some e =>
      dsimp only
      split
      · next hle =>
        have hless := eventsUntil_happen ht hl he hle
        exact ih (hl.happen (mem_events_of_nextEvent? he)) (ht.happen hl he) (by omega)
      · next hlate =>
        intro a ha
        have hfirst := nextEvent?_le he ha
        omega

/-- Any amount of fuel is as good as another that no run uses up. -/
theorem runWithFuel_enough {fuel fuel' : Nat} (hl : s.Ledger hs) (ht : s.Timely)
    (hfuel : s.eventsUntil untilMs < fuel) (hfuel' : s.eventsUntil untilMs < fuel') :
    runWithFuel (fun _ => false) untilMs fuel s = runWithFuel (fun _ => false) untilMs fuel' s := by
  induction fuel generalizing s fuel' with
  | zero => exact absurd hfuel (Nat.not_lt_zero _)
  | succ fuel ih =>
    cases fuel' with
    | zero => exact absurd hfuel' (Nat.not_lt_zero _)
    | succ fuel' =>
      simp only [runWithFuel, if_neg Bool.false_ne_true]
      cases he : s.nextEvent? with
      | none => rfl
      | some e =>
        dsimp only
        split
        · next hle =>
          have hless := eventsUntil_happen ht hl he hle
          exact ih (hl.happen (mem_events_of_nextEvent? he)) (ht.happen hl he) (by omega) (by omega)
        · rfl

theorem Timely.eventsUntil_lt (ht : s.Timely) (untilMs : Nat) :
    s.eventsUntil untilMs < s.eventBound untilMs := by
  have hsum : (s.drains.map (·.looksUntil untilMs)).sum ≤
      (s.drains.map (·.looksUntil untilMs)).length *
        ((untilMs - s.nowMs) / lookIntervalMs + 2) := by
    refine List.sum_le_card_nsmul _ _ fun n hn => ?_
    obtain ⟨d, hd, rfl⟩ := List.mem_map.1 hn
    unfold Drain.looksUntil
    split
    · exact Nat.zero_le _
    · next hpending =>
      have hlook := ht.looks d hd (by simp_all)
      have hdiv : (untilMs - d.nextLookMs) / lookIntervalMs ≤
          (untilMs - s.nowMs) / lookIntervalMs := Nat.div_le_div_right (by omega)
      omega
  rw [List.length_map] at hsum
  unfold eventsUntil eventBound
  omega

theorem settle_eq (s : Schedule) : s.settle = runWithFuel (fun _ => false) s.nowMs
    (s.pickUpAll.eventBound s.nowMs) s.pickUpAll := rfl

theorem advance_eq (s : Schedule) (ms : Nat) : s.advance ms =
    { runWithFuel (fun _ => false) (s.nowMs + ms) (s.settle.eventBound (s.nowMs + ms)) s.settle with
      nowMs := s.nowMs + ms } := rfl

section
variable {I : Schedule → Prop} (hl : s.Ledger hs) (ht : s.Timely) (hi : I s)
  (hpick : ∀ s, s.Ledger hs → s.Timely → I s → I s.pickUpAll)
  (hstep : ∀ s e, s.Ledger hs → s.Timely → s.nextEvent? = some e → I s → I (s.happen e))

include hl ht hi hpick hstep

theorem settle_induction :
    s.settle.Ledger hs ∧ s.settle.Timely ∧ s.settle.nowMs ≤ s.nowMs ∧ I s.settle := by
  rw [settle_eq]
  exact runWithFuel_induction _ hl.pickUpAll ht.pickUpAll (Nat.le_of_eq s.serves_pickUpAll.nowMs)
    (hpick s hl ht hi) hstep

theorem advance_induction (htime : ∀ s n, s.nowMs ≤ n → I s → I { s with nowMs := n }) (ms : Nat) :
    I (s.advance ms) := by
  obtain ⟨hl', ht', hn', hi'⟩ := settle_induction hl ht hi hpick hstep
  have hlater : s.settle.nowMs ≤ s.nowMs + ms := Nat.le_add_right_of_le hn'
  obtain ⟨_, _, hn, hi⟩ := runWithFuel_induction
    (s.settle.eventBound (s.nowMs + ms)) hl' ht' hlater hi' hstep
  rw [advance_eq]
  exact htime _ _ hn hi

end

theorem advance_keeps {I : Schedule → Prop} (hl : s.Ledger hs) (ht : s.Timely) (hi : I s)
    (hpick : ∀ s, s.Ledger hs → I s → I s.pickUpAll)
    (hgive : ∀ s w, s.Ledger hs → w ∈ s.waiters → I s → I (s.giveUp w))
    (hlook : ∀ s i d, s.Ledger hs → s.drains[i]? = some d → d.done = false →
      s.nowMs = d.nextLookMs → I s → I (s.look i d))
    (htime : ∀ s n, s.nowMs ≤ n → I s → I { s with nowMs := n }) (ms : Nat) : I (s.advance ms) := by
  refine advance_induction hl ht hi (fun s hl _ hi => hpick s hl hi) (fun s e hl ht he hi => ?_)
    htime ms
  have hmem := mem_events_of_nextEvent? he
  rcases mem_events.1 hmem with ⟨w, hw, rfl⟩ | ⟨i, d, hd, hdone, rfl⟩
  · rw [happen_patience]
    have hi' := htime s (max s.nowMs w.deadlineMs) (Nat.le_max_left _ _) hi
    exact hpick _ ((hl.arrive _).giveUp hw) (hgive _ w (hl.arrive _) hw hi')
  · rw [happen_looks]
    have hi' := htime s (max s.nowMs d.nextLookMs) (Nat.le_max_left _ _) hi
    exact hpick _ ((hl.arrive _).look i d)
      (hlook _ i d (hl.arrive _) hd hdone (ht.now_eq hmem) hi')

theorem advance_last (hl : s.Ledger hs) (ht : s.Timely) (ms : Nat) :
    ∀ e ∈ (s.advance ms).events, s.nowMs + ms < e.time.1 := by
  obtain ⟨hl', ht', _, _⟩ := settle_induction (I := fun _ => True) hl ht trivial
    (fun _ _ _ _ => trivial) fun _ _ _ _ _ _ => trivial
  rw [advance_eq]
  exact runWithFuel_last _ hl' ht' (ht'.eventsUntil_lt _)

theorem nowMs_advance (s : Schedule) (ms : Nat) : (s.advance ms).nowMs = s.nowMs + ms := rfl

theorem Timely.advance (ht : s.Timely) (hl : s.Ledger hs) (ms : Nat) : (s.advance ms).Timely := by
  rw [timely_iff]
  intro e he
  rw [nowMs_advance]
  exact Nat.le_of_lt (advance_last hl ht ms e he)

theorem Timely.ask (ht : s.Timely) (ref : PoolRef) (e : Endpoint) : (s.ask ref e).2.Timely := by
  unfold Schedule.ask
  dsimp only
  cases (s.registry.ask ref s.nextTicket e).1 with
  | granted | refused why => exact ht.congr List.filter_sublist rfl rfl
  | waits =>
    refine ⟨fun w hw => ?_, ht.looks⟩
    rcases List.mem_append.1 hw with hw | hw
    · exact ht.waits w hw
    · rw [List.mem_singleton.1 hw]
      exact Nat.le_add_right _ _

theorem Timely.act (ht : s.Timely) (a : Act) : (s.act a).Timely := by
  cases a with
  | ask ref e => exact ht.ask ref e
  | release l => exact ht.congr (.refl _) rfl rfl
  | discard t =>
    change (s.discard t).Timely
    unfold Schedule.discard
    split
    · exact ht.congr (.refl _) rfl rfl
    · exact ht.congr List.filter_sublist rfl rfl
    · exact ht

theorem Timely.acts (ht : s.Timely) (as : List Act) : (s.acts as).Timely := by
  induction as generalizing s with
  | nil => exact ht
  | cons a as ih => exact ih (ht.act a)

theorem Timely.dispose (ht : s.Timely) (ref : PoolRef) : (s.dispose ref).Timely := by
  refine ⟨ht.waits, fun d hd hdone => ?_⟩
  rcases List.mem_append.1 hd with hd | hd
  · exact ht.looks d hd hdone
  · rw [List.mem_singleton.1 hd]
    exact Nat.le_refl _

theorem Timely.registry (ht : s.Timely) (r : Registry) : Timely { s with registry := r } :=
  ⟨ht.waits, ht.looks⟩

theorem Timely.reload (ht : s.Timely) (configs : List Config.Pool) (endpoints : List Endpoint) :
    (s.reload configs endpoints).2.Timely := by
  have hfold (refs : List PoolRef) (s : Schedule) (ht : s.Timely) :
      (refs.foldl Schedule.dispose s).Timely := by
    induction refs generalizing s with
    | nil => exact ht
    | cons ref refs ih => exact ih (s.dispose ref) (ht.dispose ref)
  exact hfold _ _ (ht.registry _)

end

end Schedule
end ReverseProxy.Pool
