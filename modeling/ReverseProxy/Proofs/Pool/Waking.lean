import ReverseProxy.Proofs.Pool.Drains

set_option autoImplicit false

namespace ReverseProxy.Pool

structure ConnectionPool.Ages (p q : ConnectionPool) : Prop where
  policy : q.policy = p.policy
  generation : q.generation = p.generation
  closing : p.closing = true → q.closing = true
  closed : p.closed = true → q.closed = true
  known : q.closed = false → p.slots.map Slots.endpoint <+: q.slots.map Slots.endpoint

namespace ConnectionPool

section
variable {p q r : ConnectionPool}

theorem ages_refl (p : ConnectionPool) : p.Ages p :=
  ⟨rfl, rfl, fun h => h, fun h => h, fun _ => List.prefix_rfl⟩

theorem Ages.trans (h : p.Ages q) (h' : q.Ages r) : p.Ages r where
  policy := h'.policy.trans h.policy
  generation := h'.generation.trans h.generation
  closing hc := h'.closing (h.closing hc)
  closed hc := h'.closed (h.closed hc)
  known hopen := by
    have hq : q.closed = false := Bool.eq_false_iff.2 fun hc => by simp [h'.closed hc] at hopen
    exact (h.known hq).trans (h'.known hopen)

theorem Serves.ages (h : p.Serves q) : p.Ages q :=
  ⟨h.policy, h.generation, h.closing.trans, h.closed.trans, fun _ => h.known⟩

theorem ages_closing (p : ConnectionPool) : p.Ages { p with closing := true } :=
  ⟨rfl, rfl, fun _ => rfl, fun h => h, fun _ => List.prefix_rfl⟩

theorem ages_close (p : ConnectionPool) : p.Ages p.close :=
  ⟨rfl, rfl, fun h => h, fun _ => rfl, fun hopen => by cases hopen⟩

theorem ready_pickUp (p : ConnectionPool) (t : Ticket) : (p.pickUp t).2.ready.Sublist p.ready := by
  unfold ConnectionPool.pickUp
  split
  · exact .refl _
  split <;> exact List.filter_sublist

theorem pickUp_of_waits {t : Ticket} (h : (p.pickUp t).1 = .waits) :
    p.isReady t = false ∧ (p.pickUp t).2 = p := by
  unfold ConnectionPool.pickUp at h ⊢
  split
  · next hr => exact ⟨by simpa using hr, rfl⟩
  · next hr =>
    rw [if_neg hr] at h
    split at h <;> cases h

end

end ConnectionPool

namespace Registry

def Ages (r r' : Registry) : Prop :=
  ∀ ref p, r.pool? ref = some p → ∃ q, r'.pool? ref = some q ∧ p.Ages q

section
variable {r r' r'' : Registry} {ref : PoolRef} {p : ConnectionPool}

theorem ages_refl (r : Registry) : r.Ages r := fun _ p hp => ⟨p, hp, p.ages_refl⟩

theorem Ages.trans (h : r.Ages r') (h' : r'.Ages r'') : r.Ages r'' := by
  intro ref p hp
  obtain ⟨q, hq, hpq⟩ := h ref p hp
  obtain ⟨a, ha, hqa⟩ := h' ref q hq
  exact ⟨a, ha, hpq.trans hqa⟩

theorem Served.ages (h : r.Served r') : r.Ages r' := by
  intro ref p hp
  obtain ⟨q, hq, hserves⟩ := h.pool? hp
  exact ⟨q, hq, hserves.ages⟩

theorem ages_of_pool? {q : ConnectionPool} (hp : r.pool? ref = some p) (hpq : p.Ages q)
    (hpool : ∀ other, r'.pool? other = if other = ref then some q else r.pool? other) :
    r.Ages r' := by
  intro other a ha
  rw [hpool]
  by_cases heq : other = ref
  · rw [heq, hp] at ha
    cases ha
    exact ⟨q, if_pos heq, hpq⟩
  · exact ⟨a, by rw [if_neg heq, ha], a.ages_refl⟩

theorem ages_close (r : Registry) (ref : PoolRef) : r.Ages (r.close ref) := by
  cases hp : r.pool? ref with
  | none =>
    unfold Registry.close
    rw [hp]
    exact r.ages_refl
  | some p => exact ages_of_pool? hp p.ages_close (pool?_close hp)

theorem ages_beginClosing (r : Registry) (ref : PoolRef) : r.Ages (r.beginClosing ref).2 := by
  cases hp : r.pool? ref with
  | none =>
    unfold Registry.beginClosing
    rw [hp]
    exact r.ages_refl
  | some p => exact ages_of_pool? hp p.ages_closing (pool?_beginClosing hp)

theorem ages_install (r : Registry) (configs : List Config.Pool) (endpoints : List Endpoint) :
    r.Ages (r.install configs endpoints) :=
  fun _ p hp => ⟨p, pool?_install_old configs endpoints hp, p.ages_refl⟩

theorem ages_forgo (r : Registry) (configs : List Config.Pool) : r.Ages (r.forgo configs) :=
  fun ref p hp => ⟨p, (r.pool?_forgo configs ref).trans hp, p.ages_refl⟩

end

end Registry

namespace Schedule

/-- Nobody waits at a pool that has closed. -/
def Attended (s : Schedule) : Prop :=
  ∀ w ∈ s.waiters, ∀ p, s.registry.pool? w.lease.pool = some p → p.closed = false

def Asleep (s : Schedule) (w : Waiter) : Prop :=
  ∃ p, s.registry.pool? w.lease.pool = some p ∧ p.isReady w.ticket = false

section
variable {s s' : Schedule} {hs : List Holding} {w v : Waiter}

theorem registry_record (t : Ticket) (l : Lease) (asked : Asked) :
    (s.record t l asked).registry = s.registry := by
  cases asked <;> rfl

theorem registry_pickUp (s : Schedule) (w : Waiter) :
    (s.pickUp w).registry = (s.registry.pickUp w.lease.pool w.ticket).2 :=
  registry_record w.ticket w.lease _

theorem Asleep.pickUp (h : s.Asleep v) (w : Waiter) : (s.pickUp w).Asleep v := by
  obtain ⟨p, hp, hasleep⟩ := h
  unfold Asleep
  rw [registry_pickUp]
  unfold Registry.pickUp
  cases ha : s.registry.pool? w.lease.pool with
  | none => exact ⟨p, hp, hasleep⟩
  | some a =>
    dsimp only
    rw [Registry.pool?_update ha]
    by_cases heq : v.lease.pool = w.lease.pool
    · rw [← heq, hp] at ha
      cases ha
      refine ⟨_, if_pos heq, ?_⟩
      unfold ConnectionPool.isReady at hasleep ⊢
      rw [List.any_eq_false] at hasleep ⊢
      exact fun a ha => hasleep a ((p.ready_pickUp w.ticket).subset ha)
    · exact ⟨p, by rw [if_neg heq, hp], hasleep⟩

theorem Ledger.asleep_of_mem (hl : s.Ledger hs) (hw : w ∈ s.waiters)
    (hstill : w ∈ (s.pickUp w).waiters) : (s.pickUp w).Asleep w := by
  obtain ⟨hbacks, _⟩ := hl.split hw
  obtain ⟨p, hp, _⟩ := hbacks.waiting
  have hasked : (s.registry.pickUp w.lease.pool w.ticket).1 = (p.pickUp w.ticket).1 := by
    unfold Registry.pickUp
    rw [hp]
  have hwaits : (p.pickUp w.ticket).1 = .waits := by
    rw [← hasked]
    unfold Schedule.pickUp at hstill
    cases ha : (s.registry.pickUp w.lease.pool w.ticket).1 with
    | waits => rfl
    | granted | refused why =>
      rw [ha] at hstill
      exact absurd rfl (bne_iff_ne.1 (List.mem_filter.1 hstill).2)
  obtain ⟨hready, hsame⟩ := ConnectionPool.pickUp_of_waits hwaits
  refine ⟨p, ?_, hready⟩
  rw [registry_pickUp]
  unfold Registry.pickUp
  rw [hp]
  dsimp only
  rw [Registry.pool?_update hp, if_pos rfl, hsame]

theorem Ledger.asleep_pickUpAll (hl : s.Ledger hs) (hv : v ∈ s.pickUpAll.waiters) :
    s.pickUpAll.Asleep v := by
  have hfold (ws : List Waiter) (s : Schedule) (hl : s.Ledger hs)
      (hd : (ws.map Waiter.ticket).Nodup) (hws : ∀ w ∈ ws, w ∈ s.waiters)
      (hmem : v ∈ ws ∨ s.Asleep v) (hv : v ∈ (ws.foldl Schedule.pickUp s).waiters) :
      (ws.foldl Schedule.pickUp s).Asleep v := by
    induction ws generalizing s with
    | nil => exact hmem.resolve_left List.not_mem_nil
    | cons w ws ih =>
      rw [List.map_cons, List.nodup_cons] at hd
      have hw := hws w List.mem_cons_self
      have hrest : ∀ u ∈ ws, u ∈ (s.pickUp w).waiters := fun u hu => by
        refine mem_waiters_pickUp (hws u (List.mem_cons_of_mem w hu)) fun heq => hd.1 ?_
        exact heq ▸ List.mem_map_of_mem hu
      refine ih (s.pickUp w) (hl.pickUp hw) hd.2 hrest ?_ hv
      rcases hmem with hmem | hasleep
      · rcases List.mem_cons.1 hmem with rfl | hmem
        · exact .inr (hl.asleep_of_mem hw ((waiters_foldl_pickUp ws (s.pickUp v)).subset hv))
        · exact .inl hmem
      · exact .inr (hasleep.pickUp w)
  rw [pickUpAll_eq] at hv ⊢
  exact hfold s.waiters s hl hl.waiting (fun w hw => hw) (.inl (s.waiters_pickUpAll.subset hv)) hv

/-- A pool that closes wakes everyone, so after a round nobody is left there. -/
theorem Ledger.attended_pickUpAll (hl : s.Ledger hs) : s.pickUpAll.Attended := by
  intro v hv p hp
  obtain ⟨q, hq, hasleep⟩ := hl.asleep_pickUpAll hv
  rw [hp] at hq
  cases hq
  obtain ⟨hbacks, _⟩ := hl.pickUpAll.split hv
  obtain ⟨q, hq, hlends, htickets⟩ := hbacks.waiting
  rw [hp] at hq
  cases hq
  by_contra hnot
  have hnil := hlends.closed (Bool.eq_true_of_not_eq_false hnot)
  have hmem : (v.ticket, v.lease.endpoint) ∈ p.tickets := htickets.symm.subset List.mem_cons_self
  rw [ConnectionPool.tickets, hnil] at hmem
  have hready : p.isReady v.ticket = true := by
    rw [ConnectionPool.isReady_iff]
    rcases List.mem_append.1 hmem with hmem | hmem
    · exact List.mem_map_of_mem hmem
    · exact (List.not_mem_nil hmem).elim
  rw [hready] at hasleep
  cases hasleep

theorem Attended.serves (h : s.Attended) (hs : s.Serves s')
    (hw : s'.waiters.Sublist s.waiters) : s'.Attended := by
  intro w hmem p hp
  obtain ⟨q, hq, hserves⟩ := hs.registry.pool?_back hp
  rw [hserves.closed]
  exact h w (hw.subset hmem) q hq

theorem Attended.ask (h : s.Attended) (ref : PoolRef) (e : Endpoint) :
    (s.ask ref e).2.Attended := by
  have hserves := s.serves_ask ref e
  intro w hw p hp
  obtain ⟨q, hq, hpq⟩ := hserves.registry.pool?_back hp
  rw [hpq.closed]
  unfold Schedule.ask at hw
  dsimp only at hw
  cases ha : (s.registry.ask ref s.nextTicket e).1 with
  | granted | refused why =>
    rw [ha] at hw
    exact h w (List.mem_of_mem_filter hw) q hq
  | waits =>
    rw [ha] at hw
    rcases List.mem_append.1 hw with hw | hw
    · exact h w hw q hq
    · rw [List.mem_singleton.1 hw] at hq
      change s.registry.pool? ref = some q at hq
      unfold Registry.ask at ha
      rw [hq] at ha
      dsimp only [ConnectionPool.ask] at ha
      by_contra hc
      rw [if_pos (Bool.eq_true_of_not_eq_false hc)] at ha
      cases ha

theorem waiters_discard (s : Schedule) (t : Ticket) :
    (s.discard t).waiters.Sublist s.waiters := by
  unfold Schedule.discard
  split
  · exact .refl _
  · exact List.filter_sublist
  · exact .refl _

theorem Attended.act (h : s.Attended) (a : Act) : (s.act a).Attended := by
  cases a with
  | ask ref e => exact h.ask ref e
  | release l => exact h.serves (s.serves_release l) (.refl _)
  | discard t => exact h.serves (s.serves_act (.discard t)) (s.waiters_discard t)

theorem Attended.acts (h : s.Attended) (as : List Act) : (s.acts as).Attended := by
  induction as generalizing s with
  | nil => exact h
  | cons a as ih => exact ih (h.act a)

theorem Attended.registry (h : s.Attended) {r : Registry}
    (hr : ∀ ref q, r.pool? ref = some q →
      q.closed = false ∨ ∃ p, s.registry.pool? ref = some p ∧ q.closed = p.closed) :
    Attended { s with registry := r } := by
  intro w hw q hq
  rcases hr _ q hq with hopen | ⟨p, hp, hsame⟩
  · exact hopen
  · exact hsame.trans (h w hw p hp)

theorem Attended.dispose (h : s.Attended) (ref : PoolRef) : (s.dispose ref).Attended := by
  have hregistry : Attended { s with registry := (s.registry.beginClosing ref).2 } := by
    refine h.registry fun other q hq => .inr ?_
    cases hp : s.registry.pool? ref with
    | none =>
      unfold Registry.beginClosing at hq
      rw [hp] at hq
      exact ⟨q, hq, rfl⟩
    | some p =>
      rw [Registry.pool?_beginClosing hp] at hq
      by_cases heq : other = ref
      · rw [if_pos heq] at hq
        cases hq
        exact ⟨p, heq ▸ hp, rfl⟩
      · rw [if_neg heq] at hq
        exact ⟨q, hq, rfl⟩
  exact hregistry

theorem Attended.reload (h : s.Attended) (configs : List Config.Pool)
    (endpoints : List Endpoint) : (s.reload configs endpoints).2.Attended := by
  have hinstalled : Attended { s with registry := s.registry.install configs endpoints } := by
    refine h.registry fun ref q hq => ?_
    cases hp : s.registry.pool? ref with
    | some p =>
      rw [Registry.pool?_install_old configs endpoints hp] at hq
      cases hq
      exact .inr ⟨q, rfl, rfl⟩
    | none =>
      obtain ⟨policy, _, rfl⟩ := Registry.pool?_install_new configs endpoints hp hq
      exact .inl rfl
  have hfold (refs : List PoolRef) (s : Schedule) (h : s.Attended) :
      (refs.foldl Schedule.dispose s).Attended := by
    induction refs generalizing s with
    | nil => exact h
    | cons ref refs ih => exact ih (s.dispose ref) (h.dispose ref)
  exact hfold _ _ hinstalled

theorem Attended.advance (h : s.Attended) (hl : s.Ledger hs) (ht : s.Timely) (ms : Nat) :
    (s.advance ms).Attended := by
  refine advance_induction hl ht h (fun s hl _ _ => hl.attended_pickUpAll)
    (fun s e hl ht he _ => ?_) (fun s n _ h => h) ms
  have hmem := mem_events_of_nextEvent? he
  rcases mem_events.1 hmem with ⟨w, hw, rfl⟩ | ⟨i, d, hd, hdone, rfl⟩
  · rw [happen_patience]
    exact ((hl.arrive (max s.nowMs w.deadlineMs)).giveUp hw).attended_pickUpAll
  · rw [happen_looks]
    exact ((hl.arrive (max s.nowMs d.nextLookMs)).look i d).attended_pickUpAll

theorem ages_look (s : Schedule) (i : Nat) (d : Drain) :
    s.registry.Ages (s.look i d).registry := by
  unfold Schedule.look
  split
  · exact s.registry.ages_close d.pool
  · exact s.registry.ages_refl

theorem answers_look (s : Schedule) (i : Nat) (d : Drain) : (s.look i d).answers = s.answers := by
  unfold Schedule.look
  split <;> rfl

theorem ages_advance (hl : s.Ledger hs) (ht : s.Timely) (ms : Nat) :
    s.registry.Ages (s.advance ms).registry :=
  advance_keeps (I := fun a => s.registry.Ages a.registry) hl ht s.registry.ages_refl
    (fun a _ h => h.trans a.serves_pickUpAll.registry.ages)
    (fun a w _ _ h => h.trans (a.serves_giveUp w).registry.ages)
    (fun a i d _ _ _ _ h => h.trans (a.ages_look i d)) (fun _ _ _ h => h) ms

theorem ages_acts (s : Schedule) (as : List Act) : s.registry.Ages (s.acts as).registry :=
  (s.serves_acts as).registry.ages

theorem ages_disposeAll (s : Schedule) (refs : List PoolRef) :
    s.registry.Ages (refs.foldl Schedule.dispose s).registry := by
  induction refs generalizing s with
  | nil => exact s.registry.ages_refl
  | cons ref refs ih => exact (s.registry.ages_beginClosing ref).trans (ih (s.dispose ref))

theorem reload_keeps (s : Schedule) (configs : List Config.Pool) (endpoints : List Endpoint) :
    let s' := (s.reload configs endpoints).2
    s.registry.Ages s'.registry ∧ s'.waiters = s.waiters ∧ s'.answers = s.answers ∧
      s'.nextTicket = s.nextTicket ∧ s'.nowMs = s.nowMs := by
  have hfold (refs : List PoolRef) (s : Schedule) :
      (refs.foldl Schedule.dispose s).waiters = s.waiters ∧
        (refs.foldl Schedule.dispose s).answers = s.answers ∧
        (refs.foldl Schedule.dispose s).nextTicket = s.nextTicket ∧
        (refs.foldl Schedule.dispose s).nowMs = s.nowMs := by
    induction refs generalizing s with
    | nil => exact ⟨rfl, rfl, rfl, rfl⟩
    | cons ref refs ih => exact ih (s.dispose ref)
  refine ⟨?_, hfold (s.registry.refs s.registry.generation)
    { s with registry := s.registry.install configs endpoints }⟩
  exact (s.registry.ages_install configs endpoints).trans
    (ages_disposeAll { s with registry := s.registry.install configs endpoints } _)

end

end Schedule
end ReverseProxy.Pool
