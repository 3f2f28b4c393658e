import ReverseProxy.Proofs.Pool.Waking

set_option autoImplicit false

/-!
# What becomes of those who wait

A ticket waits at one pool until it is answered: with the lease it asked for, for want of patience,
or because the pool has closed. It is answered when its patience has passed at the latest.
-/
namespace ReverseProxy.Pool

namespace Registry

/-- Why a ticket for a lease may be refused. -/
def Excuses (r : Registry) (l : Lease) (why : Refusal) : Prop :=
  ∃ p, r.pool? l.pool = some p ∧
    (why = p.exhaustedRefusal l.endpoint ∨ p.closed = true ∧ why = p.closedRefusal)

def patienceAt (r : Registry) (ref : PoolRef) : Nat :=
  ((r.pool? ref).map (·.policy.borrowTimeout.millis)).getD 0

section
variable {r r' : Registry} {ref : PoolRef} {p : ConnectionPool} {l : Lease} {why : Refusal}

theorem patienceAt_eq (hp : r.pool? ref = some p) :
    r.patienceAt ref = p.policy.borrowTimeout.millis := by
  unfold patienceAt
  rw [hp]
  rfl

theorem Ages.patienceAt (h : r.Ages r') (hp : r.pool? ref = some p) :
    r'.patienceAt ref = r.patienceAt ref := by
  obtain ⟨q, hq, hpq⟩ := h ref p hp
  rw [patienceAt_eq hp, patienceAt_eq hq, hpq.policy]

theorem Served.patienceAt (h : r.Served r') (ref : PoolRef) :
    r'.patienceAt ref = r.patienceAt ref := by
  cases hp : r.pool? ref with
  | some p => exact h.ages.patienceAt hp
  | none =>
    have hnone : r'.pool? ref = none := by
      by_contra hsome
      obtain ⟨q, hq⟩ := Option.ne_none_iff_exists'.1 hsome
      obtain ⟨p, hp', _⟩ := h.pool?_back hq
      rw [hp] at hp'
      cases hp'
    unfold Registry.patienceAt
    rw [hp, hnone]

theorem Excuses.later (h : r.Excuses l why) (hr : r.Ages r') : r'.Excuses l why := by
  obtain ⟨p, hp, hwhy⟩ := h
  obtain ⟨q, hq, hpq⟩ := hr l.pool p hp
  refine ⟨q, hq, ?_⟩
  unfold ConnectionPool.exhaustedRefusal ConnectionPool.closedRefusal ConnectionPool.id at hwhy ⊢
  rw [hpq.policy]
  exact hwhy.imp_right fun hc => ⟨hpq.closed hc.1, hc.2⟩

theorem excuses_pickUp {t : Ticket} (h : (r.pickUp l.pool t).1 = .refused why) :
    r.Excuses l why := by
  unfold Registry.pickUp at h
  cases hp : r.pool? l.pool with
  | none =>
    rw [hp] at h
    cases h
  | some p =>
    rw [hp] at h
    dsimp only [ConnectionPool.pickUp] at h
    split at h
    · cases h
    split at h
    · next hc =>
      cases h
      exact ⟨p, hp, .inr ⟨hc, rfl⟩⟩
    · cases h

theorem excuses_giveUp {t : Ticket} (h : (r.giveUp l.pool t l.endpoint).1 = .refused why) :
    r.Excuses l why := by
  unfold Registry.giveUp at h
  cases hp : r.pool? l.pool with
  | none =>
    rw [hp] at h
    cases h
  | some p =>
    rw [hp] at h
    dsimp only [ConnectionPool.giveUp] at h
    split at h
    · refine excuses_pickUp (t := t) ?_
      unfold Registry.pickUp
      rw [hp]
      exact h
    · cases h
      exact ⟨p, hp, .inl rfl⟩

end

end Registry

namespace Schedule

/-- How a ticket for a lease fares. -/
inductive Fares (s : Schedule) (t : Ticket) (l : Lease) : Prop
  | waits (w : Waiter) (mem : w ∈ s.waiters) (ticket : w.ticket = t) (lease : w.lease = l)
  | leased (answer : s.answer? t = some (.ok l))
  | refused (why : Refusal) (answer : s.answer? t = some (.error why))
      (excuse : s.registry.Excuses l why)

def Patient (s : Schedule) : Prop :=
  ∀ w ∈ s.waiters, w.sinceMs ≤ s.nowMs ∧ w.patienceMs = s.registry.patienceAt w.lease.pool

section
variable {s s' : Schedule} {hs : List Holding} {h : Holding} {w : Waiter} {t : Ticket} {l : Lease}
  {i : Nat} {d : Drain}

theorem answer?_record_of_ne (hnone : s.answer? w.ticket = none) (hne : t ≠ w.ticket)
    {r : Registry} (asked : Asked) :
    ({ s with registry := r }.record w.ticket w.lease asked).answer? t = s.answer? t := by
  have hother (a : Answer) := answer?_answered (s := { s with registry := r }) hnone a t
  cases asked with
  | waits => rfl
  | granted => exact (hother (.ok w.lease)).trans (if_neg hne)
  | refused why => exact (hother (.error why)).trans (if_neg hne)

theorem Fares.keep (h : s.Fares t l) (hr : s.registry.Ages s'.registry)
    (hw : ∀ w ∈ s.waiters, w.ticket = t → w ∈ s'.waiters) (ha : s'.answer? t = s.answer? t) :
    s'.Fares t l := by
  cases h with
  | waits w mem ticket lease => exact .waits w (hw w mem ticket) ticket lease
  | leased answer => exact .leased (ha.trans answer)
  | refused why answer excuse => exact .refused why (ha.trans answer) (excuse.later hr)

theorem Fares.record (h : s.Fares t l) (hl : s.Ledger hs) (hw : w ∈ s.waiters) {r : Registry}
    {asked : Asked} (hr : s.registry.Ages r)
    (hwhy : ∀ why, asked = .refused why → r.Excuses w.lease why) :
    ({ s with registry := r }.record w.ticket w.lease asked).Fares t l := by
  have hnone := hl.unanswered w hw
  have hages : s.registry.Ages
      ({ s with registry := r }.record w.ticket w.lease asked).registry := by
    rw [registry_record]
    exact hr
  by_cases heq : t = w.ticket
  · subst heq
    -- A ticket waits once only, so it is told about the lease it asked for.
    have hlease : w.lease = l := by
      cases h with
      | waits v mem ticket lease =>
        rw [← lease, List.inj_on_of_nodup_map hl.waiting mem hw ticket]
      | leased answer | refused why answer =>
        rw [hnone] at answer
        cases answer
    have htold (a : Answer) := answer?_answered (s := { s with registry := r }) hnone a w.ticket
    cases asked with
    | waits => exact .waits w hw rfl hlease
    | granted => exact .leased ((htold (.ok w.lease)).trans (by rw [if_pos rfl, hlease]))
    | refused why =>
      exact .refused why ((htold (.error why)).trans (if_pos rfl)) (hlease ▸ hwhy why rfl)
  · refine h.keep hages (fun v hv hvt => ?_) (answer?_record_of_ne hnone heq asked)
    have hne : v.ticket ≠ w.ticket := fun hvw => heq (hvt ▸ hvw)
    cases asked with
    | waits => exact hv
    | granted | refused why => exact List.mem_filter.2 ⟨hv, bne_iff_ne.2 hne⟩

theorem Fares.pickUp (h : s.Fares t l) (hl : s.Ledger hs) (hw : w ∈ s.waiters) :
    (s.pickUp w).Fares t l := by
  have hages := (s.registry.served_pickUp w.lease.pool w.ticket).ages
  exact h.record hl hw hages fun why hwhy => (Registry.excuses_pickUp hwhy).later hages

theorem Fares.giveUp (h : s.Fares t l) (hl : s.Ledger hs) (hw : w ∈ s.waiters) :
    (s.giveUp w).Fares t l := by
  have hages := (s.registry.served_giveUp w.lease.pool w.ticket w.lease.endpoint).ages
  exact h.record hl hw hages fun why hwhy => (Registry.excuses_giveUp hwhy).later hages

theorem Fares.pickUpAll (h : s.Fares t l) (hl : s.Ledger hs) : s.pickUpAll.Fares t l :=
  (pickUpAll_induction (I := fun s => s.Fares t l) hl h fun _ _ hl hw h => h.pickUp hl hw).2

theorem Fares.advance (h : s.Fares t l) (hl : s.Ledger hs) (ht : s.Timely) (ms : Nat) :
    (s.advance ms).Fares t l := by
  refine advance_keeps (I := fun s => s.Fares t l) hl ht h (fun s hl h => h.pickUpAll hl)
    (fun s w hl hw h => h.giveUp hl hw) (fun s i d _ _ _ _ h => ?_) (fun s n _ h => ?_) ms
  · refine h.keep (s.ages_look i d) (fun w hw _ => (s.waiters_look i d).symm ▸ hw) ?_
    unfold Schedule.answer?
    rw [answers_look]
  · exact h.keep s.registry.ages_refl (fun w hw _ => hw) rfl

theorem Fares.reload (h : s.Fares t l) (configs : List Config.Pool) (endpoints : List Endpoint) :
    (s.reload configs endpoints).2.Fares t l := by
  obtain ⟨hages, hwaiters, hanswers, _⟩ := s.reload_keeps configs endpoints
  refine h.keep hages (fun w hw _ => hwaiters ▸ hw) ?_
  unfold Schedule.answer?
  rw [hanswers]

theorem Fresh.ask (hf : s.Fresh) (ref : PoolRef) (e : Endpoint) : (s.ask ref e).2.Fresh := by
  have hold : ∀ w ∈ s.waiters, w.ticket < s.nextTicket + 1 := fun w hw =>
    Nat.lt_succ_of_lt (hf.waiters w hw)
  have htold (a : Answer) : ∀ x ∈ s.answers ++ [(s.nextTicket, a)], x.1 < s.nextTicket + 1 := by
    intro x hx
    rcases List.mem_append.1 hx with hx | hx
    · exact Nat.lt_succ_of_lt (hf.answers x hx)
    · rw [List.mem_singleton.1 hx]
      exact Nat.lt_succ_self _
  unfold Schedule.ask
  dsimp only
  cases (s.registry.ask ref s.nextTicket e).1 with
  | granted | refused why => exact ⟨fun w hw => hold w (List.mem_of_mem_filter hw), htold _⟩
  | waits =>
    refine ⟨fun w hw => ?_, fun x hx => Nat.lt_succ_of_lt (hf.answers x hx)⟩
    rcases List.mem_append.1 hw with hw | hw
    · exact hold w hw
    · rw [List.mem_singleton.1 hw]
      exact Nat.lt_succ_self _

theorem answers_discard (s : Schedule) (t : Ticket) :
    (s.discard t).answers = s.answers ∧ (s.discard t).nextTicket = s.nextTicket := by
  unfold Schedule.discard
  split <;> exact ⟨rfl, rfl⟩

theorem Fresh.act (hf : s.Fresh) (a : Act) : (s.act a).Fresh := by
  cases a with
  | ask ref e => exact hf.ask ref e
  | release l => exact ⟨hf.waiters, hf.answers⟩
  | discard t =>
    obtain ⟨hanswers, hnext⟩ := s.answers_discard t
    change (s.discard t).Fresh
    refine ⟨fun w hw => ?_, fun x hx => ?_⟩
    · rw [hnext]
      exact hf.waiters w ((s.waiters_discard t).subset hw)
    · rw [hnext]
      exact hf.answers x (hanswers ▸ hx)

theorem Fares.ask (h : s.Fares t l) (hf : s.Fresh) (ref : PoolRef) (e : Endpoint) :
    (s.ask ref e).2.Fares t l := by
  have hgiven : t ≠ s.nextTicket := by
    rintro rfl
    cases h with
    | waits w mem ticket => exact hf.unused w mem ticket
    | leased answer | refused why answer =>
      rw [hf.unanswered] at answer
      cases answer
  refine h.keep (s.serves_ask ref e).registry.ages (fun w hw hwt => ?_) ?_
  · rw [ask_eq hf.unused]
    have hw' : w ∈ (s.enqueue (s.newWaiter ref e)).waiters := List.mem_append_left _ hw
    cases (s.registry.ask ref s.nextTicket e).1 with
    | waits => exact hw'
    | granted | refused why => exact List.mem_filter.2 ⟨hw', bne_iff_ne.2 (hf.unused w hw)⟩
  · rw [ask_eq hf.unused]
    exact answer?_record_of_ne (s := s.enqueue (s.newWaiter ref e)) (w := s.newWaiter ref e)
      hf.unanswered hgiven _

theorem Fares.discard {other : Ticket} (h : s.Fares t l) (hne : other ≠ t) :
    (s.discard other).Fares t l := by
  refine h.keep (s.serves_act (.discard other)).registry.ages (fun w hw hwt => ?_) ?_
  · unfold Schedule.discard
    split
    · exact hw
    · exact List.mem_filter.2 ⟨hw, bne_iff_ne.2 (hwt ▸ hne.symm)⟩
    · exact hw
  · unfold Schedule.answer?
    rw [(s.answers_discard other).1]

theorem Fares.acts (h : s.Fares t l) (hf : s.Fresh) {as : List Act} (hne : .discard t ∉ as) :
    (s.acts as).Fares t l := by
  induction as generalizing s with
  | nil => exact h
  | cons a as ih =>
    refine ih ?_ (hf.act a) fun hmem => hne (List.mem_cons_of_mem a hmem)
    cases a with
    | ask ref e => exact h.ask hf ref e
    | release l => exact h.keep (s.serves_release l).registry.ages (fun _ hw _ => hw) rfl
    | discard other => exact h.discard fun heq => hne (heq ▸ List.mem_cons_self)

theorem fares_ask (hf : s.Fresh) {p : ConnectionPool}
    (hp : s.registry.pool? l.pool = some p) (hopen : p.closed = false) :
    (s.ask l.pool l.endpoint).2.answer? s.nextTicket = some (.ok l) ∨
      (s.newWaiter l.pool l.endpoint ∈ (s.ask l.pool l.endpoint).2.waiters ∧
        (s.ask l.pool l.endpoint).2.answer? s.nextTicket = none) ∨
      (p.policy.fits = false ∧ (s.ask l.pool l.endpoint).2.answer? s.nextTicket =
        some (.error (.tooManySlots p.id))) := by
  have hasked : (s.registry.ask l.pool s.nextTicket l.endpoint).1 =
      (p.ask s.nextTicket l.endpoint).1 := by
    unfold Registry.ask
    rw [hp]
  have htold (r : Registry) (a : Answer) := answer?_answered
    (s := { s.enqueue (s.newWaiter l.pool l.endpoint) with registry := r }) hf.unanswered a
    s.nextTicket
  rw [ask_eq hf.unused, hasked]
  unfold ConnectionPool.ask
  rw [if_neg (by simp [hopen])]
  split
  · next hmany =>
    refine .inr (.inr ⟨?_, (htold _ (.error _)).trans (if_pos rfl)⟩)
    simpa using (Bool.and_eq_true_iff.1 hmany).2
  · dsimp only
    split
    · exact .inl ((htold _ (.ok l)).trans (if_pos rfl))
    · exact .inr (.inl ⟨List.mem_append_right _ List.mem_cons_self, hf.unanswered⟩)

theorem Patient.keep (h : s.Patient) (hw : s'.waiters ⊆ s.waiters) (hn : s.nowMs ≤ s'.nowMs)
    (hp : ∀ w ∈ s.waiters,
      s'.registry.patienceAt w.lease.pool = s.registry.patienceAt w.lease.pool) : s'.Patient := by
  intro w hmem
  obtain ⟨hsince, hpatience⟩ := h w (hw hmem)
  exact ⟨Nat.le_trans hsince hn, hpatience.trans (hp w (hw hmem)).symm⟩

theorem Patient.serves (h : s.Patient) (hs : s.Serves s') (hw : s'.waiters ⊆ s.waiters) :
    s'.Patient :=
  h.keep hw (Nat.le_of_eq hs.nowMs.symm) fun w _ => hs.registry.patienceAt w.lease.pool

theorem Patient.ask (h : s.Patient) (ref : PoolRef) (e : Endpoint) : (s.ask ref e).2.Patient := by
  have hserved := s.registry.served_ask ref s.nextTicket e
  have hold (w : Waiter) (hw : w ∈ s.waiters) : w.sinceMs ≤ s.nowMs ∧
      w.patienceMs = (s.registry.ask ref s.nextTicket e).2.patienceAt w.lease.pool := by
    rw [hserved.patienceAt]
    exact h w hw
  unfold Schedule.ask
  dsimp only
  cases (s.registry.ask ref s.nextTicket e).1 with
  | granted | refused why => exact fun w hw => hold w (List.mem_of_mem_filter hw)
  | waits =>
    intro w hw
    rcases List.mem_append.1 hw with hw | hw
    · exact hold w hw
    · rw [List.mem_singleton.1 hw]
      exact ⟨Nat.le_refl _, (hserved.patienceAt ref).symm⟩

theorem Patient.acts (h : s.Patient) (as : List Act) : (s.acts as).Patient := by
  induction as generalizing s with
  | nil => exact h
  | cons a as ih =>
    refine ih ?_
    cases a with
    | ask ref e => exact h.ask ref e
    | release l => exact h.serves (s.serves_release l) (List.Subset.refl _)
    | discard t => exact h.serves (s.serves_act (.discard t)) (s.waiters_discard t).subset

theorem Ledger.pool_of_mem (hl : s.Ledger hs) (hw : w ∈ s.waiters) :
    ∃ p, s.registry.pool? w.lease.pool = some p := by
  obtain ⟨p, hp, _⟩ := (hl.split hw).1.waiting
  exact ⟨p, hp⟩

theorem Patient.later (h : s.Patient) (hl : s.Ledger hs) (ha : s.registry.Ages s'.registry)
    (hw : s'.waiters ⊆ s.waiters) (hn : s.nowMs ≤ s'.nowMs) : s'.Patient :=
  h.keep hw hn fun w hmem => by
    obtain ⟨p, hp⟩ := hl.pool_of_mem hmem
    exact ha.patienceAt hp

theorem waiters_advance (hl : s.Ledger hs) (ht : s.Timely) (ms : Nat) :
    (s.advance ms).waiters ⊆ s.waiters :=
  advance_keeps (I := fun a => a.waiters ⊆ s.waiters) hl ht (List.Subset.refl _)
    (fun a _ h => List.Subset.trans a.waiters_pickUpAll.subset h)
    (fun a w hl hw h => by
      rw [waiters_giveUp hl hw]
      exact List.Subset.trans List.filter_sublist.subset h)
    (fun a i d _ _ _ _ h => by
      rw [waiters_look]
      exact h)
    (fun _ _ _ h => h) ms

theorem Patient.advance (h : s.Patient) (hl : s.Ledger hs) (ht : s.Timely) (ms : Nat) :
    (s.advance ms).Patient :=
  h.later hl (ages_advance hl ht ms) (waiters_advance hl ht ms) (Nat.le_add_right _ _)

theorem Patient.reload (h : s.Patient) (hl : s.Ledger hs) (configs : List Config.Pool)
    (endpoints : List Endpoint) : (s.reload configs endpoints).2.Patient := by
  obtain ⟨hages, hwaiters, _, _, hnow⟩ := s.reload_keeps configs endpoints
  exact h.later hl hages (hwaiters ▸ List.Subset.refl _) (Nat.le_of_eq hnow.symm)

/-- Nobody waits for longer than the pool's patience. -/
theorem Fares.answered (h : s.Fares t l) (hl : s.Ledger hs) (ht : s.Timely) (hp : s.Patient)
    {ms : Nat} (hms : s.registry.patienceAt l.pool ≤ ms) :
    ((s.advance ms).answer? t).isSome := by
  cases h.advance hl ht ms with
  | leased answer | refused why answer => rw [answer]; rfl
  | waits w mem ticket lease =>
    obtain ⟨hsince, hpatience⟩ := hp w (waiters_advance hl ht ms mem)
    have hlate := advance_last hl ht ms (.patienceEnds w) (mem_events.2 (.inl ⟨w, mem, rfl⟩))
    change s.nowMs + ms < w.sinceMs + w.patienceMs at hlate
    rw [hpatience, lease] at hlate
    omega

end

end Schedule
end ReverseProxy.Pool
