import ReverseProxy.Proofs.Pool.Ledger

set_option autoImplicit false

namespace ReverseProxy.Pool

namespace ConnectionPool

structure Serves (p q : ConnectionPool) : Prop where
  policy : q.policy = p.policy
  generation : q.generation = p.generation
  closing : q.closing = p.closing
  closed : q.closed = p.closed
  known : p.slots.map Slots.endpoint <+: q.slots.map Slots.endpoint
  ebbs : p.closed = true → q.inFlight ≤ p.inFlight

section
variable {p q r : ConnectionPool}

theorem serves_refl (p : ConnectionPool) : p.Serves p :=
  ⟨rfl, rfl, rfl, rfl, List.prefix_rfl, fun _ => Nat.le_refl _⟩

theorem Serves.trans (h : p.Serves q) (h' : q.Serves r) : p.Serves r where
  policy := h'.policy.trans h.policy
  generation := h'.generation.trans h.generation
  closing := h'.closing.trans h.closing
  closed := h'.closed.trans h.closed
  known := h.known.trans h'.known
  ebbs hc := Nat.le_trans (h'.ebbs (h.closed.trans hc)) (h.ebbs hc)

theorem isSome_find?_iff {e : Endpoint} : (p.find? e).isSome ↔ e ∈ p.slots.map Slots.endpoint := by
  simp [ConnectionPool.find?]

theorem serves_setSlots (p : ConnectionPool) (s : Slots) : p.Serves (p.setSlots s) :=
  ⟨rfl, rfl, rfl, rfl, (endpoints_setSlots s).symm ▸ List.prefix_rfl, fun _ => Nat.le_refl _⟩

theorem serves_provision (p : ConnectionPool) (e : Endpoint) : p.Serves (p.provision e) := by
  unfold ConnectionPool.provision
  split
  · exact serves_refl p
  · refine ⟨rfl, rfl, rfl, rfl, ?_, fun _ => Nat.le_refl _⟩
    rw [List.map_append]
    exact List.prefix_append _ _

theorem serves_ask (t : Ticket) (e : Endpoint) (p : ConnectionPool) : p.Serves (p.ask t e).2 := by
  unfold ConnectionPool.ask
  split
  · exact serves_refl p
  split
  · exact serves_refl p
  next hopen _ =>
    have hprovision := serves_provision p e
    dsimp only
    split
    · have hset := hprovision.trans (serves_setSlots (p.provision e)
        { ((p.provision e).find? e).getD (slotsOf (p.provision e).policy e) with
          free := (((p.provision e).find? e).getD (slotsOf (p.provision e).policy e)).free - 1 })
      exact ⟨hset.policy, hset.generation, hset.closing, hset.closed, hset.known,
        fun hc => absurd hc hopen⟩
    · exact hprovision.trans (serves_setSlots _ _)

theorem serves_passOn (e : Endpoint) (p : ConnectionPool) : p.Serves (p.passOn e) := by
  unfold ConnectionPool.passOn
  cases p.find? e with
  | none => exact serves_refl p
  | some s =>
    dsimp only
    split
    · exact serves_setSlots p _
    · exact ⟨rfl, rfl, rfl, rfl, (serves_setSlots p _).known, fun _ => Nat.le_refl _⟩

theorem serves_release (e : Endpoint) (p : ConnectionPool) : p.Serves (p.release e) := by
  have hless : p.Serves { p with inFlight := p.inFlight - 1 } :=
    ⟨rfl, rfl, rfl, rfl, List.prefix_rfl, fun _ => Nat.sub_le _ _⟩
  exact hless.trans (serves_passOn e _)

theorem serves_unready (t : Ticket) (p : ConnectionPool) : p.Serves (p.unready t) :=
  ⟨rfl, rfl, rfl, rfl, List.prefix_rfl, fun _ => Nat.le_refl _⟩

theorem serves_pickUp (t : Ticket) (p : ConnectionPool) : p.Serves (p.pickUp t).2 := by
  unfold ConnectionPool.pickUp
  split
  · exact serves_refl p
  split
  · exact serves_unready t p
  · next hopen =>
    exact ⟨rfl, rfl, rfl, rfl, List.prefix_rfl, fun hc => absurd hc hopen⟩

theorem serves_leaveQueue (t : Ticket) (p : ConnectionPool) : p.Serves (p.leaveQueue t) := by
  refine ⟨rfl, rfl, rfl, rfl, ?_, fun _ => Nat.le_refl _⟩
  simp [ConnectionPool.leaveQueue, Function.comp_def]

theorem serves_giveUp (t : Ticket) (e : Endpoint) (p : ConnectionPool) :
    p.Serves (p.giveUp t e).2 := by
  unfold ConnectionPool.giveUp
  split
  · exact serves_pickUp t p
  · exact serves_leaveQueue t p

theorem serves_abandon (t : Ticket) (e : Endpoint) (p : ConnectionPool) :
    p.Serves (p.abandon t e) := by
  unfold ConnectionPool.abandon
  split
  · exact (serves_unready t p).trans (serves_passOn e _)
  · exact serves_leaveQueue t p

end

end ConnectionPool

namespace Registry

/-- Traffic of any amount goes to one pool at a time. -/
inductive Served (r : Registry) : Registry → Prop
  | same : Served r r
  | update {r' : Registry} (ref : PoolRef) (f : ConnectionPool → ConnectionPool)
      (hf : ∀ p : ConnectionPool, p.Serves (f p)) (h : Served r r') : Served r (r'.update ref f)

section
variable {r r' r'' : Registry} {ref : PoolRef} {p q : ConnectionPool}

theorem Served.trans (h : r.Served r') (h' : r'.Served r'') : r.Served r'' := by
  induction h' with
  | same => exact h
  | update ref f hf _ ih => exact .update ref f hf ih

theorem pool?_congr (h : r'.generations = r.generations) : r'.pool? = r.pool? := by
  funext ref
  unfold Registry.pool? Registry.pools
  rw [h]

theorem pool?_publish (r : Registry) (before after : ConnectionPool) :
    (r.publish before after).pool? = r.pool? := by
  refine pool?_congr ?_
  unfold publish
  split <;> rfl

theorem pool?_update (hp : r.pool? ref = some p) (f : ConnectionPool → ConnectionPool)
    (other : PoolRef) :
    (r.update ref f).pool? other = if other = ref then some (f p) else r.pool? other := by
  unfold Registry.update
  rw [hp]
  change ((r.setPool ref (f p)).publish p (f p)).pool? other = _
  rw [pool?_publish, pool?_setPool hp]

theorem update_of_none (hp : r.pool? ref = none) (f : ConnectionPool → ConnectionPool) :
    r.update ref f = r := by
  unfold Registry.update
  rw [hp]

theorem frame_update (r : Registry) (ref : PoolRef) (f : ConnectionPool → ConnectionPool) :
    (r.update ref f).generation = r.generation ∧ (r.update ref f).live = r.live ∧
      (r.update ref f).generations.length = r.generations.length := by
  unfold Registry.update
  cases r.pool? ref with
  | none => exact ⟨rfl, rfl, rfl⟩
  | some p =>
    dsimp only [publish]
    split <;> exact ⟨rfl, rfl, List.length_modify _ _ _⟩

theorem Served.frame (h : r.Served r') : r'.generation = r.generation ∧ r'.live = r.live ∧
    r'.generations.length = r.generations.length := by
  induction h with
  | same => exact ⟨rfl, rfl, rfl⟩
  | update ref f hf h ih =>
    obtain ⟨hgeneration, hlive, hlength⟩ := frame_update _ ref f
    exact ⟨hgeneration.trans ih.1, hlive.trans ih.2.1, hlength.trans ih.2.2⟩

theorem serves_update (hp : r.pool? ref = some p) (other : PoolRef)
    {f : ConnectionPool → ConnectionPool} (hf : ∀ p : ConnectionPool, p.Serves (f p)) :
    ∃ q, (r.update other f).pool? ref = some q ∧ p.Serves q := by
  cases ho : r.pool? other with
  | none => exact ⟨p, by rw [update_of_none ho, hp], p.serves_refl⟩
  | some a =>
    rw [pool?_update ho]
    by_cases heq : ref = other
    · rw [← heq, hp] at ho
      cases ho
      exact ⟨f p, if_pos heq, hf p⟩
    · exact ⟨p, by rw [if_neg heq, hp], p.serves_refl⟩

theorem Served.pool? (h : r.Served r') (hp : r.pool? ref = some p) :
    ∃ q, r'.pool? ref = some q ∧ p.Serves q := by
  induction h with
  | same => exact ⟨p, hp, p.serves_refl⟩
  | update other f hf _ ih =>
    obtain ⟨a, ha, hpa⟩ := ih
    obtain ⟨q, hq, haq⟩ := serves_update ha other hf
    exact ⟨q, hq, hpa.trans haq⟩

theorem Served.pool?_back (h : r.Served r') (hq : r'.pool? ref = some q) :
    ∃ p, r.pool? ref = some p ∧ p.Serves q := by
  cases hp : r.pool? ref with
  | some p =>
    obtain ⟨a, ha, hpa⟩ := h.pool? hp
    rw [hq] at ha
    cases ha
    exact ⟨p, rfl, hpa⟩
  | none =>
    exfalso
    induction h generalizing q with
    | same =>
      rw [hp] at hq
      cases hq
    | @update r' other f hf _ ih =>
      cases hr : r'.pool? ref with
      | some a => exact ih hr
      | none =>
        cases ho : r'.pool? other with
        | none =>
          rw [update_of_none ho, hr] at hq
          cases hq
        | some a =>
          have hne : ref ≠ other := by
            rintro rfl
            rw [hr] at ho
            cases ho
          rw [pool?_update ho, if_neg hne, hr] at hq
          cases hq

theorem served_update (r : Registry) (ref : PoolRef) {f : ConnectionPool → ConnectionPool}
    (hf : ∀ p : ConnectionPool, p.Serves (f p)) : r.Served (r.update ref f) :=
  .update ref f hf .same

theorem served_ask (r : Registry) (ref : PoolRef) (t : Ticket) (e : Endpoint) :
    r.Served (r.ask ref t e).2 := by
  unfold Registry.ask
  split
  · exact r.served_update ref (ConnectionPool.serves_ask t e)
  · exact .same

theorem served_pickUp (r : Registry) (ref : PoolRef) (t : Ticket) :
    r.Served (r.pickUp ref t).2 := by
  unfold Registry.pickUp
  split
  · exact r.served_update ref (ConnectionPool.serves_pickUp t)
  · exact .same

theorem served_giveUp (r : Registry) (ref : PoolRef) (t : Ticket) (e : Endpoint) :
    r.Served (r.giveUp ref t e).2 := by
  unfold Registry.giveUp
  split
  · exact r.served_update ref (ConnectionPool.serves_giveUp t e)
  · exact .same

end

end Registry

namespace Schedule

inductive Act where
  | ask (ref : PoolRef) (e : Endpoint)
  | release (l : Lease)
  | discard (t : Ticket)
deriving DecidableEq, Repr

def act (s : Schedule) : Act → Schedule
  | .ask ref e => (s.ask ref e).2
  | .release l => s.release l
  | .discard t => s.discard t

def acts (s : Schedule) (as : List Act) : Schedule := as.foldl act s

structure Serves (s s' : Schedule) : Prop where
  registry : s.registry.Served s'.registry
  drains : s'.drains = s.drains
  nowMs : s'.nowMs = s.nowMs

section
variable {s s' s'' : Schedule}

theorem serves_refl (s : Schedule) : s.Serves s := ⟨.same, rfl, rfl⟩

theorem Serves.trans (h : s.Serves s') (h' : s'.Serves s'') : s.Serves s'' :=
  ⟨h.registry.trans h'.registry, h'.drains.trans h.drains, h'.nowMs.trans h.nowMs⟩

theorem serves_record {r : Registry} (hr : s.registry.Served r) (t : Ticket) (l : Lease)
    (asked : Asked) : s.Serves ({ s with registry := r }.record t l asked) := by
  cases asked with
  | granted | waits | refused why => exact ⟨hr, rfl, rfl⟩

theorem serves_ask (s : Schedule) (ref : PoolRef) (e : Endpoint) : s.Serves (s.ask ref e).2 := by
  have hr := s.registry.served_ask ref s.nextTicket e
  unfold Schedule.ask
  dsimp only
  cases (s.registry.ask ref s.nextTicket e).1 with
  | granted | waits | refused why => exact ⟨hr, rfl, rfl⟩

theorem serves_release (s : Schedule) (l : Lease) : s.Serves (s.release l) :=
  ⟨s.registry.served_update l.pool (ConnectionPool.serves_release l.endpoint), rfl, rfl⟩

theorem serves_abandon (s : Schedule) (t : Ticket) (l : Lease) : s.Serves (s.abandon t l) :=
  ⟨s.registry.served_update l.pool (ConnectionPool.serves_abandon t l.endpoint), rfl, rfl⟩

theorem serves_act (s : Schedule) (a : Act) : s.Serves (s.act a) := by
  cases a with
  | ask ref e => exact s.serves_ask ref e
  | release l => exact s.serves_release l
  | discard t =>
    change s.Serves (s.discard t)
    unfold Schedule.discard
    split
    · exact s.serves_release _
    · exact s.serves_abandon t _
    · exact s.serves_refl

theorem serves_acts (s : Schedule) (as : List Act) : s.Serves (s.acts as) := by
  induction as generalizing s with
  | nil => exact s.serves_refl
  | cons a as ih => exact (s.serves_act a).trans (ih (s.act a))

theorem serves_pickUp (s : Schedule) (w : Waiter) : s.Serves (s.pickUp w) :=
  serves_record (s.registry.served_pickUp w.lease.pool w.ticket) w.ticket w.lease _

theorem serves_giveUp (s : Schedule) (w : Waiter) : s.Serves (s.giveUp w) :=
  serves_record (s.registry.served_giveUp w.lease.pool w.ticket w.lease.endpoint) w.ticket
    w.lease _

theorem serves_pickUpAll (s : Schedule) : s.Serves s.pickUpAll := by
  rw [pickUpAll_eq]
  generalize s.waiters = ws
  induction ws generalizing s with
  | nil => exact s.serves_refl
  | cons w ws ih => exact (s.serves_pickUp w).trans (ih (s.pickUp w))

end

end Schedule
end ReverseProxy.Pool
