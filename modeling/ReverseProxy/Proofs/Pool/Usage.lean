import ReverseProxy.Proofs.Pool.Fares

set_option autoImplicit false

/-!
# The use of a pool

A pool is used by callers who ask it for leases and go again, it is told to close any number of
times, and time passes. Whatever they do, its numbers agree with the leases that are alive, and it
lends no more slots of an endpoint than its policy allows.
-/
namespace ReverseProxy.Pool

def Registry.solo (p : ConnectionPool) : Registry := Registry.register ⟨[[p]], 1, [], []⟩ p

/-- What happens to a pool. -/
inductive Use where
  | lease (e : Endpoint)
  | drop (t : Ticket)
  | dispose
  | timePasses (ms : Nat)
deriving DecidableEq, Repr

/-- A pool and the lease calls whose callers have not gone. -/
structure Usage where
  schedule : Schedule
  calls : List Ticket := []

theorem ConnectionPool.Lends.count_le {p : ConnectionPool} {out : List Endpoint} (h : p.Lends out)
    (hopen : p.closed = false) (e : Endpoint) :
    out.count e ≤ p.policy.maxConnectionsPerEndpoint := by
  by_cases hzero : p.load out e = 0
  · unfold ConnectionPool.load at hzero
    omega
  · obtain ⟨s, hs, rfl⟩ := h.known hopen e hzero
    have hslots := h.slots s hs
    unfold ConnectionPool.load at hslots
    omega

namespace Registry

section
variable {r : Registry} {ref : PoolRef} {t : Ticket} {e : Endpoint}

theorem open_of_pickUp (h : (r.pickUp ref t).1 = .granted) :
    ∃ p, r.pool? ref = some p ∧ p.closed = false := by
  unfold Registry.pickUp at h
  cases hp : r.pool? ref with
  | none =>
    rw [hp] at h
    cases h
  | some p =>
    rw [hp] at h
    refine ⟨p, rfl, ?_⟩
    dsimp only [ConnectionPool.pickUp] at h
    split at h
    · cases h
    split at h
    · cases h
    · next hc => exact Bool.eq_false_iff.2 hc

theorem open_of_giveUp (h : (r.giveUp ref t e).1 = .granted) :
    ∃ p, r.pool? ref = some p ∧ p.closed = false := by
  refine open_of_pickUp (t := t) ?_
  unfold Registry.giveUp at h
  unfold Registry.pickUp
  cases hp : r.pool? ref with
  | none =>
    rw [hp] at h
    cases h
  | some p =>
    rw [hp] at h
    dsimp only [ConnectionPool.giveUp] at h
    split at h
    · exact h
    · cases h

theorem ask_of_closed {p : ConnectionPool} (hp : r.pool? ref = some p) (hc : p.closed = true) :
    (r.ask ref t e).1 = .refused p.closedRefusal := by
  unfold Registry.ask
  rw [hp]
  dsimp only [ConnectionPool.ask]
  rw [if_pos hc]

end

end Registry

namespace Usage

def only : PoolRef := ⟨1, 0⟩

def start (policy : Policy) (generation : Nat) (endpoints : List Endpoint) : Usage :=
  { schedule := { registry := .solo (.new policy generation endpoints) } }

def use (u : Usage) : Use → Usage
  | .lease e => ⟨(u.schedule.ask only e).2, u.schedule.nextTicket :: u.calls⟩
  | .drop t => if t ∈ u.calls then ⟨u.schedule.discard t, u.calls.erase t⟩ else u
  | .dispose => { u with schedule := u.schedule.dispose only }
  | .timePasses ms => { u with schedule := u.schedule.advance ms }

def uses (u : Usage) (us : List Use) : Usage := us.foldl use u

def pool? (u : Usage) : Option ConnectionPool := u.schedule.registry.pool? only

def alive (u : Usage) : List Endpoint :=
  (u.schedule.leases (u.calls.map .ticket)).map Lease.endpoint

structure Sole (s : Schedule) (policy : Policy) (generation : Nat) : Prop where
  pool : ∃ p, s.registry.pool? only = some p ∧ p.policy = policy ∧ p.generation = generation ∧
    s.registry.live = if p.closed then [] else [Registry.key p]
  unique : ∀ ref q, s.registry.pool? ref = some q → ref = only
  drains : ∀ d ∈ s.drains, d.pool = only

def Bounded (s : Schedule) (hs : List Holding) (n : Nat) : Prop :=
  ∀ e, (lentBy (s.leases hs) only).count e ≤ n

structure Sound (u : Usage) (policy : Policy) (generation : Nat) : Prop where
  ledger : u.schedule.Ledger (u.calls.map .ticket)
  timely : u.schedule.Timely
  drained : u.schedule.Drained
  attended : u.schedule.Attended
  sole : Sole u.schedule policy generation
  bounded : Bounded u.schedule (u.calls.map .ticket) policy.maxConnectionsPerEndpoint

section
variable {s s' : Schedule} {u : Usage} {policy : Policy} {generation : Nat} {hs : List Holding}

theorem bounded_of_open {p : ConnectionPool} (hl : s.Ledger hs)
    (hp : s.registry.pool? only = some p) (hopen : p.closed = false) :
    Bounded s hs p.policy.maxConnectionsPerEndpoint :=
  (hl.backs.pools only p trivial hp).1.count_le hopen

theorem Bounded.record {n : Nat} {w : Waiter} {r : Registry} {asked : Asked}
    (hb : Bounded s hs n) (hl : s.Ledger hs) (hw : w ∈ s.waiters) (hne : asked ≠ .granted) :
    Bounded ({ s with registry := r }.record w.ticket w.lease asked) hs n := by
  have htidy : Schedule.Tidy { s with registry := r } hs :=
    ⟨hl.waiting, hl.owned, hl.unanswered, hl.held, hl.fresh⟩
  intro e
  cases asked with
  | granted => exact absurd rfl hne
  | waits => exact hb e
  | refused why =>
    have hsame := Schedule.leases_answered htidy (hl.owned w hw) (hl.unanswered w hw) (.error why)
    exact (lentBy_perm hsame only).count_eq e ▸ hb e

theorem Sole.serves (h : Sole s policy generation) (hs : s.Serves s') :
    Sole s' policy generation := by
  obtain ⟨p, hp, hpolicy, hgeneration, hlive⟩ := h.pool
  obtain ⟨q, hq, hpq⟩ := hs.registry.pool? hp
  refine ⟨⟨q, hq, hpq.policy.trans hpolicy, hpq.generation.trans hgeneration, ?_⟩,
    fun ref a ha => ?_, hs.drains ▸ h.drains⟩
  · rw [hs.registry.frame.2.1, hlive, hpq.closed]
    unfold Registry.key ConnectionPool.id
    rw [hpq.policy, hpq.generation]
  · obtain ⟨b, hb, _⟩ := hs.registry.pool?_back ha
    exact h.unique ref b hb

theorem Sole.look (h : Sole s policy generation) {i : Nat} {d : Drain}
    (hd : s.drains[i]? = some d) : Sole (s.look i d) policy generation := by
  obtain ⟨p, hp, hpolicy, hgeneration, hlive⟩ := h.pool
  have hpool := h.drains d (List.mem_of_getElem? hd)
  have hdrains : ∀ a ∈ (s.look i d).drains, a.pool = only := by
    intro a ha
    rcases s.drains_look i d with hset | hset
    · rw [hset] at ha
      rcases List.mem_or_eq_of_mem_set ha with ha | rfl
      · exact h.drains a ha
      · exact hpool
    · rw [hset] at ha
      rcases List.mem_or_eq_of_mem_set ha with ha | rfl
      · exact h.drains a ha
      · exact hpool
  unfold Schedule.look at hdrains ⊢
  rw [hpool] at hdrains ⊢
  split
  · next hmay =>
    rw [if_pos hmay] at hdrains
    refine ⟨⟨p.close, ?_, hpolicy, hgeneration, ?_⟩, fun ref q hq => ?_, hdrains⟩
    · change (s.registry.close only).pool? only = _
      rw [Registry.pool?_close hp, if_pos rfl]
    · change (s.registry.close only).live = []
      unfold Registry.close
      rw [hp]
      change s.registry.live.filter _ = []
      rw [hlive]
      split
      · rfl
      · exact List.filter_cons_of_neg (by simp)
    · change (s.registry.close only).pool? ref = _ at hq
      rw [Registry.pool?_close hp] at hq
      by_cases heq : ref = only
      · exact heq
      · rw [if_neg heq] at hq
        exact h.unique ref q hq
  · next hmay =>
    rw [if_neg hmay] at hdrains
    exact ⟨⟨p, hp, hpolicy, hgeneration, hlive⟩, h.unique, hdrains⟩

theorem Sole.dispose (h : Sole s policy generation) : Sole (s.dispose only) policy generation := by
  obtain ⟨p, hp, hpolicy, hgeneration, hlive⟩ := h.pool
  rw [Schedule.dispose_eq hp]
  refine ⟨⟨{ p with closing := true }, ?_, hpolicy, hgeneration, ?_⟩, fun ref q hq => ?_,
    fun d hd => ?_⟩
  · change (s.registry.beginClosing only).2.pool? only = _
    rw [Registry.pool?_beginClosing hp, if_pos rfl]
  · unfold Registry.beginClosing
    rw [hp]
    exact hlive
  · change (s.registry.beginClosing only).2.pool? ref = _ at hq
    rw [Registry.pool?_beginClosing hp] at hq
    by_cases heq : ref = only
    · exact heq
    · rw [if_neg heq] at hq
      exact h.unique ref q hq
  · rcases List.mem_append.1 hd with hd | hd
    · exact h.drains d hd
    · rw [List.mem_singleton.1 hd]

section
variable {w : Waiter} (hl : s.Ledger hs) (hsole : Sole s policy generation)
  (hb : Bounded s hs policy.maxConnectionsPerEndpoint)

include hl hsole hb

theorem Bounded.told (hw : w ∈ s.waiters) {r : Registry} {asked : Asked}
    (hl' : ({ s with registry := r }.record w.ticket w.lease asked).Ledger hs)
    (hserves : s.Serves ({ s with registry := r }.record w.ticket w.lease asked))
    (hopen : asked = .granted → ∃ p, s.registry.pool? w.lease.pool = some p ∧ p.closed = false) :
    Bounded ({ s with registry := r }.record w.ticket w.lease asked) hs
      policy.maxConnectionsPerEndpoint := by
  by_cases hgranted : asked = .granted
  · obtain ⟨p, hp, hc⟩ := hopen hgranted
    rw [hsole.unique _ p hp] at hp
    obtain ⟨q, hq, hpq⟩ := hserves.registry.pool? hp
    obtain ⟨a, ha, hpolicy, _⟩ := (hsole.serves hserves).pool
    rw [hq] at ha
    cases ha
    exact hpolicy ▸ bounded_of_open hl' hq (hpq.closed.trans hc)
  · exact hb.record hl hw hgranted

theorem Bounded.pickUp (hw : w ∈ s.waiters) :
    Bounded (s.pickUp w) hs policy.maxConnectionsPerEndpoint :=
  hb.told hl hsole hw (hl.pickUp hw) (s.serves_pickUp w) Registry.open_of_pickUp

theorem Bounded.giveUp (hw : w ∈ s.waiters) :
    Bounded (s.giveUp w) hs policy.maxConnectionsPerEndpoint :=
  hb.told hl hsole hw (hl.giveUp hw) (s.serves_giveUp w) Registry.open_of_giveUp

theorem Bounded.advance (ht : s.Timely) (ms : Nat) : Sole (s.advance ms) policy generation ∧
    Bounded (s.advance ms) hs policy.maxConnectionsPerEndpoint := by
  refine Schedule.advance_keeps (I := fun s => Sole s policy generation ∧
      Bounded s hs policy.maxConnectionsPerEndpoint) hl ht ⟨hsole, hb⟩ (fun s hl h => ?_)
    (fun s w hl hw h => ⟨h.1.serves (s.serves_giveUp w), h.2.giveUp hl h.1 hw⟩)
    (fun s i d hl hd _ _ h => ⟨h.1.look hd, ?_⟩)
    (fun _ _ _ h => ⟨⟨h.1.pool, h.1.unique, h.1.drains⟩, h.2⟩) ms
  · exact (Schedule.pickUpAll_induction (I := fun s => Sole s policy generation ∧
      Bounded s hs policy.maxConnectionsPerEndpoint) hl h fun s w hl hw h =>
        ⟨h.1.serves (s.serves_pickUp w), h.2.pickUp hl h.1 hw⟩).2
  · have hanswer : (s.look i d).answer? = s.answer? := by
      funext t
      unfold Schedule.answer?
      rw [Schedule.answers_look]
    unfold Bounded Schedule.leases Schedule.leaseOf?
    rw [hanswer]
    exact h.2

theorem Bounded.ask (e : Endpoint) :
    Bounded (s.ask only e).2 (.ticket s.nextTicket :: hs) policy.maxConnectionsPerEndpoint := by
  obtain ⟨p, hp, hpolicy, _⟩ := hsole.pool
  cases hc : p.closed with
  | false =>
    obtain ⟨q, hq, hpq⟩ := (s.serves_ask only e).registry.pool? hp
    have hbound := bounded_of_open (Schedule.deals_ask only e hp hs hl.nothing) hq
      (hpq.closed.trans hc)
    rw [hpq.policy, hpolicy] at hbound
    exact hbound
  | true =>
    have hfresh := hl.fresh_tickets
    have hnone := hfresh.unanswered
    have htidy := hl.toTidy.enqueue (w := s.newWaiter only e) hnone rfl
    have hsame := Schedule.leases_answered htidy List.mem_cons_self hnone
      (.error p.closedRefusal)
    intro a
    rw [Schedule.ask_eq hfresh.unused, Registry.ask_of_closed hp hc]
    refine Nat.le_trans (Nat.le_of_eq ?_) (hb a)
    refine ((lentBy_perm hsame only).count_eq a).trans ?_
    rw [Schedule.leases_enqueue hnone]
    rfl

end

theorem pool?_solo {p q : ConnectionPool} {ref : PoolRef}
    (hq : (Registry.solo p).pool? ref = some q) : ref = only ∧ q = p := by
  have hzero := Registry.generation_ne_zero hq
  unfold Registry.pool? Registry.pools at hq
  rw [if_neg hzero] at hq
  change ([[p]].getD (ref.generation - 1) [])[ref.place]? = some q at hq
  cases hn : ref.generation - 1 with
  | succ n =>
    rw [hn] at hq
    cases hq
  | zero =>
    rw [hn] at hq
    cases hplace : ref.place with
    | succ place =>
      rw [hplace] at hq
      cases hq
    | zero =>
      rw [hplace] at hq
      cases hq
      have hone : ref.generation = 1 := by omega
      refine ⟨?_, rfl⟩
      cases ref
      cases hone
      cases hplace
      rfl

theorem sound_start (policy : Policy) (generation : Nat) (endpoints : List Endpoint) :
    (start policy generation endpoints).Sound policy generation := by
  obtain ⟨hlends, htickets⟩ := ConnectionPool.lends_new policy generation endpoints
  refine ⟨⟨⟨List.nodup_nil, fun w hw => (List.not_mem_nil hw).elim,
    fun w hw => (List.not_mem_nil hw).elim, List.nodup_nil, fun t ht => ?_⟩,
    ⟨List.cons_ne_nil _ _, fun l hl => (List.not_mem_nil hl).elim, fun ref q _ hq => ?_⟩⟩,
    ⟨fun w hw => (List.not_mem_nil hw).elim, fun d hd => (List.not_mem_nil hd).elim⟩,
    Schedule.drained_start _ fun ref q hq => ?_, fun w hw => (List.not_mem_nil hw).elim,
    ⟨⟨.new policy generation endpoints, rfl, rfl, rfl, rfl⟩, fun ref q hq => (pool?_solo hq).1,
      fun d hd => (List.not_mem_nil hd).elim⟩, fun e => Nat.zero_le _⟩
  · exact ht.elim (fun hmem => (List.not_mem_nil hmem).elim) fun hne => absurd rfl hne
  · rw [(pool?_solo hq).2]
    exact ⟨hlends, htickets ▸ .refl _⟩
  · rw [(pool?_solo hq).2]
    exact ⟨rfl, rfl⟩

theorem Sound.use (h : u.Sound policy generation) (a : Use) :
    (u.use a).Sound policy generation := by
  cases a with
  | lease e =>
    obtain ⟨p, hp, _⟩ := h.sole.pool
    have hserves := u.schedule.serves_ask only e
    exact ⟨Schedule.deals_ask only e hp (u.calls.map .ticket) h.ledger.nothing,
      h.timely.ask only e, h.drained.serves hserves, h.attended.ask only e, h.sole.serves hserves,
      h.bounded.ask h.ledger h.sole e⟩
  | drop t =>
    unfold Usage.use
    dsimp only
    split
    · next hmem =>
      have hserves := u.schedule.serves_act (.discard t)
      have hperm := (List.perm_cons_erase hmem).map Holding.ticket
      have hl := Schedule.deals_discard u.schedule t _ (h.ledger.perm hperm)
      refine ⟨hl.of_nothing, h.timely.act (.discard t), h.drained.serves hserves,
        h.attended.act (.discard t), h.sole.serves hserves, fun e => ?_⟩
      have hanswer : (u.schedule.discard t).answer? = u.schedule.answer? := by
        unfold Schedule.discard
        split <;> rfl
      have hfewer : ((u.schedule.discard t).leases ((u.calls.erase t).map .ticket)).Sublist
          (u.schedule.leases (u.calls.map .ticket)) := by
        unfold Schedule.leases Schedule.leaseOf?
        rw [hanswer]
        exact (List.erase_sublist.map _).filterMap _
      exact Nat.le_trans (((hfewer.filter _).map _).count_le e) (h.bounded e)
    · exact h
  | dispose =>
    obtain ⟨p, hp, _⟩ := h.sole.pool
    exact ⟨h.ledger.dispose only, h.timely.dispose only, h.drained.dispose hp,
      h.attended.dispose only, h.sole.dispose, h.bounded⟩
  | timePasses ms =>
    obtain ⟨hsole, hbounded⟩ := h.bounded.advance h.ledger h.sole h.timely ms
    exact ⟨h.ledger.advance ms, h.timely.advance h.ledger ms,
      h.drained.advance h.ledger h.timely ms, h.attended.advance h.ledger h.timely ms, hsole,
      hbounded⟩

theorem Sound.uses (h : u.Sound policy generation) (us : List Use) :
    (u.uses us).Sound policy generation := by
  induction us generalizing u with
  | nil => exact h
  | cons a us ih => exact ih (h.use a)

theorem Sound.ages (h : u.Sound policy generation) (us : List Use) :
    u.schedule.registry.Ages (u.uses us).schedule.registry := by
  induction us generalizing u with
  | nil => exact Registry.ages_refl _
  | cons a us ih =>
    refine Registry.Ages.trans ?_ (ih (h.use a))
    cases a with
    | lease e => exact (u.schedule.serves_ask only e).registry.ages
    | drop t =>
      unfold Usage.use
      dsimp only
      split
      · exact (u.schedule.serves_act (.discard t)).registry.ages
      · exact Registry.ages_refl _
    | dispose => exact Registry.ages_beginClosing _ only
    | timePasses ms => exact Schedule.ages_advance h.ledger h.timely ms

theorem Sound.lent (h : u.Sound policy generation) :
    lentBy (u.schedule.leases (u.calls.map .ticket)) only = u.alive := by
  unfold lentBy alive
  rw [List.filter_eq_self.2]
  intro l hl
  obtain ⟨p, hp⟩ := h.ledger.backs.known l (List.mem_append_left _ hl) trivial
  exact beq_iff_eq.2 (h.sole.unique _ p hp)

theorem Sound.lends (h : u.Sound policy generation) {p : ConnectionPool}
    (hp : u.pool? = some p) : p.Lends u.alive := by
  rw [← h.lent]
  exact (h.ledger.backs.pools only p trivial hp).1

theorem Sound.of_policy {p : ConnectionPool} (h : u.Sound policy generation)
    (hp : u.pool? = some p) : p.policy = policy ∧ p.generation = generation ∧
      u.schedule.registry.live = if p.closed then [] else [Registry.key p] := by
  obtain ⟨q, hq, hrest⟩ := h.sole.pool
  unfold Usage.pool? at hp
  rw [hp] at hq
  cases hq
  exact hrest

theorem Sound.available {p : ConnectionPool} (h : u.Sound policy generation)
    (hp : u.pool? = some p) (hopen : p.closed = false) {e : Endpoint}
    (hnone : ∀ w ∈ u.schedule.waiters, w.lease.endpoint ≠ e) :
    ((p.available? e).getD policy.maxConnectionsPerEndpoint) + u.alive.count e =
      policy.maxConnectionsPerEndpoint := by
  have hlends := h.lends hp
  have htickets := (h.ledger.backs.pools only p trivial hp).2
  have hready : (p.ready.map Prod.snd).count e = 0 := by
    rw [List.count_eq_zero]
    intro hmem
    obtain ⟨x, hx, rfl⟩ := List.mem_map.1 hmem
    have hwaits := htickets.subset (List.mem_append_left _ hx)
    obtain ⟨y, hy, rfl⟩ := List.mem_map.1 hwaits
    obtain ⟨w, hw, rfl⟩ := List.mem_map.1 (List.mem_of_mem_filter hy)
    exact hnone w hw rfl
  have hload : p.load u.alive e = u.alive.count e := by
    unfold ConnectionPool.load
    rw [hready, Nat.add_zero]
  unfold ConnectionPool.available?
  cases hfind : p.find? e with
  | none =>
    have hzero : u.alive.count e = 0 := by
      rw [← hload]
      by_contra hne
      obtain ⟨s, hs, hse⟩ := hlends.known hopen e hne
      exact ConnectionPool.find?_eq_none_iff.1 hfind s hs hse
    rw [hzero]
    rfl
  | some s =>
    obtain ⟨hmem, rfl⟩ := ConnectionPool.find?_some hfind
    have hslots := hlends.slots s hmem
    rw [hload, (h.of_policy hp).1] at hslots
    exact hslots

end

end Usage
end ReverseProxy.Pool
