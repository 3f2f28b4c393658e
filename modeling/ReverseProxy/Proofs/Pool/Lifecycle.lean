import Mathlib.Data.List.Induction
import ReverseProxy.Proofs.Pool.Usage

set_option autoImplicit false

namespace ReverseProxy.Pool.Usage

/-- The first time that a pool was told to close fixed when it has to. -/
def Told (start : Usage) (us : List Use) (policy : Policy) (deadline : Nat) : Prop :=
  ∃ before after, us = before ++ .dispose :: after ∧ .dispose ∉ before ∧
    deadline = (start.uses before).schedule.nowMs + policy.disposeTimeout.millis

def Agrees (s s' : Schedule) : Prop :=
  ∃ d rest rest', s.drains = d :: rest ∧ s' = { s with drains := d :: rest' } ∧
    ∀ a ∈ rest ++ rest', a.done = true

section
variable {s s' : Schedule} {u u' : Usage} {policy : Policy} {generation : Nat}
  {hs hs' : List Holding} {us : List Use}

theorem uses_append (u : Usage) (us vs : List Use) : u.uses (us ++ vs) = (u.uses us).uses vs :=
  List.foldl_append

theorem Sound.deadline {p : ConnectionPool} (h : u.Sound policy generation)
    (hp : u.pool? = some p) (hc : p.closed = true) : ∃ deadline,
      u.schedule.deadline? only = some deadline ∧
        (u.alive ≠ [] → deadline ≤ u.schedule.nowMs) := by
  obtain ⟨deadline, closedAt, hdeadline, _, hpast, hlate⟩ := h.drained.closedAt hp hc
  refine ⟨deadline, hdeadline, fun halive => Nat.le_trans (hlate ?_) hpast⟩
  rw [(h.lends hp).inFlight]
  exact fun hzero => halive (List.length_eq_zero_iff.1 hzero)

theorem Told.append {u : Usage} {deadline : Nat} (h : Told u us policy deadline)
    (vs : List Use) : Told u (us ++ vs) policy deadline := by
  obtain ⟨before, after, rfl, hfirst, hdeadline⟩ := h
  exact ⟨before, after ++ vs, by rw [List.append_assoc]; rfl, hfirst, hdeadline⟩

theorem Sound.deadline?_use (h : u.Sound policy generation) (a : Use) :
    (u.use a).schedule.deadline? only = match a with
      | .dispose => (u.schedule.deadline? only).or
          (some (u.schedule.nowMs + policy.disposeTimeout.millis))
      | _ => u.schedule.deadline? only := by
  cases a with
  | lease e =>
    have hserves := u.schedule.serves_ask only e
    exact Schedule.deadline?_congr (congrArg (List.map _) hserves.drains) only
  | drop t =>
    have hserves := u.schedule.serves_act (.discard t)
    unfold Usage.use
    dsimp only
    split
    · exact Schedule.deadline?_congr (congrArg (List.map _) hserves.drains) only
    · rfl
  | timePasses ms =>
    exact Schedule.deadline?_congr (Schedule.orders_advance h.ledger h.timely ms) only
  | dispose =>
    obtain ⟨p, hp, hpolicy, _⟩ := h.sole.pool
    have hdrain := Schedule.drain?_dispose h.drained hp only
    rw [if_pos rfl] at hdrain
    unfold Schedule.deadline?
    change Option.map _ ((u.schedule.dispose only).drain? only) = _
    rw [hdrain, Option.map_or, hpolicy]
    rfl

theorem told (us : List Use) (endpoints : List Endpoint) :
    let u := start policy generation endpoints
    (∀ deadline, (u.uses us).schedule.deadline? only = some deadline → Told u us policy deadline) ∧
      ((u.uses us).schedule.deadline? only = none → .dispose ∉ us) := by
  intro u
  induction us using List.reverseRecOn with
  | nil => exact ⟨fun _ h => (by cases h), fun _ => List.not_mem_nil⟩
  | append_singleton us a ih =>
    have hsound : (u.uses us).Sound policy generation :=
      (sound_start policy generation endpoints).uses us
    have hlast : u.uses (us ++ [a]) = (u.uses us).use a := uses_append u us [a]
    rw [hlast, hsound.deadline?_use a]
    cases a with
    | lease | drop | timePasses =>
      refine ⟨fun deadline h => (ih.1 deadline h).append _, fun h hmem => ?_⟩
      rcases List.mem_append.1 hmem with hmem | hmem
      · exact ih.2 h hmem
      · cases List.mem_singleton.1 hmem
    | dispose =>
      cases hd : (u.uses us).schedule.deadline? only with
      | some deadline =>
        rw [hd] at ih
        exact ⟨fun deadline h => (ih.1 deadline h).append _, fun h => by cases h⟩
      | none =>
        refine ⟨fun deadline h => ⟨us, [], rfl, ih.2 hd, (Option.some.inj h).symm⟩, fun h => ?_⟩
        cases h

theorem Agrees.events (h : Agrees s s') : s'.events = s.events := by
  obtain ⟨d, rest, rest', hdrains, rfl, hdone⟩ := h
  have hnone (l : List Drain) (hl : ∀ a ∈ l, a.done = true) (n : Nat) :
      (l.zipIdx n).filter (fun p => !p.1.done) = [] := by
    rw [List.filter_eq_nil_iff]
    rintro ⟨a, i⟩ ha
    simpa using hl a (List.fst_mem_of_mem_zipIdx ha)
  unfold Schedule.events
  dsimp only
  rw [hdrains, List.zipIdx_cons, List.zipIdx_cons, List.filter_cons, List.filter_cons,
    hnone rest (fun a ha => hdone a (List.mem_append_left _ ha)),
    hnone rest' (fun a ha => hdone a (List.mem_append_right _ ha))]

theorem act_drains (s : Schedule) (ds : List Drain) (a : Schedule.Act) :
    ({ s with drains := ds } : Schedule).act a = { s.act a with drains := ds } := by
  cases a with
  | ask ref e =>
    change (Schedule.ask _ ref e).2 = { (Schedule.ask _ ref e).2 with drains := ds }
    unfold Schedule.ask
    dsimp only
    cases (s.registry.ask ref s.nextTicket e).1 <;> rfl
  | release l => rfl
  | discard t =>
    change Schedule.discard _ t = { s.discard t with drains := ds }
    unfold Schedule.discard Schedule.answer?
    dsimp only
    split <;> rfl

theorem giveUp_drains (s : Schedule) (ds : List Drain) (w : Waiter) :
    ({ s with drains := ds } : Schedule).giveUp w = { s.giveUp w with drains := ds } := by
  unfold Schedule.giveUp
  dsimp only
  cases (s.registry.giveUp w.lease.pool w.ticket w.lease.endpoint).1 <;> rfl

theorem pickUp_drains (s : Schedule) (ds : List Drain) (w : Waiter) :
    ({ s with drains := ds } : Schedule).pickUp w = { s.pickUp w with drains := ds } := by
  unfold Schedule.pickUp
  dsimp only
  cases (s.registry.pickUp w.lease.pool w.ticket).1 <;> rfl

theorem pickUpAll_drains (s : Schedule) (ds : List Drain) :
    ({ s with drains := ds } : Schedule).pickUpAll = { s.pickUpAll with drains := ds } := by
  have hfold (ws : List Waiter) (s : Schedule) :
      ws.foldl Schedule.pickUp { s with drains := ds } =
        { ws.foldl Schedule.pickUp s with drains := ds } := by
    induction ws generalizing s with
    | nil => rfl
    | cons w ws ih => rw [List.foldl_cons, pickUp_drains, ih, List.foldl_cons]
  exact hfold s.waiters s

theorem Agrees.pickUpAll (h : Agrees s s') : Agrees s.pickUpAll s'.pickUpAll := by
  obtain ⟨d, rest, rest', hdrains, rfl, hdone⟩ := h
  exact ⟨d, rest, rest', s.serves_pickUpAll.drains.trans hdrains, pickUpAll_drains s _, hdone⟩

theorem Agrees.act (h : Agrees s s') (a : Schedule.Act) : Agrees (s.act a) (s'.act a) := by
  obtain ⟨d, rest, rest', hdrains, rfl, hdone⟩ := h
  exact ⟨d, rest, rest', (s.serves_act a).drains.trans hdrains, act_drains s _ a, hdone⟩

theorem Agrees.time (h : Agrees s s') (n : Nat) :
    Agrees { s with nowMs := n } { s' with nowMs := n } := by
  obtain ⟨d, rest, rest', hdrains, rfl, hdone⟩ := h
  exact ⟨d, rest, rest', hdrains, rfl, hdone⟩

theorem Agrees.nowMs (h : Agrees s s') : s'.nowMs = s.nowMs := by
  obtain ⟨d, rest, rest', hdrains, rfl, hdone⟩ := h
  rfl

theorem Agrees.happen (h : Agrees s s') {e : Schedule.Event} (he : e ∈ s.events) :
    Agrees (s.happen e) (s'.happen e) := by
  have hlater := h.time (max s.nowMs e.time.1)
  rcases Schedule.mem_events.1 he with ⟨w, hw, rfl⟩ | ⟨i, a, ha, hgoing, rfl⟩
  · rw [Schedule.happen_patience, Schedule.happen_patience, h.nowMs]
    obtain ⟨d, rest, rest', hdrains, hs', hdone⟩ := hlater
    refine Agrees.pickUpAll ⟨d, rest, rest', ?_, ?_, hdone⟩
    · exact (Schedule.serves_giveUp _ w).drains.trans hdrains
    · rw [show ({ s' with nowMs := max s.nowMs w.deadlineMs } : Schedule) = _ from hs']
      exact giveUp_drains _ _ w
  · rw [Schedule.happen_looks, Schedule.happen_looks, h.nowMs]
    obtain ⟨d, rest, rest', hdrains, hs', hdone⟩ := hlater
    rw [show ({ s' with nowMs := max s.nowMs a.nextLookMs } : Schedule) = _ from hs']
    have hfirst : i = 0 ∧ a = d := by
      change s.drains = d :: rest at hdrains
      rw [hdrains] at ha
      cases i with
      | zero => exact ⟨rfl, (Option.some.inj ha).symm⟩
      | succ i =>
        have hover := hdone a (List.mem_append_left _ (List.mem_of_getElem? ha))
        rw [hgoing] at hover
        cases hover
    obtain ⟨rfl, rfl⟩ := hfirst
    refine Agrees.pickUpAll ?_
    have hset (b : Drain) : s.drains.set 0 b = b :: rest := by
      change s.drains = a :: rest at hdrains
      rw [hdrains]
      rfl
    unfold Schedule.look
    dsimp only
    split
    · next hmay => exact ⟨_, rest, rest', hset _, (if_pos hmay).trans rfl, hdone⟩
    · next hmay => exact ⟨_, rest, rest', hset _, (if_neg hmay).trans rfl, hdone⟩

theorem Agrees.runWithFuel (h : Agrees s s') (untilMs fuel : Nat) :
    Agrees (Schedule.runWithFuel (fun _ => false) untilMs fuel s)
      (Schedule.runWithFuel (fun _ => false) untilMs fuel s') := by
  induction fuel generalizing s s' with
  | zero => exact h
  | succ fuel ih =>
    have hnext : s'.nextEvent? = s.nextEvent? := by
      unfold Schedule.nextEvent?
      rw [h.events]
    simp only [Schedule.runWithFuel, if_neg Bool.false_ne_true]
    rw [hnext]
    cases he : s.nextEvent? with
    | none => exact h
    | some e =>
      dsimp only
      split
      · exact ih (h.happen (Schedule.mem_events_of_nextEvent? he))
      · exact h

/-- The number of drains bounds the events, but no run comes to that bound. -/
theorem Agrees.runs (h : Agrees s s') {n : Nat} (hl : s.Ledger hs) (ht : s.Timely)
    (hl' : s'.Ledger hs') (ht' : s'.Timely) :
    Agrees (Schedule.runWithFuel (fun _ => false) n (s.eventBound n) s)
      (Schedule.runWithFuel (fun _ => false) n (s'.eventBound n) s') := by
  have hbound := ht.eventsUntil_lt n
  have hbound' := ht'.eventsUntil_lt n
  have hsame := h.runWithFuel n (s.eventBound n + s'.eventBound n)
  rw [Schedule.runWithFuel_enough hl ht hbound (Nat.lt_add_right _ hbound),
    Schedule.runWithFuel_enough hl' ht' hbound' (Nat.lt_add_left _ hbound')]
  exact hsame

theorem Agrees.advance (h : Agrees s s') (hl : s.Ledger hs) (ht : s.Timely)
    (hl' : s'.Ledger hs') (ht' : s'.Timely) (ms : Nat) : Agrees (s.advance ms) (s'.advance ms) := by
  have hsettled : Agrees s.settle s'.settle := by
    rw [Schedule.settle_eq, Schedule.settle_eq, h.nowMs]
    exact h.pickUpAll.runs hl.pickUpAll ht.pickUpAll hl'.pickUpAll ht'.pickUpAll
  obtain ⟨hl, ht, _⟩ := Schedule.settle_induction (I := fun _ => True) hl ht trivial
    (fun _ _ _ _ => trivial) fun _ _ _ _ _ _ => trivial
  obtain ⟨hl', ht', _⟩ := Schedule.settle_induction (I := fun _ => True) hl' ht' trivial
    (fun _ _ _ _ => trivial) fun _ _ _ _ _ _ => trivial
  rw [Schedule.advance_eq, Schedule.advance_eq, h.nowMs]
  exact (hsettled.runs hl ht hl' ht').time _

theorem Agrees.dispose (h : Agrees s s') {p : ConnectionPool}
    (hp : s.registry.pool? only = some p) (hclosing : p.closing = true) :
    Agrees (s.dispose only) (s'.dispose only) := by
  obtain ⟨d, rest, rest', hdrains, rfl, hdone⟩ := h
  have hp' : ({ s with drains := d :: rest' } : Schedule).registry.pool? only = some p := hp
  rw [Schedule.dispose_eq hp, Schedule.dispose_eq hp', hdrains, hclosing]
  let a : Drain := ⟨only, s.nowMs + p.policy.disposeTimeout.millis, s.nowMs, true⟩
  refine ⟨d, rest ++ [a], rest' ++ [a], rfl, rfl, fun b hb => ?_⟩
  simp only [List.mem_append, List.mem_singleton] at hb hdone
  rcases hb with (hb | rfl) | (hb | rfl)
  · exact hdone b (.inl hb)
  · rfl
  · exact hdone b (.inr hb)
  · rfl

end

end ReverseProxy.Pool.Usage
