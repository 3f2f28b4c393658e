import ReverseProxy.Proofs.Proxy.Records

set_option autoImplicit false

namespace ReverseProxy.Proxy
open Request
open Pool (PoolRef ConnectionPool)

def started? : Moment → Option (Nat × Endpoint)
  | (p, .event (.request connection r)) => (p.startsTo? connection r).map fun e => (p.nextId, e)
  | _ => none

def started (H : List Moment) : List (Nat × Endpoint) := H.filterMap started?

def unended (H : List Moment) (rs : List Access.Record) : List (Nat × Endpoint) :=
  (started H).filter fun x => (recordsOf rs x.1).isEmpty

/-- The lease that a forward has been given, whether it has taken notice of it or not. -/
def lease? (p : Proxy) (f : Forward) : Option Pool.Lease := p.pools.leaseOf? f.holding

section
variable {p : Proxy} {H : List Moment} {rs : List Access.Record}

theorem started?_eq_some_iff {m : Moment} {id : Nat} {e : Endpoint} :
    started? m = some (id, e) ↔ ∃ s connection r, m = (s, .event (.request connection r)) ∧
      s.nextId = id ∧ s.startsTo? connection r = some e := by
  constructor
  · intro h
    unfold started? at h
    split at h
    · next s connection r =>
      obtain ⟨a, ha, heq⟩ := Option.map_eq_some_iff.1 h
      obtain ⟨rfl, rfl⟩ := Prod.mk.inj heq
      exact ⟨s, connection, r, rfl, rfl, ha⟩
    · cases h
  · rintro ⟨s, connection, r, rfl, rfl, hs⟩
    change (s.startsTo? connection r).map _ = _
    rw [hs]
    rfl

theorem requestId?_of_started? {m : Moment} {x : Nat × Endpoint} (h : started? m = some x) :
    requestId? m = some x.1 := by
  obtain ⟨s, connection, r, rfl, hid, _⟩ := started?_eq_some_iff.1 h
  exact congrArg some hid

theorem ids_started (H : List Moment) :
    ((started H).map Prod.fst).Sublist (H.filterMap requestId?) := by
  induction H with
  | nil => exact .refl _
  | cons m H ih =>
    unfold started at ih ⊢
    cases hm : started? m with
    | none =>
      rw [List.filterMap_cons_none hm]
      exact ih.trans ((List.sublist_cons_self m H).filterMap _)
    | some x =>
      rw [List.filterMap_cons_some hm, List.filterMap_cons_some (requestId?_of_started? hm)]
      exact ih.cons_cons x.1

theorem Logged.mem_forwards (hl : Logged H rs p) {id : Nat} {e : Endpoint} :
    (id, e) ∈ p.forwards.map (fun f => (f.context.id, f.endpoint)) ↔ (id, e) ∈ unended H rs := by
  unfold unended started
  rw [List.mem_filter, List.mem_filterMap, List.isEmpty_iff]
  constructor
  · intro hmem
    obtain ⟨f, hf, heq⟩ := List.mem_map.1 hmem
    obtain ⟨rfl, rfl⟩ := Prod.mk.inj heq
    obtain ⟨m, hm, hid⟩ := hl.forwards f hf
    obtain ⟨connection, r, hreq, hnext⟩ := exists_of_requestId? hid
    obtain ⟨_, hstarts, hnone⟩ := hl.forward hf (hreq ▸ hm) hnext
    exact ⟨⟨m, hm, started?_eq_some_iff.2 ⟨m.1, connection, r, hreq, hnext, hstarts⟩⟩, hnone⟩
  · rintro ⟨⟨m, hm, hstarted⟩, hnone⟩
    obtain ⟨s, connection, r, rfl, rfl, hstarts⟩ := started?_eq_some_iff.1 hstarted
    cases (hl.requests s connection r hm).2 with
    | underWay f forwards records starts concerns =>
      have hof : f ∈ p.forwardsOf s.nextId := by
        rw [forwards]
        exact List.mem_cons_self
      rw [hstarts, Option.some.injEq] at starts
      exact List.mem_map.2 ⟨f, List.mem_of_mem_filter hof, by rw [concerns.id, starts]⟩
    | ended c now forwards records concerns =>
      have hnone' : recordsOf rs s.nextId = [] := hnone
      rw [records] at hnone'
      cases hnone'

theorem Logged.forwards_perm (hl : Logged H rs p) (hp : p.Held)
    (hd : (H.filterMap requestId?).Nodup) :
    (p.forwards.map fun f => (f.context.id, f.endpoint)).Perm (unended H rs) := by
  have hforwards : (p.forwards.map fun f => (f.context.id, f.endpoint)).Nodup := by
    refine List.Nodup.of_map Prod.fst ?_
    rw [List.map_map]
    exact hp.ids
  have hstarted : (started H).Nodup := .of_map Prod.fst (hd.sublist (ids_started H))
  have hunended : (unended H rs).Nodup := hstarted.filter _
  rw [List.perm_ext_iff_of_nodup hforwards hunended]
  exact fun x => hl.mem_forwards

theorem Held.totalOf_change (hp : p.Held) (c : Change) (e : Endpoint) :
    (p.change c).2.totalOf e = p.totalOf e + (started? (p, c)).toList.countP (·.2 == e) := by
  cases hp.step c with
  | quiet quiet ledger told other =>
    have hnone : started? (p, c) = none := by
      rw [Option.eq_none_iff_forall_ne_some]
      intro x hx
      have hid := requestId?_of_started? hx
      rw [requestId?_of_other other] at hid
      cases hid
    rw [hnone]
    exact quiet.books.total e
  | turn f event underWay hevent turn =>
    subst hevent
    obtain ⟨added, hadds⟩ := turn.adds
    exact hadds.total e
  | intake connection r event intake =>
    subst event
    change _ = _ + List.countP _ ((p.startsTo? connection r).map fun e => (p.nextId, e)).toList
    cases intake with
    | answered p' c now admits forwards pending pools books id decision told fromCache served
        starts =>
      rw [starts]
      exact (books.total e).trans (admits.total e)
    | forwarded p' target admits served starts turn =>
      obtain ⟨added, hadds⟩ := turn.adds
      rw [starts, hadds.total, ← admits.total]
      refine (totalOf_changeStats _ target _ (n := 1) (fun _ => rfl) e).trans ?_
      by_cases heq : e = target
      · simp [heq]
        rfl
      · have heq' : ¬target = e := fun h => heq h.symm
        simp [heq, heq']
        rfl

theorem started_concat (H : List Moment) (m : Moment) :
    started (H ++ [m]) = started H ++ (started? m).toList := by
  unfold started
  rw [List.filterMap_append]
  cases hm : started? m with
  | none => rw [List.filterMap_cons_none hm]; rfl
  | some x => rw [List.filterMap_cons_some hm]; rfl

theorem totals_after (hp : p.Held) (ht : ∀ e, p.totalOf e = (started H).countP (·.2 == e))
    (cs : List Change) (e : Endpoint) :
    (p.after cs).totalOf e = (started (H ++ p.history cs)).countP (·.2 == e) := by
  induction cs generalizing p H with
  | nil =>
    rw [history, List.append_nil]
    exact ht e
  | cons c cs ih =>
    have hstep (e : Endpoint) :
        (p.change c).2.totalOf e = (started (H ++ [(p, c)])).countP (·.2 == e) := by
      rw [started_concat, List.countP_append, ← ht, hp.totalOf_change]
    have hlater := ih (hp.change c) hstep
    rw [List.append_assoc] at hlater
    exact hlater

/-- A pool has lent as many slots as there are forwards with a lease of it. -/
theorem Held.inFlight (hp : p.Held) {ref : PoolRef} {pool : ConnectionPool}
    (hpool : p.pools.registry.pool? ref = some pool) :
    pool.inFlight = p.forwards.countP fun f => (p.lease? f).any (·.pool == ref) := by
  obtain ⟨hlends, _⟩ := hp.ledger.backs.pools ref pool trivial hpool
  rw [hlends.inFlight]
  unfold Pool.lentBy Pool.Schedule.leases
  rw [List.length_map, ← List.countP_eq_length_filter, List.countP_filterMap, List.countP_map]
  refine List.countP_congr fun f _ => ?_
  change ((p.lease? f).map _).getD false = true ↔ _
  cases p.lease? f with
  | none => rfl
  | some l => rfl

theorem Held.free (hp : p.Held) (hnone : p.forwards = []) {ref : PoolRef} {pool : ConnectionPool}
    (hpool : p.pools.registry.pool? ref = some pool) {s : Pool.Slots} (hs : s ∈ pool.slots) :
    s.free = pool.policy.maxConnectionsPerEndpoint := by
  have hl := hp.ledger
  rw [hnone] at hl
  have hwaiters : p.pools.waiters = [] := by
    rw [List.eq_nil_iff_forall_not_mem]
    intro w hw
    exact List.not_mem_nil (hl.owned w hw)
  obtain ⟨hlends, htickets⟩ := hl.backs.pools ref pool trivial hpool
  rw [hwaiters] at htickets
  obtain ⟨hready, _⟩ := List.append_eq_nil_iff.1 htickets.eq_nil
  have hslot := hlends.slots s hs
  have hload : pool.load [] s.endpoint = 0 := by
    unfold ConnectionPool.load
    rw [hready]
    rfl
  change s.free + pool.load [] s.endpoint = _ at hslot
  omega

end

/-- Whatever happens to a proxy, as many forwards are pending as were started and have no record
yet, a pool has as many slots in flight as forwards hold leases of it, and an endpoint has counted
every forward that was ever started to it. So when all have ended nothing is pending, nothing is in
flight and every slot is free. -/
theorem nothing_leaks (c : Config) (mapper : Routing.Mapper) (pages : Pages) (keepsLog : Bool)
    (nowMs : Nat) (cs : List Change) :
    let start := new c mapper pages keepsLog nowMs
    let p := start.after cs
    let H := start.history cs
    ∃ rs : List Access.Record, p.log = (if keepsLog then rs else []) ∧
      (∀ action status, p.finishedOf action status =
        rs.countP fun r => r.action == action && r.status == status) ∧
      p.pending = (unended H rs).length ∧
      (p.forwards.map fun f => (f.context.id, f.endpoint)).Perm (unended H rs) ∧
      (∀ ref pool, p.pools.registry.pool? ref = some pool →
        pool.inFlight = p.forwards.countP fun f => (p.lease? f).any (·.pool == ref)) ∧
      (∀ e, p.totalOf e = (started H).countP (·.2 == e)) ∧
      (unended H rs = [] → p.pending = 0 ∧
        ∀ ref pool, p.pools.registry.pool? ref = some pool → pool.inFlight = 0 ∧
          ∀ s ∈ pool.slots, s.free = pool.policy.maxConnectionsPerEndpoint) := by
  intro start p H
  have hstart : start.Held := held_new c mapper pages keepsLog nowMs
  have hp : p.Held := hstart.after cs
  obtain ⟨rs, hlogged⟩ := logged_after hstart (logged_new c mapper pages keepsLog nowMs) cs
  rw [List.nil_append, List.nil_append] at hlogged
  have hkeeps : p.keepsLog = keepsLog := keepsLog_after hstart cs
  have hperm := hlogged.forwards_perm hp (nodup_requestIds hstart cs).1
  have hpending : p.pending = (unended H rs).length := by
    rw [hp.pending, ← hperm.length_eq, List.length_map]
  refine ⟨rs, hkeeps ▸ hlogged.log, hlogged.finishedOf, hpending, hperm,
    fun ref pool => hp.inFlight, totals_after (H := []) hstart (fun _ => rfl) cs, fun hended => ?_⟩
  have hnone : p.forwards = [] := List.map_eq_nil_iff.1 (hended ▸ hperm).eq_nil
  refine ⟨by rw [hpending, hended]; rfl, fun ref pool hpool => ⟨?_, fun s => hp.free hnone hpool⟩⟩
  rw [hp.inFlight hpool, hnone]
  rfl

theorem nothing_leaks_client_leaves :
    let connection : Connection := ⟨.v4 [127, 0, 0, 1] 50000, .v4 [127, 0, 0, 1] 8080, none⟩
    let r : Incoming := ⟨⟨"GET", ⟨none, none, "/page", none⟩, .http11, .empty⟩, []⟩
    let mapper : Routing.Mapper := ⟨.constant (some (.proxy "site" ⟨"10.0.0.1", 80⟩ false)), [], {}⟩
    let cs := [Change.event (.request connection r), .event (.forward 1 .clientLeaves)]
    ((new {} mapper .empty true 0).after (cs.take 1)).pending = 1 ∧
      ((new {} mapper .empty true 0).after cs).pending = 0 ∧
      ∃ pool, ((new {} mapper .empty true 0).after cs).pools.registry.pool? ⟨1, 0⟩ = some pool ∧
        pool.inFlight = 0 ∧ ∀ s ∈ pool.slots, s.free = pool.policy.maxConnectionsPerEndpoint := by
  intro connection r mapper cs
  obtain ⟨_, _, _, hpending, hperm, _⟩ := nothing_leaks {} mapper .empty true 0 (cs.take 1)
  have hone : ((new {} mapper .empty true 0).after (cs.take 1)).forwards.length = 1 := by
    decide +kernel
  rw [← hperm.length_eq, List.length_map] at hpending
  refine ⟨hpending.trans hone, ?_⟩
  obtain ⟨_, _, _, _, hperm, _, _, hended⟩ := nothing_leaks {} mapper .empty true 0 cs
  have hnone : ((new {} mapper .empty true 0).after cs).forwards.map
      (fun f => (f.context.id, f.endpoint)) = [] := by
    decide +kernel
  have hsome : (((new {} mapper .empty true 0).after cs).pools.registry.pool? ⟨1, 0⟩).isSome =
      true := by
    decide +kernel
  obtain ⟨pool, hpool⟩ := Option.isSome_iff_exists.1 hsome
  obtain ⟨hzero, hpools⟩ := hended (hnone ▸ hperm).symm.eq_nil
  obtain ⟨hflight, hfree⟩ := hpools ⟨1, 0⟩ pool hpool
  exact ⟨hzero, pool, hpool, hflight, hfree⟩

end ReverseProxy.Proxy
