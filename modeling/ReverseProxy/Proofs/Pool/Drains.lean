import ReverseProxy.Proofs.Pool.Timing

set_option autoImplicit false

namespace ReverseProxy

theorem Duration.millis_ofMillis (n : Nat) : (Duration.ofMillis n).millis = n :=
  Nat.mul_div_cancel n (by decide)

namespace Pool

theorem Registry.pool?_close {r : Registry} {ref : PoolRef} {p : ConnectionPool}
    (hp : r.pool? ref = some p) (other : PoolRef) :
    (r.close ref).pool? other = if other = ref then some p.close else r.pool? other := by
  have hsame : (r.close ref).pool? = (r.setPool ref p.close).pool? := by
    refine Registry.pool?_congr ?_
    unfold Registry.close
    rw [hp]
  rw [hsame, Registry.pool?_setPool hp]

theorem Registry.pool?_beginClosing {r : Registry} {ref : PoolRef} {p : ConnectionPool}
    (hp : r.pool? ref = some p) (other : PoolRef) : (r.beginClosing ref).2.pool? other =
      if other = ref then some { p with closing := true } else r.pool? other := by
  unfold Registry.beginClosing
  rw [hp]
  exact Registry.pool?_setPool hp _ other

theorem Registry.pool?_install_old {r : Registry} {ref : PoolRef} {p : ConnectionPool}
    (configs : List Config.Pool) (endpoints : List Endpoint) (hp : r.pool? ref = some p) :
    (r.install configs endpoints).pool? ref = some p :=
  Registry.pool?_append_old (Registry.current_install r configs endpoints).1 hp

theorem Registry.pool?_install_new {r : Registry} {ref : PoolRef} {p : ConnectionPool}
    (configs : List Config.Pool) (endpoints : List Endpoint) (hr : r.pool? ref = none)
    (hp : (r.install configs endpoints).pool? ref = some p) :
    ∃ policy ∈ activePolicies configs,
      p = ConnectionPool.new policy (r.generations.length + 1) endpoints := by
  obtain ⟨hgenerations, hcurrent⟩ := Registry.current_install r configs endpoints
  have hmem := Registry.pool?_append_new hgenerations hr hp
  rw [hcurrent] at hmem
  obtain ⟨policy, hpolicy, rfl⟩ := List.mem_map.1 hmem
  exact ⟨policy, hpolicy, rfl⟩

theorem Registry.pool?_of_mem_refs {r : Registry} {ref : PoolRef} {generation : Nat}
    (h : ref ∈ r.refs generation) : ref.generation = generation ∧ ∃ p, r.pool? ref = some p := by
  obtain ⟨place, hlt, rfl⟩ := List.mem_map.1 h
  exact ⟨rfl, _, List.getElem?_eq_getElem (List.mem_range.1 hlt)⟩

namespace Schedule

def drain? (s : Schedule) (ref : PoolRef) : Option Drain := s.drains.find? (·.pool == ref)

def deadline? (s : Schedule) (ref : PoolRef) : Option Nat := (s.drain? ref).map Drain.deadlineMs

def closedAt? (s : Schedule) (ref : PoolRef) : Option Nat :=
  ((s.drain? ref).filter Drain.done).map Drain.nextLookMs

/-- The pools that were told to close and when each had to, in the order they were told. -/
def orders (s : Schedule) : List (PoolRef × Nat) := s.drains.map fun d => (d.pool, d.deadlineMs)

structure Drained (s : Schedule) : Prop where
  known : ∀ d ∈ s.drains, ∃ p, s.registry.pool? d.pool = some p
  again : s.drains.Pairwise fun d d' => d.pool = d'.pool → d'.done = true
  closing : ∀ ref p, s.registry.pool? ref = some p → p.closing = (s.drain? ref).isSome
  closed : ∀ ref p, s.registry.pool? ref = some p → p.closed = (s.drain? ref).any Drain.done
  overdue : ∀ ref p d, s.registry.pool? ref = some p → s.drain? ref = some d → d.done = true →
    p.inFlight ≠ 0 → d.deadlineMs ≤ d.nextLookMs
  past : ∀ d ∈ s.drains, d.done = true → d.nextLookMs ≤ s.nowMs

section
variable {s s' : Schedule} {hs : List Holding} {d d' : Drain} {i : Nat} {ref : PoolRef}
  {p : ConnectionPool}

theorem drain?_some (h : s.drain? ref = some d) : d ∈ s.drains ∧ d.pool = ref :=
  ⟨List.mem_of_find?_eq_some h, by simpa using List.find?_some h⟩

theorem drain?_eq_none : s.drain? ref = none ↔ ref ∉ s.drains.map Drain.pool :=
  Keyed.find?_eq_none_iff

theorem Drained.drain?_of_going (h : s.Drained) (hd : s.drains[i]? = some d)
    (hdone : d.done = false) (b : Drain) (hb : b.pool = d.pool) :
    s.drain? d.pool = some d ∧ ∀ s' : Schedule, s'.drains = s.drains.set i b → ∀ ref,
      s'.drain? ref = if ref = d.pool then some b else s.drain? ref := by
  obtain ⟨before, after, hsplit, hset⟩ := exists_set hd b
  have hbefore : ∀ a ∈ before, a.pool ≠ d.pool := by
    intro a ha heq
    have hpair := h.again
    rw [hsplit, List.pairwise_append] at hpair
    have hdone' := hpair.2.2 a ha d List.mem_cons_self heq
    rw [hdone] at hdone'
    cases hdone'
  have hnone : before.find? (·.pool == d.pool) = none := by
    rw [List.find?_eq_none]
    exact fun a ha => by simpa using hbefore a ha
  refine ⟨?_, fun s' hs' ref => ?_⟩
  · unfold drain?
    rw [hsplit, List.find?_append, hnone]
    simp
  · unfold drain?
    rw [hs', hset, hsplit]
    by_cases href : ref = d.pool
    · subst href
      rw [if_pos rfl, List.find?_append, hnone]
      simp [hb]
    · have hne : ¬d.pool = ref := fun heq => href heq.symm
      rw [if_neg href, List.find?_append, List.find?_append,
        List.find?_cons_of_neg (by simpa [hb] using hne),
        List.find?_cons_of_neg (by simpa using hne)]

theorem Drained.serves (h : s.Drained) (hs : s.Serves s') : s'.Drained := by
  have hdrain : s'.drain? = s.drain? := by
    funext ref
    unfold drain?
    rw [hs.drains]
  have hback (ref : PoolRef) (q : ConnectionPool) (hq : s'.registry.pool? ref = some q) :=
    hs.registry.pool?_back hq
  refine ⟨fun d hd => ?_, hs.drains ▸ h.again, fun ref q hq => ?_, fun ref q hq => ?_,
    fun ref q d hq hd hdone hlent => ?_, fun d hd hdone => ?_⟩
  · rw [hs.drains] at hd
    obtain ⟨p, hp⟩ := h.known d hd
    obtain ⟨q, hq, _⟩ := hs.registry.pool? hp
    exact ⟨q, hq⟩
  · obtain ⟨p, hp, hserves⟩ := hback ref q hq
    rw [hserves.closing, hdrain, h.closing ref p hp]
  · obtain ⟨p, hp, hserves⟩ := hback ref q hq
    rw [hserves.closed, hdrain, h.closed ref p hp]
  · obtain ⟨p, hp, hserves⟩ := hback ref q hq
    rw [hdrain] at hd
    have hclosed : p.closed = true := by
      rw [h.closed ref p hp, hd]
      exact hdone
    have hless := hserves.ebbs hclosed
    exact h.overdue ref p d hp hd hdone (by omega)
  · rw [hs.drains] at hd
    rw [hs.nowMs]
    exact h.past d hd hdone

theorem Drained.time (h : s.Drained) {n : Nat} (hn : s.nowMs ≤ n) :
    Drained { s with nowMs := n } :=
  ⟨h.known, h.again, h.closing, h.closed, h.overdue,
    fun d hd hdone => Nat.le_trans (h.past d hd hdone) hn⟩

theorem Drained.pairwise_set (h : s.Drained) (hd : s.drains[i]? = some d)
    (hdone : d.done = false) (b : Drain) (hb : b.pool = d.pool) :
    (s.drains.set i b).Pairwise fun d d' => d.pool = d'.pool → d'.done = true := by
  obtain ⟨before, after, hsplit, hset⟩ := exists_set hd b
  have hpair := h.again
  rw [hsplit, List.pairwise_append, List.pairwise_cons] at hpair
  obtain ⟨hbefore, ⟨hd', hafter⟩, hcross⟩ := hpair
  rw [hset, List.pairwise_append, List.pairwise_cons]
  refine ⟨hbefore, ⟨fun a ha heq => hd' a ha (hb ▸ heq), hafter⟩, fun a ha c hc heq => ?_⟩
  rcases List.mem_cons.1 hc with rfl | hc
  · have hgone := hcross a ha d List.mem_cons_self (heq.trans hb)
    rw [hdone] at hgone
    cases hgone
  · exact hcross a ha c (List.mem_cons_of_mem d hc) heq

theorem Drained.known_set (h : s.Drained) (hd : s.drains[i]? = some d) {b : Drain}
    (hb : b.pool = d.pool) {a : Drain} (ha : a ∈ s.drains.set i b) :
    ∃ p, s.registry.pool? a.pool = some p := by
  rcases List.mem_or_eq_of_mem_set ha with ha | rfl
  · exact h.known a ha
  · exact hb ▸ h.known d (List.mem_of_getElem? hd)

theorem Drained.close (h : s.Drained) (hd : s.drains[i]? = some d) (hdone : d.done = false)
    (hn : s.nowMs = d.nextLookMs) (hp : s.registry.pool? d.pool = some p)
    (hmay : p.inFlight = 0 ∨ d.deadlineMs ≤ s.nowMs) : Drained { s with
      registry := s.registry.close d.pool
      drains := s.drains.set i { d with done := true } } := by
  let b : Drain := { d with done := true }
  obtain ⟨hfirst, hfind⟩ := h.drain?_of_going hd hdone b rfl
  replace hfind := hfind
    { s with registry := s.registry.close d.pool, drains := s.drains.set i b } rfl
  have hpool := Registry.pool?_close hp
  refine ⟨fun a ha => ?_, h.pairwise_set hd hdone b rfl, fun ref q hq => ?_, fun ref q hq => ?_,
    fun ref q a hq ha hadone hlent => ?_, fun a ha hadone => ?_⟩
  · obtain ⟨q, hq⟩ := h.known_set hd (b := b) rfl ha
    change ∃ p, (s.registry.close d.pool).pool? a.pool = some p
    rw [hpool]
    by_cases heq : a.pool = d.pool
    · exact ⟨p.close, if_pos heq⟩
    · exact ⟨q, by rw [if_neg heq, hq]⟩
  · rw [hfind]
    rw [hpool] at hq
    by_cases heq : ref = d.pool
    · rw [if_pos heq] at hq ⊢
      cases hq
      exact (h.closing d.pool p hp).trans (by rw [hfirst]; rfl)
    · rw [if_neg heq] at hq ⊢
      exact h.closing ref q hq
  · rw [hfind]
    rw [hpool] at hq
    by_cases heq : ref = d.pool
    · rw [if_pos heq] at hq ⊢
      cases hq
      rfl
    · rw [if_neg heq] at hq ⊢
      exact h.closed ref q hq
  · rw [hfind] at ha
    rw [hpool] at hq
    by_cases heq : ref = d.pool
    · rw [if_pos heq] at hq ha
      cases hq
      cases ha
      -- A pool that still lends closes only when its time is up.
      have hout : d.deadlineMs ≤ s.nowMs := hmay.resolve_left hlent
      rw [hn] at hout
      exact hout
    · rw [if_neg heq] at hq ha
      exact h.overdue ref q a hq ha hadone hlent
  · rcases List.mem_or_eq_of_mem_set ha with ha | rfl
    · exact h.past a ha hadone
    · exact Nat.le_of_eq hn.symm

theorem Drained.lookAgain (h : s.Drained) (hd : s.drains[i]? = some d) (hdone : d.done = false)
    (n : Nat) : Drained { s with drains := s.drains.set i { d with nextLookMs := n } } := by
  let b : Drain := { d with nextLookMs := n }
  obtain ⟨hfirst, hfind⟩ := h.drain?_of_going hd hdone b rfl
  replace hfind := hfind { s with drains := s.drains.set i b } rfl
  have hsame {γ : Type} (f : Option Drain → γ) (hf : f (some b) = f (some d)) (ref : PoolRef) :
      f (drain? { s with drains := s.drains.set i b } ref) = f (s.drain? ref) := by
    rw [hfind]
    split
    · next heq => rw [heq, hfirst, hf]
    · rfl
  have hgoing : b.done ≠ true := by simp [b, hdone]
  refine ⟨fun a ha => h.known_set hd (b := b) rfl ha, h.pairwise_set hd hdone b rfl,
    fun ref q hq => ?_, fun ref q hq => ?_, fun ref q a hq ha hadone hlent => ?_,
    fun a ha hadone => ?_⟩
  · exact (h.closing ref q hq).trans (hsame Option.isSome rfl ref).symm
  · exact (h.closed ref q hq).trans (hsame (Option.any Drain.done) rfl ref).symm
  · rw [hfind] at ha
    split at ha
    · cases ha
      exact absurd hadone hgoing
    · exact h.overdue ref q a hq ha hadone hlent
  · rcases List.mem_or_eq_of_mem_set ha with ha | rfl
    · exact h.past a ha hadone
    · exact absurd hadone hgoing

theorem Drained.look (h : s.Drained) (hd : s.drains[i]? = some d) (hdone : d.done = false)
    (hn : s.nowMs = d.nextLookMs) : (s.look i d).Drained := by
  obtain ⟨p, hp⟩ := h.known d (List.mem_of_getElem? hd)
  unfold Schedule.look
  rw [hp]
  split
  · next hmay =>
    exact h.close hd hdone hn hp (by simpa [ConnectionPool.mayClose] using hmay)
  · exact h.lookAgain hd hdone _

theorem Drained.advance (h : s.Drained) (hl : s.Ledger hs) (ht : s.Timely) (ms : Nat) :
    (s.advance ms).Drained :=
  advance_keeps hl ht h (fun s _ h => h.serves s.serves_pickUpAll)
    (fun s w _ _ h => h.serves (s.serves_giveUp w))
    (fun _ _ _ _ hd hdone hn h => h.look hd hdone hn) (fun _ _ hn h => h.time hn) ms

theorem Drained.acts (h : s.Drained) (as : List Act) : (s.acts as).Drained :=
  h.serves (s.serves_acts as)

theorem deadline?_eq (s : Schedule) (ref : PoolRef) :
    s.deadline? ref = (s.orders.find? (·.1 == ref)).map Prod.snd := by
  unfold deadline? drain? orders
  rw [List.find?_map, Option.map_map]
  rfl

theorem deadline?_congr (h : s'.orders = s.orders) (ref : PoolRef) :
    s'.deadline? ref = s.deadline? ref := by
  rw [deadline?_eq, deadline?_eq, h]

theorem orders_look (hd : s.drains[i]? = some d) : (s.look i d).orders = s.orders := by
  have hset (b : Drain) (hb : (b.pool, b.deadlineMs) = (d.pool, d.deadlineMs)) :
      (s.drains.set i b).map (fun d => (d.pool, d.deadlineMs)) =
        s.drains.map fun d => (d.pool, d.deadlineMs) := by
    obtain ⟨before, after, hsplit, hset⟩ := exists_set hd b
    rw [hset, hsplit, List.map_append, List.map_append, List.map_cons, List.map_cons, hb]
  unfold orders
  rcases s.drains_look i d with h | h
  · rw [h]
    exact hset _ rfl
  · rw [h]
    exact hset _ rfl

theorem orders_advance (hl : s.Ledger hs) (ht : s.Timely) (ms : Nat) :
    (s.advance ms).orders = s.orders :=
  advance_keeps (I := fun a => a.orders = s.orders) hl ht rfl
    (fun a _ h => (congrArg (List.map _) a.serves_pickUpAll.drains).trans h)
    (fun a w _ _ h => (congrArg (List.map _) (a.serves_giveUp w).drains).trans h)
    (fun _ _ _ _ hd _ _ h => (orders_look hd).trans h) (fun _ _ _ h => h) ms

theorem dispose_eq (hp : s.registry.pool? ref = some p) : s.dispose ref =
    { s with
      registry := (s.registry.beginClosing ref).2
      drains := s.drains ++
        [⟨ref, s.nowMs + p.policy.disposeTimeout.millis, s.nowMs, p.closing⟩] } := by
  simp only [Schedule.dispose, Registry.beginClosing, hp, Option.map_some, Option.getD_some,
    Bool.not_not]

theorem drain?_dispose (h : s.Drained) (hp : s.registry.pool? ref = some p) (other : PoolRef) :
    (s.dispose ref).drain? other = (s.drain? other).or (if other = ref then
      some ⟨ref, s.nowMs + p.policy.disposeTimeout.millis, s.nowMs, false⟩ else none) := by
  rw [dispose_eq hp]
  unfold drain?
  rw [List.find?_append]
  cases hfind : s.drains.find? (·.pool == other) with
  | some d => rfl
  | none =>
    rw [Option.none_or, Option.none_or]
    by_cases heq : other = ref
    · have hclosing : p.closing = false := by
        rw [h.closing ref p hp]
        unfold drain?
        rw [← heq, hfind]
        rfl
      rw [if_pos heq, hclosing, heq]
      simp
    · have hne : ¬ref = other := fun h => heq h.symm
      rw [if_neg heq]
      simpa using hne

theorem Drained.dispose (h : s.Drained) (hp : s.registry.pool? ref = some p) :
    (s.dispose ref).Drained := by
  have hfind := drain?_dispose h hp
  have hpool := Registry.pool?_beginClosing hp
  have hdrains : (s.dispose ref).drains = s.drains ++
      [⟨ref, s.nowMs + p.policy.disposeTimeout.millis, s.nowMs, p.closing⟩] := by
    rw [dispose_eq hp]
  have hregistry : (s.dispose ref).registry = (s.registry.beginClosing ref).2 := by
    rw [dispose_eq hp]
  have hnow : (s.dispose ref).nowMs = s.nowMs := by rw [dispose_eq hp]
  refine ⟨fun a ha => ?_, ?_, fun other q hq => ?_, fun other q hq => ?_,
    fun other q a hq ha hadone hlent => ?_, fun a ha hadone => ?_⟩
  · have hknown : ∃ q, s.registry.pool? a.pool = some q := by
      rw [hdrains] at ha
      rcases List.mem_append.1 ha with ha | ha
      · exact h.known a ha
      · rw [List.mem_singleton.1 ha]
        exact ⟨p, hp⟩
    obtain ⟨q, hq⟩ := hknown
    rw [hregistry, hpool]
    by_cases heq : a.pool = ref
    · exact ⟨_, if_pos heq⟩
    · exact ⟨q, by rw [if_neg heq, hq]⟩
  · rw [hdrains, List.pairwise_append]
    refine ⟨h.again, List.pairwise_singleton _ _, fun a ha b hb heq => ?_⟩
    rw [List.mem_singleton.1 hb] at heq ⊢
    change p.closing = true
    rw [h.closing ref p hp, Option.isSome_iff_ne_none, ne_eq, drain?_eq_none, not_not]
    exact List.mem_map.2 ⟨a, ha, heq⟩
  · rw [hregistry, hpool] at hq
    rw [hfind, Option.isSome_or]
    by_cases heq : other = ref
    · rw [if_pos heq] at hq ⊢
      cases hq
      exact (Bool.or_true _).symm
    · rw [if_neg heq] at hq ⊢
      rw [h.closing other q hq]
      exact (Bool.or_false _).symm
  · rw [hregistry, hpool] at hq
    rw [hfind]
    by_cases heq : other = ref
    · rw [if_pos heq] at hq
      cases hq
      change p.closed = _
      rw [h.closed ref p hp, heq, if_pos rfl]
      cases s.drain? ref <;> rfl
    · rw [if_neg heq] at hq ⊢
      rw [h.closed other q hq, Option.or_none]
  · rw [hregistry, hpool] at hq
    rw [hfind] at ha
    cases hold : s.drain? other with
    | none =>
      rw [hold, Option.none_or] at ha
      split at ha
      · cases ha
        cases hadone
      · cases ha
    | some b =>
      rw [hold, Option.some_or] at ha
      cases ha
      by_cases heq : other = ref
      · rw [if_pos heq] at hq
        cases hq
        exact h.overdue ref p a hp (heq ▸ hold) hadone hlent
      · rw [if_neg heq] at hq
        exact h.overdue other q a hq hold hadone hlent
  · rw [hdrains] at ha
    rw [hnow]
    rcases List.mem_append.1 ha with ha | ha
    · exact h.past a ha hadone
    · rw [List.mem_singleton.1 ha]

theorem Drained.install (h : s.Drained) (configs : List Config.Pool) (endpoints : List Endpoint) :
    Drained { s with registry := s.registry.install configs endpoints } := by
  have hcases (ref : PoolRef) (q : ConnectionPool)
      (hq : (s.registry.install configs endpoints).pool? ref = some q) :
      s.registry.pool? ref = some q ∨
        s.drain? ref = none ∧ q.closing = false ∧ q.closed = false := by
    cases hp : s.registry.pool? ref with
    | some p =>
      rw [Registry.pool?_install_old configs endpoints hp] at hq
      exact .inl hq
    | none =>
      obtain ⟨policy, _, rfl⟩ := Registry.pool?_install_new configs endpoints hp hq
      refine .inr ⟨drain?_eq_none.2 fun hmem => ?_, rfl, rfl⟩
      obtain ⟨d, hd, rfl⟩ := List.mem_map.1 hmem
      obtain ⟨p, hp'⟩ := h.known d hd
      rw [hp] at hp'
      cases hp'
  refine ⟨fun d hd => ?_, h.again, fun ref q hq => ?_, fun ref q hq => ?_,
    fun ref q d hq hd hdone hlent => ?_, h.past⟩
  · obtain ⟨p, hp⟩ := h.known d hd
    exact ⟨p, Registry.pool?_install_old configs endpoints hp⟩
  · change q.closing = (s.drain? ref).isSome
    rcases hcases ref q hq with hold | ⟨hnone, hclosing, _⟩
    · exact h.closing ref q hold
    · rw [hnone, hclosing]
      rfl
  · change q.closed = (s.drain? ref).any Drain.done
    rcases hcases ref q hq with hold | ⟨hnone, _, hclosed⟩
    · exact h.closed ref q hold
    · rw [hnone, hclosed]
      rfl
  · rcases hcases ref q hq with hold | ⟨hnone, _⟩
    · exact h.overdue ref q d hold hd hdone hlent
    · change s.drain? ref = some d at hd
      rw [hnone] at hd
      cases hd

theorem pool?_dispose (hp : s.registry.pool? ref = some p) (other : PoolRef) :
    ∃ q, (s.dispose other).registry.pool? ref = some q := by
  change ∃ q, (s.registry.beginClosing other).2.pool? ref = some q
  cases ho : s.registry.pool? other with
  | none =>
    unfold Registry.beginClosing
    rw [ho]
    exact ⟨p, hp⟩
  | some a =>
    rw [Registry.pool?_beginClosing ho]
    by_cases heq : ref = other
    · exact ⟨_, if_pos heq⟩
    · exact ⟨p, by rw [if_neg heq, hp]⟩

theorem Drained.disposeAll (h : s.Drained) (refs : List PoolRef)
    (hrefs : ∀ ref ∈ refs, ∃ p, s.registry.pool? ref = some p) :
    (refs.foldl Schedule.dispose s).Drained := by
  induction refs generalizing s with
  | nil => exact h
  | cons ref refs ih =>
    obtain ⟨p, hp⟩ := hrefs ref List.mem_cons_self
    refine ih (h.dispose hp) fun other ho => ?_
    obtain ⟨q, hq⟩ := hrefs other (List.mem_cons_of_mem ref ho)
    exact pool?_dispose hq ref

theorem Drained.reload (h : s.Drained) (configs : List Config.Pool) (endpoints : List Endpoint) :
    (s.reload configs endpoints).2.Drained := by
  refine (h.install configs endpoints).disposeAll _ fun ref href => ?_
  obtain ⟨p, hp⟩ := (Registry.pool?_of_mem_refs href).2
  exact ⟨p, Registry.pool?_install_old configs endpoints hp⟩

theorem Drained.forgo (h : s.Drained) (configs : List Config.Pool) :
    Drained { s with registry := s.registry.forgo configs } := by
  have hpool := s.registry.pool?_forgo configs
  refine ⟨fun d hd => ?_, h.again, fun ref q hq => h.closing ref q (hpool ref ▸ hq),
    fun ref q hq => h.closed ref q (hpool ref ▸ hq),
    fun ref q d hq => h.overdue ref q d (hpool ref ▸ hq), h.past⟩
  obtain ⟨p, hp⟩ := h.known d hd
  exact ⟨p, (hpool d.pool).trans hp⟩

/-- A pool was closed when its drain looked for the last time, and if it still lent slots, not
before it had to. -/
theorem Drained.closedAt (h : s.Drained) (hp : s.registry.pool? ref = some p)
    (hc : p.closed = true) : ∃ deadline closedAt, s.deadline? ref = some deadline ∧
      s.closedAt? ref = some closedAt ∧ closedAt ≤ s.nowMs ∧
        (p.inFlight ≠ 0 → deadline ≤ closedAt) := by
  have hdone := h.closed ref p hp
  rw [hc, eq_comm, Option.any_eq_true] at hdone
  obtain ⟨d, hd, hdone⟩ := hdone
  refine ⟨d.deadlineMs, d.nextLookMs, ?_, ?_, h.past d (drain?_some hd).1 hdone,
    h.overdue ref p d hp hd hdone⟩
  · unfold deadline?
    rw [hd]
    rfl
  · unfold closedAt?
    rw [hd, Option.filter_some_pos hdone]
    rfl

end

theorem drained_start (r : Registry) (hr : ∀ ref p, r.pool? ref = some p →
    p.closing = false ∧ p.closed = false) : Drained { registry := r } where
  known d hd := (List.not_mem_nil hd).elim
  again := .nil
  closing ref p hp := (hr ref p hp).1
  closed ref p hp := (hr ref p hp).2
  overdue ref p d hp hd := by cases hd
  past d hd := (List.not_mem_nil hd).elim

end Schedule
end Pool
end ReverseProxy
