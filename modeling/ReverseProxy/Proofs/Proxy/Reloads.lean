import Mathlib.Data.List.TakeWhile
import ReverseProxy.Proofs.Proxy.Placed
import ReverseProxy.Proofs.Proxy.Records
import ReverseProxy.Proofs.Proxy.Streams

set_option autoImplicit false

namespace ReverseProxy

namespace Pool.Schedule

section
variable {s s' : Schedule} {n retries : Nat} {t : Ticket} {l : Lease}

theorem isCutOff_later (h : s.isCutOff l = true) (ha : s.registry.Ages s'.registry) :
    s'.isCutOff l = true := by
  unfold isCutOff at h ⊢
  rw [Option.any_eq_true] at h ⊢
  obtain ⟨p, hp, hclosed⟩ := h
  obtain ⟨q, hq, hpq⟩ := ha l.pool p hp
  exact ⟨q, hq, hpq.closed hclosed⟩

theorem Awaits.keep (h : s.Awaits n t l retries) (hf : s'.Fares t l)
    (hg : s'.registry.generation = s.registry.generation) : s'.Awaits n t l retries :=
  ⟨hf, h.once, h.reloads, fun hold => h.old (hg ▸ hold)⟩

theorem Awaits.reload (h : s.Awaits n t l retries) (configs : List Config.Pool)
    (endpoints : List Endpoint) : (s.reload configs endpoints).2.Awaits (n + 1) t l retries :=
  ⟨h.fares.reload configs endpoints, h.once, Nat.le_succ_of_le h.reloads,
    fun _ => Nat.succ_le_succ h.reloads⟩

end

end Pool.Schedule

namespace Proxy
open Request
open Pool (PoolRef Lease Ticket ConnectionPool)

def isReload : Moment → Bool
  | (_, .reload _ _) => true
  | _ => false

def reloadsSince (H : List Moment) (id : Nat) : Nat :=
  (H.dropWhile fun m => requestId? m != some id).countP isReload

/-- A reload told a pool to close, and leaves it the time that its policy does. -/
structure Retires (m : Moment) (p : Proxy) (ref : PoolRef) (pool : ConnectionPool) : Prop where
  reload : isReload m = true
  generation : m.1.pools.registry.generation = ref.generation
  deadline : p.pools.deadline? ref = some (m.1.pools.nowMs + pool.policy.disposeTimeout.millis)

def Retired (H : List Moment) (p : Proxy) : Prop :=
  ∀ ref pool, p.pools.registry.pool? ref = some pool →
    ref.generation ≠ p.pools.registry.generation → ∃ m ∈ H, Retires m p ref pool

/-- A pool that still lent slots was closed because its dispose timeout had passed since a reload
told it to close. -/
def RanOut (H : List Moment) (p : Proxy) (ref : PoolRef) : Prop :=
  ∃ m ∈ H, isReload m = true ∧ m.1.pools.registry.generation = ref.generation ∧
    ∃ pool closedAt, p.pools.registry.pool? ref = some pool ∧ pool.closed = true ∧
      pool.inFlight ≠ 0 ∧ p.pools.closedAt? ref = some closedAt ∧
      m.1.pools.nowMs + pool.policy.disposeTimeout.millis ≤ closedAt ∧ closedAt ≤ p.pools.nowMs

/-- How the forwards stand after a history in which only reloads told pools to close. -/
structure Tracked (H : List Moment) (p : Proxy) : Prop where
  held : p.Held
  orderly : p.pools.Orderly
  logged : ∃ rs, Logged H rs p
  retired : Retired H p
  placed : ∀ f ∈ p.forwards, f.Placed p.pools (reloadsSince H f.context.id)

section
variable {p q : Proxy} {H : List Moment} {f : Forward} {m : Moment} {c : Change} {n id : Nat}
  {broken : Prop} {ref : PoolRef} {pool : ConnectionPool}

theorem reloadsSince_append (hH : ∃ m ∈ H, requestId? m = some id) (m : Moment) :
    reloadsSince (H ++ [m]) id = reloadsSince H id + if isReload m then 1 else 0 := by
  obtain ⟨m', hm', hid⟩ := hH
  have hne : ¬(H.dropWhile fun m => requestId? m != some id).isEmpty := by
    rw [List.isEmpty_iff, List.dropWhile_eq_nil_iff]
    intro hall
    simpa [hid] using hall m' hm'
  unfold reloadsSince
  rw [List.dropWhile_append, if_neg hne, List.countP_append, List.countP_singleton]

theorem reloadsSince_new (hH : ∀ m ∈ H, requestId? m ≠ some id) (hm : requestId? m = some id) :
    reloadsSince (H ++ [m]) id = 0 := by
  have hnil : H.dropWhile (fun m => requestId? m != some id) = [] :=
    List.dropWhile_eq_nil_iff.2 fun m' hm' => bne_iff_ne.2 (hH m' hm')
  have hplain : isReload m = false := by
    obtain ⟨connection, r, heq, _⟩ := exists_of_requestId? hm
    rw [heq]
    rfl
  unfold reloadsSince
  rw [List.dropWhile_append, hnil, List.isEmpty_nil, if_pos rfl,
    List.dropWhile_cons_of_neg (by simp [hm]), List.countP_singleton, hplain]
  rfl

theorem isReload_of_ne (h : ∀ configs endpoints, c ≠ .reload configs endpoints) :
    isReload (p, c) = false := by
  unfold isReload
  split
  · next heq =>
    cases heq
    exact absurd rfl (h _ _)
  · rfl

theorem Retired.change (h : Retired H p) (hp : p.Held) (ho : p.pools.Orderly)
    (hc : ∀ ref, c ≠ .dispose ref) : Retired (H ++ [(p, c)]) (p.change c).2 := by
  intro ref q hq hold
  have hages := hp.ages_change ho c
  have hpolicy {pool : ConnectionPool} (hpool : p.pools.registry.pool? ref = some pool) :
      q.policy = pool.policy := by
    obtain ⟨a, ha, hpa⟩ := hages ref pool hpool
    rw [hq] at ha
    cases ha
    exact hpa.policy
  -- Whoever retired a pool did so for good: it is not told again.
  have hkept {pool : ConnectionPool} (hpool : p.pools.registry.pool? ref = some pool)
      (hne : ref.generation ≠ p.pools.registry.generation)
      (hsame : (p.change c).2.pools.deadline? ref = p.pools.deadline? ref) :
      ∃ m ∈ H ++ [(p, c)], Retires m (p.change c).2 ref q := by
    obtain ⟨m, hm, htold⟩ := h ref pool hpool hne
    refine ⟨m, List.mem_append_left _ hm, htold.reload, htold.generation, ?_⟩
    rw [hsame, htold.deadline, hpolicy hpool]
  by_cases hreload : ∃ configs endpoints, c = .reload configs endpoints
  · obtain ⟨configs, endpoints, rfl⟩ := hreload
    have hknown := Pool.Schedule.known_of_reload (s := p.pools) hq
    obtain ⟨pool, hpool⟩ := hknown.resolve_right hold
    have hdeadline := Pool.Schedule.deadline?_reload ho.relieved configs endpoints hpool
    by_cases hlast : ref.generation = p.pools.registry.generation
    · rw [if_pos hlast] at hdeadline
      refine ⟨_, List.mem_append_right _ List.mem_cons_self, rfl, hlast.symm, ?_⟩
      rw [hpolicy hpool]
      exact hdeadline
    · rw [if_neg hlast] at hdeadline
      exact hkept hpool hlast hdeadline
  · have hreload' (configs : List Config.Pool) (endpoints : List Endpoint) :
        c ≠ .reload configs endpoints := fun heq => hreload ⟨configs, endpoints, heq⟩
    have hkeeps := hp.keeps_change ho hreload'
    have hsome := hkeeps.refs ref
    rw [hq, Option.isSome_some] at hsome
    obtain ⟨pool, hpool⟩ := Option.isSome_iff_exists.1 hsome.symm
    refine hkept hpool (hkeeps.generation ▸ hold) ?_
    exact Pool.Schedule.deadline?_congr (hp.orders_change ho hreload' hc) ref

theorem Held.holder (hp : p.Held) {f g : Forward} (hf : f ∈ p.forwards) (hg : g ∈ p.forwards)
    {t : Ticket} (hft : f.holding = .ticket t) (hgt : g.holding = .ticket t) : f = g := by
  by_contra hne
  have hid : g.context.id ≠ f.context.id := fun heq =>
    hne (List.inj_on_of_nodup_map hp.ids hg hf heq).symm
  have hheld := (hp.room hf).ledger.held
  have htaken : (Pool.Holding.ticket t).ticket? = some t := rfl
  rw [hft, List.filterMap_cons_some htaken, List.nodup_cons] at hheld
  refine hheld.1 (List.mem_filterMap.2 ⟨g.holding, ?_, by rw [hgt]; rfl⟩)
  exact List.mem_map_of_mem (mem_others.2 ⟨hg, hid⟩)

theorem Held.placed_change (hp : p.Held) (ho : p.pools.Orderly) (hc : ∀ ref, c ≠ .dispose ref)
    (hf : f ∈ p.forwards) (hother : ∀ e, c ≠ .event (.forward f.context.id e))
    (h : f.Placed p.pools n) :
    f.Placed (p.change c).2.pools (n + if isReload (p, c) then 1 else 0) := by
  have hages := hp.ages_change ho c
  unfold Forward.Placed at h ⊢
  cases hstage : f.stage with
  | sent l => trivial
  | streaming l pump =>
    rw [hstage] at h
    exact fun pool hblamed => Pool.Schedule.isCutOff_later (h pool hblamed) hages
  | waiting t ref retries =>
    rw [hstage] at h
    have hkeep (hreload : ∀ configs endpoints, c ≠ .reload configs endpoints)
        (hfares : (p.change c).2.pools.Fares t ⟨ref, f.endpoint⟩) :
        (p.change c).2.pools.Awaits (n + if isReload (p, c) then 1 else 0) t ⟨ref, f.endpoint⟩
          retries := by
      rw [isReload_of_ne hreload]
      exact h.keep hfares (hp.keeps_change ho hreload).generation
    cases hp.concern c with
    | used as eq own other =>
      -- A ticket is given up only by its holder, and this is not an event of it.
      refine hkeep other (eq ▸ h.fares.acts hp.ledger.fresh_tickets fun hmem => ?_)
      obtain ⟨g, hg, hholding, e, rfl⟩ := own t hmem
      have hsame : f = g := hp.holder hf hg (by rw [Forward.holding, hstage]) hholding
      exact hother e (hsame ▸ rfl)
    | time ms event eq =>
      exact hkeep (by simp [event]) (eq ▸ h.fares.advance hp.ledger ho.timely ms)
    | reload configs endpoints event eq =>
      subst event
      exact eq ▸ h.reload configs endpoints
    | forgo configs event eq =>
      refine hkeep (by simp [event]) (eq ▸ h.fares.keep ?_ (fun _ hw _ => hw) rfl)
      exact p.pools.registry.ages_forgo configs
    | dispose ref event => exact absurd event (hc ref)

theorem Held.mem_of_change (hp : p.Held) (hf : f ∈ (p.change c).2.forwards)
    (hsubject : subject? (p, c) ≠ some f.context.id) : f ∈ p.forwards := by
  have hq := hp.change c
  have hid : f.context.id < p.nextId := by
    have hlt := hq.fresh f hf
    rw [hp.nextId c] at hlt
    cases hreq : requestId? (p, c) with
    | none =>
      rw [hreq] at hlt
      exact hlt
    | some id =>
      obtain ⟨connection, r, heq, hnext⟩ := exists_of_requestId? hreq
      cases heq
      rw [hreq] at hlt
      have hne : p.nextId ≠ f.context.id := fun heq => hsubject (congrArg some heq)
      change f.context.id < p.nextId + 1 at hlt
      omega
  have hother (e : Forward.Event) : c ≠ .event (.forward f.context.id e) :=
    fun heq => hsubject (heq ▸ rfl)
  have hsame := hp.forward?_change hid hother
  exact (hp.forward?_iff.1 (hsame.symm.trans (hq.forward?_iff.2 ⟨hf, rfl⟩))).1

theorem Follows.imp {broken' : Prop} (h : p.Follows id n broken q) (himp : broken → broken') :
    p.Follows id n broken' q := by
  obtain ⟨noted, hnoted, hwhy⟩ := h.noted
  refine ⟨⟨noted, hnoted, fun x hx => ?_⟩, h.placed⟩
  obtain ⟨hid, hbroken⟩ := hwhy x hx
  exact ⟨hid, fun pool heq => himp (hbroken pool heq)⟩

theorem Tracked.follows (h : Tracked H p) (hsubject : subject? (p, c) = some id) :
    p.Follows id (reloadsSince (H ++ [(p, c)]) id)
      (∃ f ∈ p.forwards, f.context.id = id ∧ p.Broken (reloadsSince H id) f) (p.change c).2 := by
  obtain ⟨rs, hl⟩ := h.logged
  unfold subject? at hsubject
  split at hsubject
  · next p' connection r heq =>
    cases heq
    cases hsubject
    rw [reloadsSince_new (fun m hm hid => Nat.lt_irrefl _ (hl.given hm hid)) rfl]
    exact follows_receive h.held h.orderly connection r
  · next p' id' e heq =>
    cases heq
    cases hsubject
    rw [change_forward]
    cases hf : p.forward? id with
    | none =>
      have hnone : ∀ f ∈ p.forwards, f.context.id ≠ id := fun f hmem hid => by
        rw [h.held.forward?_iff.2 ⟨hmem, hid⟩] at hf
        cases hf
      exact follows_gone rfl hnone
    | some f =>
      obtain ⟨hmem, rfl⟩ := h.held.forward?_iff.1 hf
      rw [reloadsSince_append (hl.forwards f hmem)]
      exact (follows_onForward h.held h.orderly hmem (h.placed f hmem) e).imp
        fun hbroken => ⟨f, hmem, rfl, hbroken⟩
  · cases hsubject

theorem failures_of_no_subject (h : subject? (p, c) = none) :
    (p.change c).2.failures = p.failures := by
  cases c with
  | event e =>
    cases e with
    | request | forward => cases h
    | timePasses | clockSet | sweep => rfl
  | mapper | cache | reload | forgo | dispose => rfl

theorem Tracked.change (h : Tracked H p) (hc : ∀ ref, c ≠ .dispose ref) :
    Tracked (H ++ [(p, c)]) (p.change c).2 where
  held := h.held.change c
  orderly := h.held.orderly_change h.orderly hc
  logged := by
    obtain ⟨rs, hl⟩ := h.logged
    obtain ⟨added, hl'⟩ := hl.change h.held c
    exact ⟨rs ++ added, hl'⟩
  retired := h.retired.change h.held h.orderly hc
  placed f hf := by
    by_cases hsubject : subject? (p, c) = some f.context.id
    · exact (h.follows hsubject).placed f hf rfl
    · obtain ⟨rs, hl⟩ := h.logged
      have hmem := h.held.mem_of_change hf hsubject
      rw [reloadsSince_append (hl.forwards f hmem)]
      exact h.held.placed_change h.orderly hc hmem (fun e heq => hsubject (heq ▸ rfl))
        (h.placed f hmem)

theorem Tracked.after (h : Tracked H p) {cs : List Change}
    (hcs : ∀ ref, Change.dispose ref ∉ cs) : Tracked (H ++ p.history cs) (p.after cs) := by
  induction cs generalizing p H with
  | nil =>
    rw [history, List.append_nil]
    exact h
  | cons c cs ih =>
    have hc (ref : PoolRef) : c ≠ .dispose ref := fun heq => hcs ref (heq ▸ List.mem_cons_self)
    have hlast := ih (h.change hc) fun ref hmem => hcs ref (List.mem_cons_of_mem c hmem)
    rw [List.append_assoc] at hlast
    exact hlast

/-- A lease is cut off only when the time of its pool has run out. -/
theorem Tracked.ranOut (h : Tracked H p) (hf : f ∈ p.forwards) {l : Lease}
    (hlease : p.lease? f = some l) (hcut : p.pools.isCutOff l = true) : RanOut H p l.pool := by
  unfold Pool.Schedule.isCutOff at hcut
  rw [Option.any_eq_true] at hcut
  obtain ⟨pool, hpool, hclosed⟩ := hcut
  have hdrained := h.orderly.drained
  -- The pools in use are open, so a reload has retired this one.
  have hold := h.orderly.relieved.old_of_closed hdrained hpool hclosed
  obtain ⟨m, hm, hretires⟩ := h.retired l.pool pool hpool hold
  have hlent : pool.inFlight ≠ 0 := by
    rw [h.held.inFlight hpool, ← Nat.pos_iff_ne_zero, List.countP_pos_iff]
    exact ⟨f, hf, by rw [hlease]; simp⟩
  obtain ⟨deadline, closedAt, hdeadline, hclosedAt, hpast, hlate⟩ := hdrained.closedAt hpool hclosed
  rw [hretires.deadline, Option.some.injEq] at hdeadline
  exact ⟨m, hm, hretires.reload, hretires.generation, pool, closedAt, hpool, hclosed, hlent,
    hclosedAt, hdeadline ▸ hlate hlent, hpast⟩

theorem Tracked.noted (h : Tracked H p) (c : Change) :
    ∃ noted, (p.change c).2.failures = p.failures ++ noted ∧
      ∀ id pool, (id, .poolClosed pool) ∈ noted → ∃ f ∈ p.forwards, f.context.id = id ∧
        ((∃ l, p.lease? f = some l ∧ RanOut H p l.pool) ∨ 2 ≤ reloadsSince H id) := by
  cases hsubject : subject? (p, c) with
  | none =>
    refine ⟨[], ?_, fun id pool hmem => (List.not_mem_nil hmem).elim⟩
    rw [List.append_nil]
    exact failures_of_no_subject hsubject
  | some id =>
    obtain ⟨noted, hnoted, hwhy⟩ := (h.follows hsubject).noted
    refine ⟨noted, hnoted, fun id' pool hmem => ?_⟩
    obtain ⟨rfl, hbroken⟩ := hwhy _ hmem
    obtain ⟨f, hf, hid, hbroken⟩ := hbroken pool rfl
    refine ⟨f, hf, hid, hbroken.imp_left ?_⟩
    rintro ⟨l, hlease, hcut⟩
    exact ⟨l, hlease, h.ranOut hf hlease hcut⟩

end

end Proxy
end ReverseProxy
