import ReverseProxy.Proofs.Pool.Generations
import ReverseProxy.Proofs.Proxy.Run

set_option autoImplicit false

namespace ReverseProxy

namespace Pool.Schedule

/-- A user with a holding does something with the pools; no ticket but its own is given up. -/
def Uses (s : Schedule) (h : Holding) (s' : Schedule) : Prop :=
  ∃ as : List Act, s' = s.acts as ∧ ∀ t, .discard t ∈ as → h = .ticket t

section
variable {s s' s'' : Schedule} {h : Holding}

theorem uses_refl (s : Schedule) (h : Holding) : s.Uses h s :=
  ⟨[], rfl, fun _ ht => (List.not_mem_nil ht).elim⟩

theorem Uses.trans (hu : s.Uses h s') (hu' : s'.Uses h s'') : s.Uses h s'' := by
  obtain ⟨as, rfl, has⟩ := hu
  obtain ⟨bs, rfl, hbs⟩ := hu'
  refine ⟨as ++ bs, List.foldl_append.symm, fun t ht => ?_⟩
  exact (List.mem_append.1 ht).elim (has t) (hbs t)

theorem uses_act (s : Schedule) {h : Holding} (a : Act) (ha : ∀ t, a = .discard t → h = .ticket t) :
    s.Uses h (s.act a) :=
  ⟨[a], rfl, fun t ht => ha t (List.mem_singleton.1 ht).symm⟩

theorem uses_ask {ref : PoolRef} {e : Endpoint} {t : Ticket} (h : Holding)
    (ha : s.ask ref e = (t, s')) : s.Uses h s' := by
  have hs' : s' = s.act (.ask ref e) := (congrArg Prod.snd ha).symm
  rw [hs']
  exact s.uses_act _ (by simp)

theorem uses_release (s : Schedule) (h : Holding) (l : Lease) : s.Uses h (s.release l) :=
  s.uses_act (.release l) (by simp)

theorem uses_discard (s : Schedule) (t : Ticket) : s.Uses (.ticket t) (s.discard t) :=
  s.uses_act (.discard t) (by simp)

end

end Pool.Schedule

namespace Proxy
open Request
open Pool (Holding)

/-- What a change is for the pools. -/
inductive Concern (p : Proxy) (c : Change) (s : Pool.Schedule) : Prop
  | used (as : List Pool.Schedule.Act) (eq : s = p.pools.acts as)
      (own : ∀ t, .discard t ∈ as → ∃ f ∈ p.forwards, f.holding = .ticket t ∧
        ∃ e, c = .event (.forward f.context.id e))
      (other : ∀ configs endpoints, c ≠ .reload configs endpoints)
  | time (ms : Nat) (event : c = .event (.timePasses ms)) (eq : s = p.pools.advance ms)
  | reload (configs : List Config.Pool) (endpoints : List Endpoint)
      (event : c = .reload configs endpoints) (eq : s = (p.pools.reload configs endpoints).2)
  | forgo (configs : List Config.Pool) (event : c = .forgo configs)
      (eq : s = { p.pools with registry := p.pools.registry.forgo configs })
  | dispose (ref : Pool.PoolRef) (event : c = .dispose ref) (eq : s = p.pools.dispose ref)

section
variable {p : Proxy} {f : Forward}

theorem pools_failForward (p : Proxy) (f : Forward) (why : Forward.Failure) :
    (p.failForward f why).2.pools = p.pools := (quiet_noteFailure _ _ why).2

theorem pools_refuse (p : Proxy) (f : Forward) (why : Pool.Refusal) :
    (p.refuse f why).2.pools = p.pools := by
  unfold refuse
  split
  · exact pools_failForward p f _
  · rfl

theorem uses_askForLease (p : Proxy) (f : Forward) (retries : Nat) (h : Holding) :
    p.pools.Uses h (p.askForLease f retries).2.pools := by
  fun_induction Proxy.askForLease p f retries with
  | case1 retries p ref t pools hasked p' l ha => exact Pool.Schedule.uses_ask h hasked
  | case2 p ref t pools hasked p' why ha =>
    rw [pools_refuse]
    exact Pool.Schedule.uses_ask h hasked
  | case3 p ref t pools hasked p' why ha retries hretry ih =>
    exact (Pool.Schedule.uses_ask h hasked).trans ih
  | case4 p ref t pools hasked p' why ha retries hretry =>
    rw [pools_refuse]
    exact Pool.Schedule.uses_ask h hasked
  | case5 retries p ref t pools hasked p' ha => exact Pool.Schedule.uses_ask h hasked

theorem uses_leaseAnswered (p : Proxy) (f : Forward) (h : Holding) :
    p.pools.Uses h (p.leaseAnswered f).2.pools := by
  unfold leaseAnswered
  split
  · split
    · exact p.pools.uses_refl h
    · split
      · exact uses_askForLease p f _ h
      · rw [pools_refuse]
        exact p.pools.uses_refl h
    · exact p.pools.uses_refl h
  · exact p.pools.uses_refl h

theorem uses_exchangeFails (p : Proxy) (f : Forward) (why : Forward.Failure) (h : Holding) :
    p.pools.Uses h (p.exchangeFails f why).2.pools := by
  unfold exchangeFails
  split
  · rw [pools_failForward]
    exact p.pools.uses_release h _
  · exact p.pools.uses_refl h

theorem uses_headArrives (p : Proxy) (f : Forward) (status : Http.Status) (headers : Http.Headers)
    (h : Holding) : p.pools.Uses h (p.headArrives f status headers).2.pools := by
  unfold headArrives
  split
  · dsimp only
    split
    · exact p.pools.uses_release h _
    · exact p.pools.uses_refl h
  · exact p.pools.uses_refl h

theorem uses_endStream (p : Proxy) (f : Forward) (l : Pool.Lease) (pump : Forward.Pump)
    (how : Forward.Ending) (h : Holding) : p.pools.Uses h (p.endStream f l pump how).pools := by
  cases how with
  | complete =>
    change p.pools.Uses h ((p.commit pump.capture).pools.release l)
    rw [(quiet_commit p pump.capture).2]
    exact p.pools.uses_release h l
  | failed why =>
    change p.pools.Uses h ((p.noteFailure f.context.id why).pools.release l)
    rw [(quiet_noteFailure p f.context.id why).2]
    exact p.pools.uses_release h l

theorem uses_pumpEvent (p : Proxy) (f : Forward) (e : Forward.PumpEvent) (h : Holding) :
    p.pools.Uses h (p.pumpEvent f e).2.pools := by
  unfold pumpEvent
  split
  · next l pump _ =>
    have hpools := (quiet_touch p f pump.phase e).2.1
    dsimp only
    split
    · have hends := uses_endStream (p.touch f pump.phase e).1
      simp only [hpools] at hends
      exact hends _ l _ _ h
    · change p.pools.Uses h (p.touch f pump.phase e).1.pools
      rw [hpools]
      exact p.pools.uses_refl h
  · exact p.pools.uses_refl h

theorem uses_clientLeaves (p : Proxy) (f : Forward) :
    p.pools.Uses f.holding (p.clientLeaves f).2.pools := by
  unfold clientLeaves
  split
  · next t ref retries hstage =>
    have hholding : f.holding = .ticket t := by rw [Forward.holding, hstage]
    rw [hholding]
    exact p.pools.uses_discard t
  · exact p.pools.uses_release _ _
  · exact uses_pumpEvent p f .clientLeaves _

theorem uses_onForward (p : Proxy) (f : Forward) (e : Forward.Event) :
    p.pools.Uses f.holding (p.onForward f e).2.pools := by
  cases e with
  | leaseAnswered => exact uses_leaseAnswered p f _
  | connectFails | exchangeFails => exact uses_exchangeFails p f _ _
  | headArrives status headers => exact uses_headArrives p f status headers _
  | body | clientReads | noRoom => exact uses_pumpEvent p f _ _
  | clientLeaves => exact uses_clientLeaves p f
  | silence =>
    change p.pools.Uses _ (p.silence f).2.pools
    unfold silence
    split
    · exact uses_exchangeFails p f _ _
    · exact uses_pumpEvent p f _ _
  | cutOff =>
    change p.pools.Uses _ (p.cutOff f).2.pools
    unfold cutOff
    split
    · split
      · exact uses_exchangeFails p f _ _
      · exact p.pools.uses_refl _
    · split
      · exact uses_pumpEvent p f _ _
      · exact p.pools.uses_refl _
    · exact p.pools.uses_refl _

theorem uses_startForward (p : Proxy) (m : Routing.Mapper) (c : Context) (body : Bytes)
    (mayCapture : Bool) (h : Holding) :
    p.pools.Uses h (p.startForward m c body mayCapture).2.pools := by
  have hfail (q : Proxy) (why : Forward.Failure) : (q.fail m c why).2.pools = q.pools :=
    (quiet_noteFailure q c.id why).2
  unfold startForward
  split
  · rw [hfail]
    exact p.pools.uses_refl h
  · dsimp only
    split
    · rw [hfail]
      exact p.pools.uses_refl h
    · exact uses_askForLease _ _ 1 h

theorem uses_receive (p : Proxy) (connection : Connection) (r : Incoming) :
    p.pools.Uses .nothing (p.receive connection r).2.pools := by
  have hstart (q : Proxy) (hq : q.pools = p.pools) (m : Routing.Mapper) (c : Context)
      (mayCapture : Bool) : p.pools.Uses .nothing (q.startForward m c r.body mayCapture).2.pools :=
    hq ▸ uses_startForward q m c r.body mayCapture .nothing
  unfold receive
  dsimp only
  unfold act
  split
  · exact p.pools.uses_refl _
  · exact p.pools.uses_refl _
  · exact p.pools.uses_refl _
  · exact p.pools.uses_refl _
  · exact p.pools.uses_refl _
  · exact hstart _ (by rfl) _ _ false
  · unfold proxyAndCache
    dsimp only
    split
    · exact hstart _ (by rfl) _ _ true
    · split
      · unfold serveEntry
        dsimp only
        split <;> exact p.pools.uses_refl _
      · exact hstart _ (by rfl) _ _ true

theorem Held.concern (hp : p.Held) (c : Change) : p.Concern c (p.change c).2.pools := by
  have hsame {q : Proxy} (hq : q.pools = p.pools)
      (hc : ∀ configs endpoints, c ≠ .reload configs endpoints) : p.Concern c q.pools :=
    .used [] hq (fun _ ht => (List.not_mem_nil ht).elim) hc
  cases c with
  | event e =>
    cases e with
    | request connection r =>
      obtain ⟨as, has, hown⟩ := uses_receive p connection r
      refine .used as has (fun t ht => ?_) (by simp)
      cases hown t ht
    | forward id e =>
      rw [change_forward]
      cases hf : p.forward? id with
      | none => exact hsame (q := p) rfl (by simp)
      | some f =>
        obtain ⟨hmem, rfl⟩ :=
          (Keyed.find?_eq_some_iff (fun f : Forward => f.context.id) hp.ids).1 hf
        obtain ⟨as, has, hown⟩ := uses_onForward p f e
        exact .used as has (fun t ht => ⟨f, hmem, hown t ht, e, rfl⟩) (by simp)
    | timePasses ms => exact .time ms rfl rfl
    | clockSet nowMs | sweep => exact hsame rfl (by simp)
  | mapper m | cache store => exact hsame rfl (by simp)
  | reload configs endpoints => exact .reload configs endpoints rfl rfl
  | forgo configs => exact .forgo configs rfl rfl
  | dispose ref => exact .dispose ref rfl rfl

theorem Held.orderly_change (hp : p.Held) (ho : p.pools.Orderly) {c : Change}
    (hc : ∀ ref, c ≠ .dispose ref) : (p.change c).2.pools.Orderly := by
  cases hp.concern c with
  | used as eq => exact eq ▸ ho.acts as
  | time ms event eq => exact eq ▸ ho.advance hp.ledger ms
  | reload configs endpoints event eq => exact eq ▸ ho.reload hp.ledger configs endpoints
  | forgo configs event eq => exact eq ▸ ho.forgo hp.ledger configs
  | dispose ref event => exact absurd event (hc ref)

theorem Held.ages_change (hp : p.Held) (ho : p.pools.Orderly) (c : Change) :
    p.pools.registry.Ages (p.change c).2.pools.registry := by
  cases hp.concern c with
  | used as eq => exact eq ▸ p.pools.ages_acts as
  | time ms event eq => exact eq ▸ Pool.Schedule.ages_advance hp.ledger ho.timely ms
  | reload configs endpoints event eq => exact eq ▸ (p.pools.reload_keeps configs endpoints).1
  | forgo configs event eq => exact eq ▸ p.pools.registry.ages_forgo configs
  | dispose ref event eq => exact eq ▸ p.pools.registry.ages_beginClosing ref

theorem Held.orders_change (hp : p.Held) (ho : p.pools.Orderly) {c : Change}
    (hreload : ∀ configs endpoints, c ≠ .reload configs endpoints)
    (hdispose : ∀ ref, c ≠ .dispose ref) : (p.change c).2.pools.orders = p.pools.orders := by
  cases hp.concern c with
  | used as eq => exact eq ▸ congrArg (List.map _) (p.pools.serves_acts as).drains
  | time ms event eq => exact eq ▸ Pool.Schedule.orders_advance hp.ledger ho.timely ms
  | reload configs endpoints event => exact absurd event (hreload configs endpoints)
  | forgo configs event eq => exact eq ▸ rfl
  | dispose ref event => exact absurd event (hdispose ref)

theorem Held.keeps_change (hp : p.Held) (ho : p.pools.Orderly) {c : Change}
    (hc : ∀ configs endpoints, c ≠ .reload configs endpoints) :
    p.pools.registry.Keeps (p.change c).2.pools.registry := by
  cases hp.concern c with
  | used as eq => exact eq ▸ (p.pools.serves_acts as).registry.keeps
  | time ms event eq => exact eq ▸ Pool.Schedule.keeps_advance hp.ledger ho.timely ms
  | reload configs endpoints event => exact absurd event (hc configs endpoints)
  | forgo configs event eq => exact eq ▸ p.pools.registry.keeps_forgo configs
  | dispose ref event eq => exact eq ▸ p.pools.registry.keeps_beginClosing ref

end

end Proxy
end ReverseProxy
