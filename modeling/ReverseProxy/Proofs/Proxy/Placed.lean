import ReverseProxy.Proofs.Forward.Blame
import ReverseProxy.Proofs.Proxy.Leases
import ReverseProxy.Proofs.Proxy.Traffic

set_option autoImplicit false

/-!
# Forwards and pools that close

A forward asks for a pool of the newest generation, which is never a closed one. So the pool where
it waits can only close after a reload, and since it then asks once more, it takes a second reload
to turn it away. A forward that has its lease hears of a closed pool only when that is cut off.
-/
namespace ReverseProxy

namespace Pool.Schedule

/-- A ticket waits for a lease after `n` reloads. Its holder may ask once more, unless it did so
after a reload, and a pool that is not of the newest generation was retired by one reload more. -/
structure Awaits (s : Schedule) (n : Nat) (t : Ticket) (l : Lease) (retries : Nat) : Prop where
  fares : s.Fares t l
  once : retries ≤ 1
  reloads : 1 ≤ retries + n
  old : l.pool.generation ≠ s.registry.generation → 2 ≤ retries + n

end Pool.Schedule

/-- Where a forward stands after `n` reloads. -/
def Forward.Placed (f : Forward) (s : Pool.Schedule) (n : Nat) : Prop :=
  match f.stage with
  | .waiting t ref retries => s.Awaits n t ⟨ref, f.endpoint⟩ retries
  | .sent _ => True
  | .streaming l pump => ∀ pool, pump.blamed? = some pool → s.isCutOff l = true

theorem Forward.Placed.awaits {f : Forward} {s : Pool.Schedule} {n : Nat} (h : f.Placed s n)
    {t : Pool.Ticket} {ref : Pool.PoolRef} {retries : Nat}
    (hstage : f.stage = .waiting t ref retries) : s.Awaits n t ⟨ref, f.endpoint⟩ retries := by
  unfold Forward.Placed at h
  rwa [hstage] at h

namespace Proxy
open Request
open Pool (PoolRef Lease Ticket ConnectionPool)

def hostPool (p : Proxy) (f : Forward) : PoolRef := p.pools.registry.resolve f.context.head.host

def hostLease (p : Proxy) (f : Forward) : Lease := ⟨p.hostPool f, f.endpoint⟩

def asked (p : Proxy) (f : Forward) : Proxy :=
  { p with pools := (p.pools.ask (p.hostPool f) f.endpoint).2 }

inductive Asks (p : Proxy) (f : Forward) (retries : Nat) : Outcome × Proxy → Prop
  | leased (answer : (p.asked f).pools.answer? p.pools.nextTicket = some (.ok (p.hostLease f))) :
      Asks p f retries (.none, (p.asked f).send f (p.hostLease f))
  | waits (fares : (p.asked f).pools.Fares p.pools.nextTicket (p.hostLease f)) :
      Asks p f retries (.none, (p.asked f).putForward
        { f with stage := .waiting p.pools.nextTicket (p.hostPool f) retries })
  | uncounted (pool : ConnectionPool) (asked : p.pools.registry.pool? (p.hostPool f) = some pool)
      (fits : pool.policy.fits = false) : Asks p f retries ((p.asked f).crashForward f)

inductive Looks (p : Proxy) (f : Forward) (t : Ticket) (ref : PoolRef) (retries n : Nat) :
    Outcome × Proxy → Prop
  | waits (answer : p.pools.answer? t = none) : Looks p f t ref retries n (.none, p)
  | leased (answer : p.pools.answer? t = some (.ok ⟨ref, f.endpoint⟩)) :
      Looks p f t ref retries n (.none, p.send f ⟨ref, f.endpoint⟩)
  | exhausted (pool : ConnectionPool) (waited : p.pools.registry.pool? ref = some pool) :
      Looks p f t ref retries n
        (p.failForward f (.poolExhausted f.endpoint pool.policy.borrowTimeout))
  | again (pool : ConnectionPool) (waited : p.pools.registry.pool? ref = some pool)
      (closed : pool.closed = true) (old : ref.generation ≠ p.pools.registry.generation)
      (once : retries = 1) (newest : (p.hostPool f).generation = p.pools.registry.generation)
      (result : Outcome × Proxy) (asks : p.Asks f 0 result) : Looks p f t ref retries n result
  | turnedAway (pool : ConnectionPool) (waited : p.pools.registry.pool? ref = some pool)
      (closed : pool.closed = true) (twice : 2 ≤ n) :
      Looks p f t ref retries n (p.failForward f (.poolClosed pool.id))

def Broken (p : Proxy) (n : Nat) (f : Forward) : Prop :=
  (∃ l, p.lease? f = some l ∧ p.pools.isCutOff l = true) ∨ 2 ≤ n

/-- What is noted of a request as the proxy goes on, and where its forward stands then. -/
structure Follows (p : Proxy) (id n : Nat) (broken : Prop) (q : Proxy) : Prop where
  noted : ∃ new, q.failures = p.failures ++ new ∧
    ∀ x ∈ new, x.1 = id ∧ ∀ pool, x.2 = .poolClosed pool → broken
  placed : ∀ f ∈ q.forwards, f.context.id = id → f.Placed q.pools n

section
variable {p p' q : Proxy} {f g : Forward} {id n : Nat} {broken : Prop} {l : Lease}

theorem failures_noteFailure (p : Proxy) (id : Nat) (why : Forward.Failure) :
    (p.noteFailure id why).failures = p.failures ++ [(id, why)] := by
  unfold noteFailure
  dsimp only
  split
  · split
    · split <;> rfl
    · split <;> rfl
  · split <;> rfl

theorem follows_gone (hfailures : q.failures = p.failures)
    (hforwards : ∀ f ∈ q.forwards, f.context.id ≠ id) : p.Follows id n broken q where
  noted := ⟨[], by rw [hfailures, List.append_nil], fun x hx => (List.not_mem_nil hx).elim⟩
  placed f hf hid := absurd hid (hforwards f hf)

theorem follows_note {why : Forward.Failure} (hfailures : q.failures = p.failures ++ [(id, why)])
    (hforwards : ∀ f ∈ q.forwards, f.context.id ≠ id)
    (hwhy : ∀ pool, why = .poolClosed pool → broken) : p.Follows id n broken q where
  noted := by
    refine ⟨_, hfailures, fun x hx => ?_⟩
    rw [List.mem_singleton.1 hx]
    exact ⟨rfl, hwhy⟩
  placed f hf hid := absurd hid (hforwards f hf)

theorem follows_put (hfailures : p'.failures = p.failures) (hid : g.context.id = id)
    (hg : g.Placed p'.pools n) : p.Follows id n broken (p'.putForward g) where
  noted := ⟨[], by rw [List.append_nil, ← hfailures]; rfl, fun x hx => (List.not_mem_nil hx).elim⟩
  placed f hf hf' := by
    rcases List.mem_append.1 hf with hf | hf
    · rw [List.mem_filter, bne_iff_ne, hid] at hf
      exact absurd hf' hf.2
    · rw [List.mem_singleton.1 hf]
      exact hg

theorem ne_of_others {id : Nat} (hforwards : q.forwards = p.others id) :
    ∀ f ∈ q.forwards, f.context.id ≠ id := fun _ hf => (mem_others.1 (hforwards ▸ hf)).2

theorem follows_failForward (hfailures : p'.failures = p.failures) (f : Forward)
    {why : Forward.Failure} (hwhy : ∀ pool, why = .poolClosed pool → broken) :
    p.Follows f.context.id n broken (p'.failForward f why).2 := by
  obtain ⟨hquiet, _⟩ := quiet_noteFailure (p'.dropForward f.context.id).endPending f.context.id why
  refine follows_note ?_ (ne_of_others (p := p') hquiet.forwards) hwhy
  exact (failures_noteFailure _ f.context.id why).trans (congrArg (· ++ _) hfailures)

theorem follows_crashForward (hfailures : p'.failures = p.failures) (f : Forward) :
    p.Follows f.context.id n broken (p'.crashForward f).2 :=
  follows_gone hfailures (ne_of_others (p := p') rfl)

theorem Held.hostPool (hp : p.Held) (ho : p.pools.Orderly) (f : Forward) :
    ∃ pool, p.pools.registry.pool? (p.hostPool f) = some pool ∧ pool.closed = false := by
  obtain ⟨pool, hpool⟩ := hp.ledger.backs.resolve f.context.head.host
  have hnewest := p.pools.registry.generation_resolve f.context.head.host
  exact ⟨pool, hpool, (ho.relieved.current ho.drained hpool hnewest).2⟩

theorem asks_askForLease (hf : p.pools.Fresh) {pool : ConnectionPool}
    (hpool : p.pools.registry.pool? (p.hostPool f) = some pool) (hopen : pool.closed = false)
    (retries : Nat) : p.Asks f retries (p.askForLease f retries) := by
  have hask : p.pools.ask (p.pools.registry.resolve f.context.head.host) f.endpoint =
      (p.pools.nextTicket, (p.asked f).pools) := rfl
  unfold askForLease
  dsimp only
  rw [hask]
  rcases Pool.Schedule.fares_ask (l := p.hostLease f) hf hpool hopen with
    hleased | ⟨hwaits, hnone⟩ | ⟨hmany, hrefused⟩
  · change (p.asked f).pools.answer? _ = _ at hleased
    simp only [hleased]
    exact .leased hleased
  · change (p.asked f).pools.answer? _ = _ at hnone
    simp only [hnone]
    exact .waits (.waits _ hwaits rfl rfl)
  · change (p.asked f).pools.answer? _ = _ at hrefused
    simp only [hrefused]
    cases retries <;> exact .uncounted pool hpool hmany

theorem generation_asked (p : Proxy) (f : Forward) :
    (p.asked f).pools.registry.generation = p.pools.registry.generation :=
  (p.pools.serves_ask (p.hostPool f) f.endpoint).registry.frame.1

theorem Asks.follows {retries : Nat} {r : Outcome × Proxy} (h : p'.Asks f retries r)
    (hfailures : p'.failures = p.failures) (honce : retries ≤ 1) (hreloads : 1 ≤ retries + n) :
    p.Follows f.context.id n broken r.2 := by
  cases h with
  | leased answer => exact follows_put hfailures rfl trivial
  | waits fares =>
    refine follows_put hfailures rfl ⟨fares, honce, hreloads, fun hold => absurd ?_ hold⟩
    exact (Pool.Registry.generation_resolve _ _).trans (generation_asked p' f).symm
  | uncounted pool asked fits => exact @follows_crashForward p (p'.asked f) _ _ hfailures f

theorem follows_fail {c : Context} (hforwards : p'.forwards = p.forwards)
    (hfailures : p'.failures = p.failures) (hnone : ∀ f ∈ p.forwards, f.context.id ≠ c.id)
    (m : Routing.Mapper) {why : Forward.Failure} (hwhy : ∀ pool, why = .poolClosed pool → broken) :
    p.Follows c.id n broken (p'.fail m c why).2 := by
  obtain ⟨hquiet, _⟩ := quiet_noteFailure p' c.id why
  refine follows_note ?_ (fun f hf => hnone f ?_) hwhy
  · exact (failures_noteFailure p' c.id why).trans (congrArg (· ++ _) hfailures)
  · exact (hquiet.forwards.trans hforwards) ▸ hf

theorem follows_startForward (hp : p.Held) (ho : p.pools.Orderly) {c : Context}
    (hnone : ∀ f ∈ p.forwards, f.context.id ≠ c.id) (hforwards : p'.forwards = p.forwards)
    (hfailures : p'.failures = p.failures) (hpools : p'.pools = p.pools) (m : Routing.Mapper)
    (body : Bytes) (mayCapture : Bool) :
    p.Follows c.id 0 broken (p'.startForward m c body mayCapture).2 := by
  unfold startForward
  split
  · exact follows_fail hforwards hfailures hnone m (by simp)
  · next e _ =>
    dsimp only
    split
    · next why hwhy =>
      refine @follows_fail p (p'.begins e).endPending _ _ _ hforwards hfailures hnone m why ?_
      rintro pool rfl
      cases Forward.Outgoing.closed?_ofIncoming hwhy
    · next outgoing _ =>
      have hasks (f : Forward) :
          p.Follows f.context.id 0 broken ((p'.begins e).askForLease f 1).2 := by
        have hbegins : (p'.begins e).pools = p.pools := hpools
        obtain ⟨pool, hpool, hopen⟩ := hp.hostPool ho f
        have hpool' :
            (p'.begins e).pools.registry.pool? ((p'.begins e).hostPool f) = some pool := by
          unfold hostPool
          rw [hbegins]
          exact hpool
        exact (asks_askForLease (hbegins ▸ hp.ledger.fresh_tickets) hpool' hopen 1).follows
          hfailures (Nat.le_refl 1) (Nat.le_refl 1)
      exact hasks ⟨c, m, outgoing, e, _, _⟩

theorem follows_receive (hp : p.Held) (ho : p.pools.Orderly) (connection : Connection)
    (r : Incoming) : p.Follows p.nextId 0 broken (p.receive connection r).2 := by
  have hnone : ∀ f ∈ p.forwards, f.context.id ≠ p.nextId := fun f hf => (hp.fresh f hf).ne
  have hgone (q : Proxy) (hforwards : q.forwards = p.forwards)
      (hfailures : q.failures = p.failures) : p.Follows p.nextId 0 broken q :=
    follows_gone hfailures (hforwards ▸ hnone)
  have hstart (q : Proxy) (hforwards : q.forwards = p.forwards)
      (hfailures : q.failures = p.failures) (hpools : q.pools = p.pools) (mayCapture : Bool) :
      p.Follows p.nextId 0 broken
        (q.startForward q.mapper (p.contextFor connection r) r.body mayCapture).2 :=
    @follows_startForward p q _ hp ho (p.contextFor connection r) hnone hforwards hfailures hpools
      _ _ mayCapture
  unfold receive
  dsimp only
  unfold act
  split
  · exact hgone _ rfl rfl
  · exact hgone _ rfl rfl
  · exact hgone _ rfl rfl
  · exact hgone _ rfl rfl
  · exact hgone _ rfl rfl
  · exact hstart _ (by rfl) (by rfl) (by rfl) false
  · unfold proxyAndCache
    dsimp only
    split
    · exact hstart _ (by rfl) (by rfl) (by rfl) true
    · split
      · unfold serveEntry
        dsimp only
        split <;> exact hgone _ rfl rfl
      · exact hstart _ (by rfl) (by rfl) (by rfl) true

theorem failures_commit (p : Proxy) (capture : Option Cache.Capture) :
    (p.commit capture).failures = p.failures := by
  unfold commit
  split
  · split <;> rfl
  · rfl

theorem frame_endStream (p : Proxy) (f : Forward) (l : Lease) (pump : Forward.Pump)
    (how : Forward.Ending) :
    (p.endStream f l pump how).forwards = p.others f.context.id ∧
      (p.endStream f l pump how).failures = p.failures ++ match how with
        | .complete => []
        | .failed why => [(f.context.id, why)] := by
  cases how with
  | complete =>
    refine ⟨congrArg (List.filter _) (quiet_commit p pump.capture).1.forwards, ?_⟩
    rw [List.append_nil]
    exact failures_commit p pump.capture
  | failed why =>
    exact ⟨congrArg (List.filter _) (quiet_noteFailure p f.context.id why).1.forwards,
      failures_noteFailure p f.context.id why⟩

theorem follows_endStream {f : Forward} {pump : Forward.Pump} {how : Forward.Ending}
    (hid : f.context.id = id) (hforwards : p'.forwards = p.forwards)
    (hfailures : p'.failures = p.failures)
    (hwhy : ∀ pool, how = .failed (.poolClosed pool) → broken) :
    p.Follows id n broken (p'.endStream f l pump how) := by
  subst hid
  obtain ⟨hgone, hnoted⟩ := frame_endStream p' f l pump how
  have hothers : (p'.endStream f l pump how).forwards = p.others f.context.id :=
    hgone.trans (congrArg (List.filter _) hforwards)
  rw [hfailures] at hnoted
  cases how with
  | complete => exact follows_gone (hnoted.trans (List.append_nil _)) (ne_of_others hothers)
  | failed why =>
    exact follows_note hnoted (ne_of_others hothers) fun pool heq => hwhy pool (heq ▸ rfl)

theorem failures_touch (p : Proxy) (f : Forward) (phase : Forward.PumpPhase)
    (e : Forward.PumpEvent) : (p.touch f phase e).1.failures = p.failures := by
  unfold touch
  split <;> rfl

theorem looks_leaseAnswered (hp : p.Held) (ho : p.pools.Orderly) {t : Ticket} {ref : PoolRef}
    {retries : Nat} (hawaits : p.pools.Awaits n t ⟨ref, f.endpoint⟩ retries)
    (hstage : f.stage = .waiting t ref retries) :
    p.Looks f t ref retries n (p.leaseAnswered f) := by
  unfold leaseAnswered
  rw [hstage]
  dsimp only
  cases hawaits.fares with
  | waits w mem ticket =>
    have hnone : p.pools.answer? t = none := ticket ▸ hp.ledger.unanswered w mem
    simp only [hnone]
    exact .waits hnone
  | leased answer =>
    simp only [answer]
    exact .leased answer
  | refused why answer excuse =>
    simp only [answer]
    obtain ⟨pool, hpool, rfl | ⟨hclosed, rfl⟩⟩ := excuse
    · exact .exhausted pool hpool
    · -- The pools in use are open, so this one is not among them.
      have hne := ho.relieved.old_of_closed ho.drained hpool hclosed
      have hold := hawaits.old hne
      have honce := hawaits.once
      obtain rfl | rfl : retries = 0 ∨ retries = 1 := by omega
      · exact .turnedAway pool hpool hclosed (by omega)
      · obtain ⟨newest, hnewest, hopen⟩ := hp.hostPool ho f
        exact .again pool hpool hclosed hne rfl (Pool.Registry.generation_resolve _ _) _
          (asks_askForLease hp.ledger.fresh_tickets hnewest hopen 0)

end

section
variable {p : Proxy} {f : Forward} {n : Nat} (hp : p.Held) (ho : p.pools.Orderly)
  (hf : f ∈ p.forwards) (h : f.Placed p.pools n)

include hp hf h

theorem follows_idle : p.Follows f.context.id n (p.Broken n f) p where
  noted := ⟨[], (List.append_nil _).symm, fun x hx => (List.not_mem_nil hx).elim⟩
  placed g hg hid := by
    rw [List.inj_on_of_nodup_map hp.ids hg hf hid]
    exact h

include ho

theorem follows_leaseAnswered : p.Follows f.context.id n (p.Broken n f) (p.leaseAnswered f).2 := by
  have hidle := follows_idle hp hf h
  cases hstage : f.stage with
  | sent | streaming =>
    unfold leaseAnswered
    rw [hstage]
    exact hidle
  | waiting t ref retries =>
    have hawaits := h.awaits hstage
    have hlooks := looks_leaseAnswered hp ho hawaits hstage
    generalize p.leaseAnswered f = r at hlooks ⊢
    cases hlooks with
    | waits answer => exact hidle
    | leased answer => exact follows_put rfl rfl trivial
    | exhausted pool waited => exact follows_failForward rfl f (by simp)
    | again pool waited closed old once newest result asks =>
      have hreloads := hawaits.old old
      exact asks.follows rfl (Nat.zero_le 1) (by omega)
    | turnedAway pool waited closed twice => exact follows_failForward rfl f fun _ _ => .inr twice

omit ho

theorem follows_exchangeFails (why : Forward.Failure)
    (hwhy : ∀ l pool, f.stage = .sent l → why = .poolClosed pool → p.Broken n f) :
    p.Follows f.context.id n (p.Broken n f) (p.exchangeFails f why).2 := by
  have hidle := follows_idle hp hf h
  unfold exchangeFails
  cases hstage : f.stage with
  | waiting | streaming => exact hidle
  | sent l => exact follows_failForward (by rfl) f fun pool => hwhy l pool hstage

theorem follows_headArrives (status : Http.Status) (headers : Http.Headers) :
    p.Follows f.context.id n (p.Broken n f) (p.headArrives f status headers).2 := by
  have hidle := follows_idle hp hf h
  unfold headArrives
  cases hstage : f.stage with
  | waiting | streaming => exact hidle
  | sent l =>
    dsimp only
    split
    · exact follows_crashForward (by rfl) f
    · exact follows_put rfl rfl fun pool hblamed => by cases hblamed

theorem follows_pumpEvent (e : Forward.PumpEvent)
    (hcut : ∀ l pump, f.stage = .streaming l pump → e = .cutOff → p.pools.isCutOff l = true) :
    p.Follows f.context.id n (p.Broken n f) (p.pumpEvent f e).2 := by
  have hidle := follows_idle hp hf h
  unfold pumpEvent
  cases hstage : f.stage with
  | waiting | sent => exact hidle
  | streaming l pump =>
    have hblame {pool : String} (hb : (pump.step e).blamed? = some pool) :
        p.pools.isCutOff l = true := by
      rcases Forward.Pump.blamed?_step hb with hb | rfl
      · unfold Forward.Placed at h
        rw [hstage] at h
        exact h pool hb
      · exact hcut l pump hstage rfl
    have hlease : p.lease? f = some l := by
      unfold lease? Forward.holding
      rw [hstage]
      rfl
    obtain ⟨hquiet, hpools, htouch⟩ := quiet_touch p f pump.phase e
    have hfailures := failures_touch p f pump.phase e
    dsimp only
    generalize hc : (if (pump.step e).isListening then (p.touch f pump.phase e).2
      else (p.touch f pump.phase e).2.backendDone (p.touch f pump.phase e).1.pools.nowMs) = c
    have hid : c.id = f.context.id := by
      rw [← hc]
      split
      · exact htouch.id
      · exact (Context.tells_backendDone _ _).id.trans htouch.id
    split
    · next how hending =>
      refine follows_endStream hid hquiet.forwards hfailures fun pool hhow => ?_
      refine .inl ⟨l, hlease, @hblame pool ?_⟩
      unfold Forward.Pump.ending? at hending
      unfold Forward.Pump.blamed?
      split at hending
      · next hphase =>
        cases hending
        rw [hphase, hhow]
        rfl
      · cases hending
    · refine follows_put hfailures hid fun pool hblamed => ?_
      rw [hpools]
      exact hblame hblamed

theorem follows_clientLeaves :
    p.Follows f.context.id n (p.Broken n f) (p.clientLeaves f).2 := by
  unfold clientLeaves
  cases hstage : f.stage with
  | waiting | sent => exact follows_gone rfl (ne_of_others (p := p) rfl)
  | streaming l pump => exact follows_pumpEvent hp hf h .clientLeaves fun _ _ _ he => by cases he

include ho

theorem follows_onForward (e : Forward.Event) :
    p.Follows f.context.id n (p.Broken n f) (p.onForward f e).2 := by
  have hpump (e : Forward.PumpEvent) (he : e ≠ .cutOff) :=
    follows_pumpEvent hp hf h e fun _ _ _ heq => absurd heq he
  cases e with
  | leaseAnswered => exact follows_leaseAnswered hp ho hf h
  | connectFails reason => exact follows_exchangeFails hp hf h _ (by simp)
  | exchangeFails reason => exact follows_exchangeFails hp hf h _ (by simp)
  | headArrives status headers => exact follows_headArrives hp hf h status headers
  | body b => exact hpump _ (by simp)
  | clientReads => exact hpump _ (by simp)
  | noRoom => exact hpump _ (by simp)
  | clientLeaves => exact follows_clientLeaves hp hf h
  | silence =>
    change p.Follows _ n _ (p.silence f).2
    unfold silence
    split
    · exact follows_exchangeFails hp hf h _ (by simp)
    · exact hpump _ (by simp)
  | cutOff =>
    have hidle := follows_idle hp hf h
    change p.Follows _ n _ (p.cutOff f).2
    unfold cutOff
    cases hstage : f.stage with
    | waiting => exact hidle
    | sent l =>
      have hlease : p.lease? f = some l := by
        unfold lease? Forward.holding
        rw [hstage]
        rfl
      dsimp only
      split
      · next hcut => exact follows_exchangeFails hp hf h _ fun _ _ _ _ => .inl ⟨l, hlease, hcut⟩
      · exact hidle
    | streaming l pump =>
      dsimp only
      split
      · next hcut =>
        refine follows_pumpEvent hp hf h .cutOff fun l' pump' hstage' _ => ?_
        rw [hstage] at hstage'
        cases hstage'
        exact hcut
      · exact hidle

end

end Proxy
end ReverseProxy
