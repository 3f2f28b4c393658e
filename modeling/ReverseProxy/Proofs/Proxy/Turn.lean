import ReverseProxy.Proofs.Pool.Ledger
import ReverseProxy.Proxy.Dispatch

set_option autoImplicit false

/-!
# Turns of a forward

Whatever happens to a forward, it either goes on or ends, and an end is entered into the books once.
What it held of the pools before is then held by the forward that goes on, or given back. Only its
own place among the forwards changes.
-/
namespace ReverseProxy
open Request
open Pool (Holding)

def Outcome.told : Outcome → List Http.Status
  | .response r => [r.status]
  | .streaming status _ => [status]
  | .none | .crashed => []

namespace Request.Context

def told (c : Context) : List Http.Status := if c.headersSent then [c.status] else []

structure Tells (c : Context) (o : Outcome) (c' : Context) : Prop where
  id : c'.id = c.id
  decision : c'.decision = c.decision
  fromCache : c'.fromCache = c.fromCache
  told : c'.told = c.told ++ o.told

theorem tells_backendStart (c : Context) (now : Nat) : c.Tells .none (c.backendStart now) :=
  ⟨rfl, rfl, rfl, (List.append_nil _).symm⟩

theorem tells_backendDone (c : Context) (now : Nat) : c.Tells .none (c.backendDone now) := by
  unfold backendDone
  split <;> exact ⟨rfl, rfl, rfl, (List.append_nil _).symm⟩

theorem tells_head {c : Context} (h : c.headersSent = false) {o : Outcome} {status : Http.Status}
    (ho : o.told = [status]) : c.Tells o { c with status, headersSent := true } := by
  refine ⟨rfl, rfl, rfl, ?_⟩
  have hnone : c.told = [] := by
    unfold Context.told
    rw [h]
    rfl
  rw [hnone, ho]
  rfl

theorem tells_silent (c : Context) {o : Outcome} (ho : o.told = []) : c.Tells o c :=
  ⟨rfl, rfl, rfl, by rw [ho, List.append_nil]⟩

theorem Tells.trans {c c' c'' : Context} {o : Outcome} (h : c.Tells .none c')
    (h' : c'.Tells o c'') : c.Tells o c'' := by
  refine ⟨h'.id.trans h.id, h'.decision.trans h.decision, h'.fromCache.trans h.fromCache, ?_⟩
  rw [h'.told, h.told]
  exact congrArg (· ++ o.told) (List.append_nil _)

end Request.Context

namespace Forward

def holding (f : Forward) : Holding :=
  match f.stage with
  | .waiting t _ _ => .ticket t
  | .sent l => .lease l
  | .streaming l _ => .lease l

/-- Nothing of a response has been sent, and a capture has seen nothing of it. -/
structure Unsent (f : Forward) : Prop where
  headersSent : f.context.headersSent = false
  capture : ∀ c, f.capture = some c → c.state = .awaitingHead

structure Pumping (f : Forward) (pump : Forward.Pump) : Prop where
  headersSent : f.context.headersSent = true
  capture : f.capture = none
  ending : pump.ending? = none

def Sound (f : Forward) : Prop :=
  match f.stage with
  | .streaming _ pump => f.Pumping pump
  | _ => f.Unsent

section
variable {f : Forward} {l : Pool.Lease}

theorem Sound.pumping {pump : Forward.Pump} (hs : f.Sound) (h : f.stage = .streaming l pump) :
    f.Pumping pump := by
  unfold Sound at hs
  rw [h] at hs
  exact hs

theorem Sound.unsent (hs : f.Sound) (h : ∀ l pump, f.stage ≠ .streaming l pump) : f.Unsent := by
  unfold Sound at hs
  split at hs
  · next l pump hstage => exact absurd hstage (h l pump)
  · exact hs

end

end Forward

namespace Proxy

def totalOf (p : Proxy) (e : Endpoint) : Nat := ((p.statsOf? e).map (·.totalRequests)).getD 0

def others (p : Proxy) (id : Nat) : List Forward := p.forwards.filter (·.context.id != id)

/-- The books of `q` are those of `p` with some requests that ended since. -/
structure Adds (p q : Proxy) (rs : List Access.Record) : Prop where
  log : q.log = p.log ++ if p.keepsLog then rs else []
  finished : q.finished = rs.foldl (fun n r => tally (r.action, r.status) n) p.finished
  keepsLog : q.keepsLog = p.keepsLog
  nextId : q.nextId = p.nextId
  total : ∀ e, q.totalOf e = p.totalOf e

structure Quiet (p q : Proxy) : Prop where
  forwards : q.forwards = p.forwards
  pending : q.pending = p.pending
  books : p.Adds q []

structure Lets (p : Proxy) (id : Nat) (q : Proxy) : Prop where
  forwards : q.forwards = p.others id
  pending : q.pending = p.pending - 1
  books : p.Adds q []

/-- What became of a request with the context `c` that was on its way to `e` and held `h`. -/
inductive Turn (p : Proxy) (c : Context) (e : Endpoint) (h : Holding) (o : Outcome) (q : Proxy) :
    Prop where
  | goesOn (f : Forward) (forwards : q.forwards.Perm (f :: p.others c.id))
      (pending : q.pending = p.pending) (books : p.Adds q [])
      (deals : p.pools.Deals h q.pools f.holding) (tells : c.Tells o f.context)
      (endpoint : f.endpoint = e) (sound : f.Sound)
  | ends (c' : Context) (now : Nat) (forwards : q.forwards = p.others c.id)
      (pending : q.pending = p.pending - 1) (books : p.Adds q [c'.finish now])
      (deals : p.pools.Deals h q.pools .nothing) (tells : c.Tells o c')

section
variable {p p' q q' : Proxy} {c c' : Context} {e : Endpoint} {h h' : Holding} {o : Outcome}
  {id : Nat} {f : Forward}

theorem adds_of_eq (hl : q.log = p.log) (hf : q.finished = p.finished)
    (hk : q.keepsLog = p.keepsLog) (hn : q.nextId = p.nextId)
    (ht : q.endpointStats = p.endpointStats) : p.Adds q [] where
  log := by
    rw [hl]
    split <;> exact (List.append_nil _).symm
  finished := hf
  keepsLog := hk
  nextId := hn
  total e := by
    unfold totalOf statsOf?
    rw [ht]

theorem Adds.trans {rs : List Access.Record} (h : p.Adds p' []) (h' : p'.Adds q rs) :
    p.Adds q rs where
  log := by
    have hlog := h.log
    rw [ite_self, List.append_nil] at hlog
    rw [h'.log, hlog, h.keepsLog]
  finished := h'.finished.trans (by rw [h.finished]; rfl)
  keepsLog := h'.keepsLog.trans h.keepsLog
  nextId := h'.nextId.trans h.nextId
  total e := (h'.total e).trans (h.total e)

theorem quiet_refl (p : Proxy) : p.Quiet p := ⟨rfl, rfl, adds_of_eq rfl rfl rfl rfl rfl⟩

theorem Quiet.trans (h : p.Quiet p') (h' : p'.Quiet q) : p.Quiet q :=
  ⟨h'.forwards.trans h.forwards, h'.pending.trans h.pending, h.books.trans h'.books⟩

theorem Quiet.others (h : p.Quiet q) (id : Nat) : q.others id = p.others id := by
  unfold Proxy.others
  rw [h.forwards]

theorem Quiet.lets (h : p.Quiet p') (h' : p'.Lets id q) : p.Lets id q :=
  ⟨h'.forwards.trans (h.others id), by rw [h'.pending, h.pending], h.books.trans h'.books⟩

theorem Lets.quiet (h : p.Lets id q) (h' : q.Quiet q') : p.Lets id q' :=
  ⟨h'.forwards.trans h.forwards, h'.pending.trans h.pending, h.books.trans h'.books⟩

theorem Turn.after (hq : p.Quiet p') (hd : p.pools.Deals h p'.pools h') (hc : c.Tells .none c')
    (ht : p'.Turn c' e h' o q) : p.Turn c e h o q := by
  cases ht with
  | goesOn f forwards pending books deals tells endpoint sound =>
    rw [hq.others, hc.id] at forwards
    exact .goesOn f forwards (pending.trans hq.pending) (hq.books.trans books) (hd.trans deals)
      (hc.trans tells) endpoint sound
  | ends c'' now forwards pending books deals tells =>
    rw [hq.others, hc.id] at forwards
    exact .ends c'' now forwards (by rw [pending, hq.pending]) (hq.books.trans books)
      (hd.trans deals) (hc.trans tells)

theorem Turn.adds (ht : p.Turn c e h o q) : ∃ rs, p.Adds q rs := by
  cases ht with
  | goesOn f forwards pending books => exact ⟨[], books⟩
  | ends c' now forwards pending books => exact ⟨_, books⟩

theorem quiet_pools (p : Proxy) (pools : Pool.Schedule) : p.Quiet { p with pools } :=
  ⟨rfl, rfl, adds_of_eq rfl rfl rfl rfl rfl⟩

theorem quiet_noteFailure (p : Proxy) (id : Nat) (why : Forward.Failure) :
    p.Quiet (p.noteFailure id why) ∧ (p.noteFailure id why).pools = p.pools := by
  have hreport {q : Proxy} (hq : p.Quiet q ∧ q.pools = p.pools) (e : Endpoint)
      (h : p.noteFailure id why = if why.reportsUnreachable q.markStuckUnreachable then
        q.reportUnreachable e why.message else q) :
      p.Quiet (p.noteFailure id why) ∧ (p.noteFailure id why).pools = p.pools := by
    rw [h]
    split
    · exact ⟨hq.1.trans ⟨rfl, rfl, adds_of_eq rfl rfl rfl rfl rfl⟩, hq.2⟩
    · exact hq
  have hnoted : p.Quiet { p with failures := p.failures ++ [(id, why)] } ∧ p.pools = p.pools :=
    ⟨⟨rfl, rfl, adds_of_eq rfl rfl rfl rfl rfl⟩, rfl⟩
  cases why with
  | stuck e after =>
    have hcounted : p.Quiet { p with
        failures := p.failures ++ [(id, .stuck e after)]
        stuck := tally e p.stuck } ∧ p.pools = p.pools :=
      ⟨⟨rfl, rfl, adds_of_eq rfl rfl rfl rfl rfl⟩, rfl⟩
    exact hreport hcounted e rfl
  | poolExhausted e | connect e | exchange e => exact hreport hnoted e rfl
  | clientGone | poolClosed | invalidTarget => exact hnoted

theorem quiet_commit (p : Proxy) (capture : Option Cache.Capture) :
    p.Quiet (p.commit capture) ∧ (p.commit capture).pools = p.pools := by
  unfold Proxy.commit
  split
  · split
    · exact ⟨⟨rfl, rfl, adds_of_eq rfl rfl rfl rfl rfl⟩, rfl⟩
    · exact ⟨quiet_refl p, rfl⟩
  · exact ⟨quiet_refl p, rfl⟩

theorem totalOf_setStats (p : Proxy) (e : Endpoint) (s : Endpoint.Stats) (a : Endpoint) :
    (p.setStats e s).totalOf a = if a = e then s.totalRequests else p.totalOf a := by
  unfold totalOf statsOf? setStats
  by_cases ha : a = e
  · subst ha
    have hnone : (p.endpointStats.filter (·.1 != a)).find? (·.1 == a) = none :=
      Keyed.find?_eq_none_iff.2 (Keyed.notMem_filter _ a)
    rw [List.find?_append, hnone]
    simp
  · have hlast : [(e, s)].find? (·.1 == a) = none := by
      simpa using fun heq : e = a => ha heq.symm
    rw [List.find?_append, Keyed.find?_filter _ ha, hlast, Option.or_none, if_neg ha]

theorem totalOf_changeStats (p : Proxy) (e : Endpoint) (g : Endpoint.Stats → Endpoint.Stats)
    {n : Nat} (hg : ∀ s, (g s).totalRequests = s.totalRequests + n) (a : Endpoint) :
    (p.changeStats e g).totalOf a = p.totalOf a + if a = e then n else 0 := by
  unfold changeStats
  rw [totalOf_setStats]
  by_cases ha : a = e
  · subst ha
    rw [if_pos rfl, if_pos rfl, hg]
    unfold totalOf
    cases p.statsOf? a with
    | none => rfl
    | some s => rfl
  · rw [if_neg ha, if_neg ha]
    rfl

theorem quiet_touch (p : Proxy) (f : Forward) (phase : Forward.PumpPhase) (e : Forward.PumpEvent) :
    p.Quiet (p.touch f phase e).1 ∧ (p.touch f phase e).1.pools = p.pools ∧
      f.context.Tells .none (p.touch f phase e).2 := by
  unfold Proxy.touch
  split
  · refine ⟨⟨rfl, rfl, ?_, rfl, rfl, rfl, fun a => ?_⟩, rfl, rfl, rfl, rfl, ?_⟩
    · split <;> exact (List.append_nil _).symm
    · have htotal := totalOf_changeStats p f.endpoint (·.touch p.nowMs) (n := 0) (fun _ => rfl) a
      rw [ite_self] at htotal
      exact htotal
    · exact (List.append_nil _).symm
  · exact ⟨quiet_refl p, rfl, f.context.tells_silent rfl⟩

theorem lets_drop (p : Proxy) (id : Nat) : p.Lets id (p.dropForward id).endPending :=
  ⟨rfl, rfl, adds_of_eq rfl rfl rfl rfl rfl⟩

theorem Lets.turn (hq : p.Lets c.id q) (hd : p.pools.Deals h q.pools .nothing)
    (hc : c.Tells o c') : p.Turn c e h o (q.finish c') := by
  refine .ends c' q.pools.nowMs hq.forwards hq.pending (hq.books.trans ?_) hd hc
  refine ⟨?_, rfl, rfl, rfl, fun _ => rfl⟩
  change (if q.keepsLog then q.log ++ _ else q.log) = _
  split
  · rfl
  · exact (List.append_nil _).symm

theorem Lets.answer (hq : p.Lets c.id q) (hd : p.pools.Deals h q.pools .nothing)
    (hs : c.headersSent = false) (r : Http.Response) :
    p.Turn c e h (q.answer c r).1 (q.answer c r).2 :=
  hq.turn hd (Context.tells_head hs rfl)

theorem Lets.fail (hq : p.Lets c.id q) (hd : p.pools.Deals h q.pools .nothing)
    (hs : c.headersSent = false) (m : Routing.Mapper) (why : Forward.Failure) :
    p.Turn c e h (q.fail m c why).1 (q.fail m c why).2 := by
  obtain ⟨hquiet, hpools⟩ := quiet_noteFailure q c.id why
  exact (hq.quiet hquiet).answer (hpools ▸ hd) hs _

theorem turn_failForward (p : Proxy) (hs : f.context.headersSent = false)
    (why : Forward.Failure) :
    p.Turn f.context e .nothing (p.failForward f why).1 (p.failForward f why).2 :=
  (lets_drop p f.context.id).fail (.refl _ _) hs f.mappedBy why

theorem turn_crashForward (p : Proxy) (f : Forward) :
    p.Turn f.context e .nothing (p.crashForward f).1 (p.crashForward f).2 :=
  (lets_drop p f.context.id).turn (.refl _ _) (f.context.tells_silent rfl)

theorem turn_refuse (p : Proxy) (hs : f.context.headersSent = false) (why : Pool.Refusal) :
    p.Turn f.context e .nothing (p.refuse f why).1 (p.refuse f why).2 := by
  unfold Proxy.refuse
  split
  · exact turn_failForward p hs _
  · exact turn_crashForward p f

theorem turn_put (p : Proxy) (hid : f.context.id = c.id) (hc : c.Tells o f.context)
    (he : f.endpoint = e) (hs : f.Sound) : p.Turn c e f.holding o (p.putForward f) := by
  refine .goesOn f ?_ rfl (adds_of_eq rfl rfl rfl rfl rfl) (.refl _ _) hc he hs
  change (p.forwards.filter (·.context.id != f.context.id) ++ [f]).Perm _
  rw [hid]
  exact List.perm_append_singleton _ _

theorem turn_send (p : Proxy) (f : Forward) (hs : f.Unsent) (l : Pool.Lease) :
    p.Turn f.context f.endpoint (.lease l) .none (p.send f l) :=
  turn_put (f := { f with stage := .sent l, context := f.context.backendStart p.pools.nowMs }) p rfl
    (f.context.tells_backendStart _) rfl ⟨hs.headersSent, hs.capture⟩

theorem turn_wait (p : Proxy) (f : Forward) (hs : f.Unsent) (t : Pool.Ticket) (ref : Pool.PoolRef)
    (retries : Nat) : p.Turn f.context f.endpoint (.ticket t) .none
      (p.putForward { f with stage := .waiting t ref retries }) :=
  turn_put (f := { f with stage := .waiting t ref retries }) p rfl (f.context.tells_silent rfl) rfl
    ⟨hs.headersSent, hs.capture⟩

theorem deals_askHost {s s' : Pool.Schedule} {t : Pool.Ticket} {host : String}
    (ha : s.ask (s.registry.resolve host) e = (t, s')) : s.Deals .nothing s' (.ticket t) := by
  intro rest hl
  obtain ⟨pool, hp⟩ := hl.backs.resolve host
  have hasked := Pool.Schedule.deals_ask (s.registry.resolve host) e hp rest hl
  obtain ⟨rfl, rfl⟩ := Prod.mk.inj ha
  exact hasked

theorem turn_askForLease (p : Proxy) (f : Forward) (hs : f.Unsent) (retries : Nat) :
    p.Turn f.context f.endpoint .nothing (p.askForLease f retries).1
      (p.askForLease f retries).2 := by
  fun_induction Proxy.askForLease p f retries with
  | case1 retries p ref t pools hasked p' l ha =>
    have hd := (deals_askHost hasked).trans (Pool.Schedule.deals_take ha)
    exact .after (quiet_pools p pools) hd (f.context.tells_silent rfl) (turn_send p' f hs l)
  | case2 p ref t pools hasked p' why ha =>
    have hd := (deals_askHost hasked).trans (Pool.Schedule.deals_forget ha)
    exact .after (quiet_pools p pools) hd (f.context.tells_silent rfl)
      (turn_refuse p' hs.headersSent why)
  | case3 p ref t pools hasked p' why ha retries hretry ih =>
    have hd := (deals_askHost hasked).trans (Pool.Schedule.deals_forget ha)
    exact .after (quiet_pools p pools) hd (f.context.tells_silent rfl) ih
  | case4 p ref t pools hasked p' why ha retries hretry =>
    have hd := (deals_askHost hasked).trans (Pool.Schedule.deals_forget ha)
    exact .after (quiet_pools p pools) hd (f.context.tells_silent rfl)
      (turn_refuse p' hs.headersSent why)
  | case5 retries p ref t pools hasked p' ha =>
    exact .after (quiet_pools p pools) (deals_askHost hasked) (f.context.tells_silent rfl)
      (turn_wait p' f hs t ref retries)

theorem turn_exchangeFails (p : Proxy) {l : Pool.Lease} (hstage : f.stage = .sent l)
    (hs : f.context.headersSent = false) (why : Forward.Failure) :
    p.Turn f.context e (.lease l) (p.exchangeFails f why).1 (p.exchangeFails f why).2 := by
  unfold Proxy.exchangeFails
  rw [hstage]
  exact .after (quiet_pools p _) (Pool.Schedule.deals_release p.pools l)
    (f.context.tells_silent rfl) (turn_failForward _ hs why)

theorem turn_headArrives (p : Proxy) {l : Pool.Lease} (hstage : f.stage = .sent l)
    (hs : f.context.headersSent = false) (status : Http.Status) (headers : Http.Headers) :
    p.Turn f.context f.endpoint (.lease l) (p.headArrives f status headers).1
      (p.headArrives f status headers).2 := by
  unfold Proxy.headArrives
  rw [hstage]
  dsimp only
  split
  · exact .after (quiet_pools p _) (Pool.Schedule.deals_release p.pools l)
      (f.context.tells_silent rfl) (turn_crashForward _ f)
  · next capture _ =>
    let pump : Forward.Pump := {
      endpoint := f.endpoint
      poolId := p.poolIdOf l
      stuckAfter := p.stuckTimeout
      capture := capture.filter (·.isActive) }
    exact turn_put (f := { f with
      context := { f.context with status, headersSent := true }
      capture := none
      stage := .streaming l pump }) p rfl (Context.tells_head hs rfl) rfl ⟨rfl, rfl, rfl⟩

theorem turn_endStream (p : Proxy) (f : Forward) (l : Pool.Lease) (pump : Forward.Pump)
    (how : Forward.Ending) :
    p.Turn f.context e (.lease l) .none (p.endStream f l pump how) := by
  have hends {noted : Proxy} (hnoted : p.Quiet noted) (hpools : noted.pools = p.pools) :
      p.Turn f.context e (.lease l) .none
        (((noted.releaseLease l).dropForward f.context.id).endPending.finish f.context) := by
    have hlets : p.Lets f.context.id
        ((noted.releaseLease l).dropForward f.context.id).endPending :=
      (hnoted.trans (quiet_pools noted _)).lets (lets_drop _ _)
    refine hlets.turn ?_ (f.context.tells_silent rfl)
    change p.pools.Deals _ (noted.pools.release l) _
    rw [hpools]
    exact Pool.Schedule.deals_release p.pools l
  cases how with
  | complete =>
    obtain ⟨hquiet, hpools⟩ := quiet_commit p pump.capture
    exact hends (hquiet.trans ⟨rfl, rfl, adds_of_eq rfl rfl rfl rfl rfl⟩) hpools
  | failed why =>
    obtain ⟨hquiet, hpools⟩ := quiet_noteFailure p f.context.id why
    exact hends hquiet hpools

theorem turn_idle (hd : (p.forwards.map fun f => f.context.id).Nodup) (hf : f ∈ p.forwards)
    (hs : f.Sound) (ho : o.told = []) : p.Turn f.context f.endpoint f.holding o p :=
  .goesOn f (Keyed.perm_cons_filter (fun f : Forward => f.context.id) hd hf) rfl
    (quiet_refl p).books (.refl _ _) (f.context.tells_silent ho) rfl hs

theorem turn_pumpEvent (p : Proxy) {l : Pool.Lease} {pump : Forward.Pump}
    (hstage : f.stage = .streaming l pump) (hs : f.Sound) (event : Forward.PumpEvent) :
    p.Turn f.context f.endpoint (.lease l) (p.pumpEvent f event).1 (p.pumpEvent f event).2 := by
  obtain ⟨hquiet, hpools, htouch⟩ := quiet_touch p f pump.phase event
  obtain ⟨hsent, hcapture, _⟩ := hs.pumping hstage
  unfold Proxy.pumpEvent
  rw [hstage]
  dsimp only
  generalize hc : (if (pump.step event).isListening then (p.touch f pump.phase event).2
    else (p.touch f pump.phase event).2.backendDone (p.touch f pump.phase event).1.pools.nowMs) = c
  have htells : f.context.Tells .none c := by
    rw [← hc]
    split
    · exact htouch
    · exact htouch.trans (Context.tells_backendDone _ _)
  have hstill : c.headersSent = true := by
    have htold := htells.told
    unfold Context.told at htold
    rw [hsent] at htold
    by_contra hnot
    rw [if_neg hnot] at htold
    cases htold
  have hdeals : p.pools.Deals (.lease l) (p.touch f pump.phase event).1.pools (.lease l) := by
    rw [hpools]
    exact .refl _ _
  split
  · next how _ =>
    exact .after hquiet hdeals htells (turn_endStream _
      { f with context := c, stage := .streaming l (pump.step event) } l (pump.step event) how)
  · next hending =>
    exact .after hquiet hdeals htells (turn_put
      (f := { f with context := c, stage := .streaming l (pump.step event) }) _ rfl
      (c.tells_silent rfl) rfl ⟨hstill, hcapture, hending⟩)

end

section
variable {p : Proxy} {f : Forward} (hd : (p.forwards.map fun f => f.context.id).Nodup)
  (hf : f ∈ p.forwards) (hs : f.Sound)

include hd hf hs

theorem turn_leaseAnswered : p.Turn f.context f.endpoint f.holding (p.leaseAnswered f).1
    (p.leaseAnswered f).2 := by
  have hidle := turn_idle hd hf hs (o := .none) rfl
  unfold Proxy.leaseAnswered
  cases hstage : f.stage with
  | sent | streaming => exact hidle
  | waiting t ref retries =>
    have hunsent := hs.unsent (by simp [hstage])
    have hholding : f.holding = .ticket t := by rw [Forward.holding, hstage]
    rw [hholding] at hidle ⊢
    dsimp only
    split
    · next l ha =>
      exact .after (quiet_pools p p.pools) (Pool.Schedule.deals_take ha)
        (f.context.tells_silent rfl) (turn_send p f hunsent l)
    · next why ha =>
      have hforget := Pool.Schedule.deals_forget ha
      split
      · exact .after (quiet_pools p p.pools) hforget (f.context.tells_silent rfl)
          (turn_askForLease p f hunsent _)
      · exact .after (quiet_pools p p.pools) hforget (f.context.tells_silent rfl)
          (turn_refuse p hunsent.headersSent why)
    · exact hidle

theorem turn_exchange (why : Forward.Failure) : p.Turn f.context f.endpoint f.holding
    (p.exchangeFails f why).1 (p.exchangeFails f why).2 := by
  have hidle := turn_idle hd hf hs (o := .none) rfl
  cases hstage : f.stage with
  | sent l =>
    have hholding : f.holding = .lease l := by rw [Forward.holding, hstage]
    rw [hholding]
    exact turn_exchangeFails p hstage (hs.unsent (by simp [hstage])).headersSent why
  | waiting | streaming =>
    unfold Proxy.exchangeFails
    rw [hstage]
    exact hidle

theorem turn_head (status : Http.Status) (headers : Http.Headers) :
    p.Turn f.context f.endpoint f.holding (p.headArrives f status headers).1
      (p.headArrives f status headers).2 := by
  have hidle := turn_idle hd hf hs (o := .none) rfl
  cases hstage : f.stage with
  | sent l =>
    have hholding : f.holding = .lease l := by rw [Forward.holding, hstage]
    rw [hholding]
    exact turn_headArrives p hstage (hs.unsent (by simp [hstage])).headersSent status headers
  | waiting | streaming =>
    unfold Proxy.headArrives
    rw [hstage]
    exact hidle

theorem turn_pump (event : Forward.PumpEvent) : p.Turn f.context f.endpoint f.holding
    (p.pumpEvent f event).1 (p.pumpEvent f event).2 := by
  have hidle := turn_idle hd hf hs (o := .none) rfl
  cases hstage : f.stage with
  | streaming l pump =>
    have hholding : f.holding = .lease l := by rw [Forward.holding, hstage]
    rw [hholding]
    exact turn_pumpEvent p hstage hs event
  | waiting | sent =>
    unfold Proxy.pumpEvent
    rw [hstage]
    exact hidle

theorem turn_clientLeaves : p.Turn f.context f.endpoint f.holding (p.clientLeaves f).1
    (p.clientLeaves f).2 := by
  unfold Proxy.clientLeaves
  cases hstage : f.stage with
  | waiting t ref retries =>
    have hholding : f.holding = .ticket t := by rw [Forward.holding, hstage]
    rw [hholding]
    have hlets := (quiet_pools p (p.pools.discard t)).lets (lets_drop _ f.context.id)
    exact hlets.turn (Pool.Schedule.deals_discard p.pools t) (f.context.tells_silent rfl)
  | sent l =>
    have hholding : f.holding = .lease l := by rw [Forward.holding, hstage]
    rw [hholding]
    have hlets := (quiet_pools p (p.pools.release l)).lets (lets_drop _ f.context.id)
    exact hlets.turn (Pool.Schedule.deals_release p.pools l) (f.context.tells_silent rfl)
  | streaming => exact turn_pump hd hf hs .clientLeaves

theorem turn_silence : p.Turn f.context f.endpoint f.holding (p.silence f).1 (p.silence f).2 := by
  unfold Proxy.silence
  split
  · exact turn_exchange hd hf hs _
  · exact turn_pump hd hf hs .silence

theorem turn_cutOff : p.Turn f.context f.endpoint f.holding (p.cutOff f).1 (p.cutOff f).2 := by
  have hidle := turn_idle hd hf hs (o := .none) rfl
  unfold Proxy.cutOff
  split
  · split
    · exact turn_exchange hd hf hs _
    · exact hidle
  · split
    · exact turn_pump hd hf hs .cutOff
    · exact hidle
  · exact hidle

theorem turn_onForward (event : Forward.Event) : p.Turn f.context f.endpoint f.holding
    (p.onForward f event).1 (p.onForward f event).2 := by
  cases event with
  | leaseAnswered => exact turn_leaseAnswered hd hf hs
  | connectFails reason => exact turn_exchange hd hf hs _
  | exchangeFails reason => exact turn_exchange hd hf hs _
  | headArrives status headers => exact turn_head hd hf hs status headers
  | silence => exact turn_silence hd hf hs
  | cutOff => exact turn_cutOff hd hf hs
  | body b => exact turn_pump hd hf hs _
  | clientReads => exact turn_pump hd hf hs _
  | clientLeaves => exact turn_clientLeaves hd hf hs
  | noRoom => exact turn_pump hd hf hs _

end

end Proxy
end ReverseProxy
