import ReverseProxy.Proofs.Cache.Dates
import ReverseProxy.Proofs.Forward.Outgoing
import ReverseProxy.Proofs.Proxy.Streams

set_option autoImplicit false

/-!
# Moves of a forward

Everything that can come of an event of a forward, said once: the forward goes on in one of a few
ways, or it ends, with a fate that follows from where it stood, the event and what the pools answer.
The same holds of a request that is taken in and becomes a forward.
-/
namespace ReverseProxy
open Request

/-- How a forward ends. -/
inductive Forward.Fate where
  | complete
  | failed (why : Forward.Failure)
  | givenUp
  | crashed
deriving DecidableEq, Repr

namespace Forward.Fate

def ofRefusal (why : Pool.Refusal) : Fate :=
  match Forward.Failure.ofRefusal? why with
  | some failure => .failed failure
  | none => .crashed

def ofEnding : Forward.Ending → Fate
  | .complete => .complete
  | .failed why => .failed why

end Forward.Fate

structure Request.Context.Resumes (c c' : Context) : Prop where
  id : c'.id = c.id
  connection : c'.connection = c.connection
  head : c'.head = c.head
  decision : c'.decision = c.decision

def Forward.place (f : Forward) : Nat × Endpoint := (f.context.id, f.endpoint)

namespace Proxy

/-- Why a request for a lease comes to nothing, after as many more attempts as there are retries. -/
def turnedAway? (s : Pool.Schedule) (host : String) (e : Endpoint) (retries : Nat) :
    Option Pool.Refusal :=
  let (t, s) := s.ask (s.registry.resolve host) e
  match s.answer? t with
  | some (.error why) =>
    match retries with
    | 0 => some why
    | n + 1 => if mayRetry (n + 1) why then turnedAway? s host e n else some why
  | _ => none

def fate? (p : Proxy) (f : Forward) (e : Forward.Event) : Option Forward.Fate :=
  match f.stage with
  | .waiting t _ retries =>
    match e with
    | .leaseAnswered =>
      match p.pools.answer? t with
      | some (.error why) =>
        if mayRetry retries why then
          (turnedAway? p.pools f.context.head.host f.endpoint (retries - 1)).map .ofRefusal
        else some (.ofRefusal why)
      | _ => none
    | .clientLeaves => some .givenUp
    | _ => none
  | .sent l =>
    match e with
    | .connectFails reason => some (.failed (.connect f.endpoint reason))
    | .exchangeFails reason => some (.failed (.exchange f.endpoint reason))
    | .silence => some (.failed (.stuck f.endpoint p.stuckTimeout))
    | .cutOff => if p.pools.isCutOff l then some (.failed (.poolClosed (p.poolIdOf l))) else none
    | .headArrives status headers =>
      match captureHead? f status headers.stripHopByHop with
      | some _ => none
      | none => some .crashed
    | .clientLeaves => some .givenUp
    | _ => none
  | .streaming l pump =>
    (p.pumpEvent? l e).bind fun pe => (pump.step pe).ending?.map .ofEnding

/-- How a forward goes on after an event, with what its client is told. -/
inductive Next (p : Proxy) (f : Forward) : Forward.Event → Outcome → Forward → Prop where
  | waits (t t' : Pool.Ticket) (ref ref' : Pool.PoolRef) (retries retries' : Nat)
      (stage : f.stage = .waiting t ref retries) :
    p.Next f .leaseAnswered .none { f with stage := .waiting t' ref' retries' }
  | leased (t : Pool.Ticket) (ref : Pool.PoolRef) (retries : Nat) (l : Pool.Lease) (now : Nat)
      (stage : f.stage = .waiting t ref retries) :
    p.Next f .leaseAnswered .none
      { f with stage := .sent l, context := f.context.backendStart now }
  | streams (l : Pool.Lease) (status : Http.Status) (headers : Http.Headers)
      (capture : Option Cache.Capture) (stage : f.stage = .sent l)
      (shown : captureHead? f status headers.stripHopByHop = some capture) :
    p.Next f (.headArrives status headers)
      (.streaming status (Routing.applyMutations
        (clientHeaders capture headers.stripHopByHop) f.context.decision.headers))
      { f with
        context := { f.context with status, headersSent := true }
        capture := none
        stage := .streaming l (.start f.endpoint (p.poolIdOf l) p.stuckTimeout
          (capture.filter (·.isActive))) }
  | pumps (e : Forward.Event) (l : Pool.Lease) (pump : Forward.Pump) (pe : Forward.PumpEvent)
      (context : Context) (stage : f.stage = .streaming l pump)
      (event : p.pumpEvent? l e = some pe) (resumes : f.context.Resumes context) :
    p.Next f e .none { f with context, stage := .streaming l (pump.step pe) }

/-- What comes of an event that a forward waits for, and the fate of the forward if it ends. -/
inductive Move (p : Proxy) (f : Forward) (e : Forward.Event) :
    Outcome × Proxy → Option Forward.Fate → Prop where
  | goesOn (o : Outcome) (g : Forward) (pools : Pool.Schedule)
      (endpointStats : List (Endpoint × Endpoint.Stats)) (next : p.Next f e o g) :
    p.Move f e (o, { p with pools, endpointStats }.putForward g) none
  | fails (pools : Pool.Schedule) (why : Forward.Failure)
      (about : ∀ a, why.endpoint? = some a → why.reportsUnreachable true = true →
        a = f.endpoint) :
    p.Move f e ({ p with pools }.failForward f why) (some (.failed why))
  | crashes (pools : Pool.Schedule) :
    p.Move f e ({ p with pools }.crashForward f) (some .crashed)
  | givesUp (pools : Pool.Schedule) :
    p.Move f e (.none, ({ p with pools }.dropForward f.context.id).endPending.finish f.context)
      (some .givenUp)
  | ends (l : Pool.Lease) (pump : Forward.Pump) (pe : Forward.PumpEvent) (how : Forward.Ending)
      (context : Context) (endpointStats : List (Endpoint × Endpoint.Stats))
      (stage : f.stage = .streaming l pump) (event : p.pumpEvent? l e = some pe)
      (resumes : f.context.Resumes context) (ending : (pump.step pe).ending? = some how) :
    p.Move f e (.none, { p with endpointStats }.endStream
      { f with context, stage := .streaming l (pump.step pe) } l (pump.step pe) how)
      (some (.ofEnding how))

def startFate? (p : Proxy) (r : Incoming) (e : Endpoint) : Option Forward.Fate :=
  match Forward.Outgoing.ofIncoming r e false with
  | .error why => some (.failed why)
  | .ok _ => (turnedAway? p.pools r.head.host e 1).map .ofRefusal

/-- What a request leaves behind as it is taken in, apart from what becomes of it. -/
def takeIn (p : Proxy) (mapper : Routing.Mapper) (cache : Cache.Store) : Proxy :=
  { p with mapper, cache, nextId := p.nextId + 1 }

def captureFor (p : Proxy) (connection : Connection) (r : Incoming) : Option Cache.Capture :=
  if (p.contextFor connection r).decision.action = .proxyAndCache then
    p.beginCapture (p.contextFor connection r)
  else none

structure Starts (p : Proxy) (connection : Connection) (r : Incoming) (f : Forward) : Prop where
  context : f.context = p.contextFor connection r
  target : p.startsTo? connection r = some f.endpoint
  stage : f.stage = .waiting p.pools.nextTicket default 1
  outgoing : Forward.Outgoing.ofIncoming r f.endpoint f.capture.isSome = .ok f.outgoing
  capture : f.capture = p.captureFor connection r

/-- What comes of a request that is taken in, and the fate of its forward if that ends at once. -/
inductive Arrival (p : Proxy) (connection : Connection) (r : Incoming) :
    Outcome × Proxy → Option Forward.Fate → Prop where
  | answered (mapper : Routing.Mapper) (cache : Cache.Store) (c : Context) (s : Http.Response)
      (starts : p.startsTo? connection r = none) :
    p.Arrival connection r ((p.takeIn mapper cache).answer c s) none
  | crashed (mapper : Routing.Mapper) (cache : Cache.Store) (c : Context)
      (starts : p.startsTo? connection r = none) :
    p.Arrival connection r ((p.takeIn mapper cache).crash c) none
  | untargeted (mapper : Routing.Mapper) (cache : Cache.Store) (reason : String)
      (starts : p.startsTo? connection r = none) :
    p.Arrival connection r ((p.takeIn mapper cache).fail mapper (p.contextFor connection r)
      (.invalidTarget reason)) none
  | unsendable (mapper : Routing.Mapper) (cache : Cache.Store) (e : Endpoint) (reason : String)
      (starts : p.startsTo? connection r = some e) :
    p.Arrival connection r (((p.takeIn mapper cache).begins e).endPending.fail mapper
      (p.contextFor connection r) (.invalidTarget reason))
      (some (.failed (.invalidTarget reason)))
  | forwarded (mapper : Routing.Mapper) (cache : Cache.Store) (f : Forward) (x : Outcome × Proxy)
      (fate : Option Forward.Fate) (starts : p.Starts connection r f)
      (move : ((p.takeIn mapper cache).begins f.endpoint).Move f .leaseAnswered x fate) :
    p.Arrival connection r x fate

section
variable {p : Proxy} {f : Forward} {t : Pool.Ticket} {ref : Pool.PoolRef} {retries : Nat}
  {l : Pool.Lease}

theorem resumes_refl (c : Context) : c.Resumes c := ⟨rfl, rfl, rfl, rfl⟩

theorem about_of_refusal {why : Pool.Refusal} {failure : Forward.Failure}
    (h : Forward.Failure.ofRefusal? why = some failure) :
    failure.reportsUnreachable true = false := by
  cases why with
  | exhausted | closed => cases h; rfl
  | tooManySlots => cases h

theorem move_refuse (p : Proxy) (f : Forward) (e : Forward.Event) (pools : Pool.Schedule)
    (why : Pool.Refusal) :
    p.Move f e ({ p with pools }.refuse f why) (some (.ofRefusal why)) := by
  unfold refuse Forward.Fate.ofRefusal
  cases hf : Forward.Failure.ofRefusal? why with
  | some failure =>
    refine .fails pools failure fun a _ hreports => ?_
    rw [about_of_refusal hf] at hreports
    cases hreports
  | none => exact .crashes pools

theorem move_askForLease (p : Proxy) (pools : Pool.Schedule)
    (hstage : f.stage = .waiting t ref retries) (n : Nat) :
    p.Move f .leaseAnswered ({ p with pools }.askForLease f n)
      ((turnedAway? pools f.context.head.host f.endpoint n).map .ofRefusal) := by
  induction n generalizing pools with
  | zero =>
    unfold askForLease turnedAway?
    dsimp only
    cases (pools.ask (pools.registry.resolve f.context.head.host) f.endpoint).2.answer?
        (pools.ask (pools.registry.resolve f.context.head.host) f.endpoint).1 with
    | none => exact .goesOn _ _ _ p.endpointStats (.waits t _ ref _ retries 0 hstage)
    | some answer =>
      cases answer with
      | ok l => exact .goesOn _ _ _ p.endpointStats (.leased t ref retries l _ hstage)
      | error why => exact move_refuse p f .leaseAnswered _ why
  | succ n ih =>
    unfold askForLease turnedAway?
    dsimp only
    cases (pools.ask (pools.registry.resolve f.context.head.host) f.endpoint).2.answer?
        (pools.ask (pools.registry.resolve f.context.head.host) f.endpoint).1 with
    | none => exact .goesOn _ _ _ p.endpointStats (.waits t _ ref _ retries _ hstage)
    | some answer =>
      cases answer with
      | ok l => exact .goesOn _ _ _ p.endpointStats (.leased t ref retries l _ hstage)
      | error why =>
        by_cases hretry : mayRetry (n + 1) why = true
        · simp only [if_pos hretry]
          exact ih _
        · simp only [if_neg hretry]
          exact move_refuse p f .leaseAnswered _ why

/-- An event that a forward does not wait for changes nothing. -/
def Idle (p : Proxy) (x : Outcome × Proxy) (fate : Option Forward.Fate) : Prop :=
  x = (.none, p) ∧ fate = none

theorem move_leaseAnswered (p : Proxy) (f : Forward) :
    p.Idle (p.leaseAnswered f) (p.fate? f .leaseAnswered) ∨
      p.Move f .leaseAnswered (p.leaseAnswered f) (p.fate? f .leaseAnswered) := by
  unfold leaseAnswered fate?
  cases hstage : f.stage with
  | sent l => exact .inl ⟨rfl, rfl⟩
  | streaming l pump => exact .inl ⟨rfl, rfl⟩
  | waiting t ref retries =>
    dsimp only
    cases p.pools.answer? t with
    | none => exact .inl ⟨rfl, rfl⟩
    | some answer =>
      right
      cases answer with
      | ok l => exact .goesOn _ _ p.pools p.endpointStats (.leased t ref retries l _ hstage)
      | error why =>
        dsimp only
        split
        · exact move_askForLease p p.pools hstage _
        · exact move_refuse p f .leaseAnswered p.pools why

theorem move_exchangeFails (p : Proxy) (e : Forward.Event) (hstage : f.stage = .sent l)
    {why : Forward.Failure} (about : ∀ a, why.endpoint? = some a → a = f.endpoint) :
    p.Move f e (p.exchangeFails f why) (some (.failed why)) := by
  unfold exchangeFails
  rw [hstage]
  exact .fails _ why fun a ha _ => about a ha

theorem move_headArrives (p : Proxy) (hstage : f.stage = .sent l) (status : Http.Status)
    (headers : Http.Headers) :
    p.Move f (.headArrives status headers) (p.headArrives f status headers)
      (p.fate? f (.headArrives status headers)) := by
  unfold headArrives fate?
  rw [hstage]
  dsimp only
  cases hshown : captureHead? f status headers.stripHopByHop with
  | none => exact .crashes _
  | some capture =>
    exact .goesOn _ _ p.pools p.endpointStats (.streams l status headers capture hstage hshown)

theorem resumes_touch (p : Proxy) (f : Forward) (phase : Forward.PumpPhase)
    (e : Forward.PumpEvent) : f.context.Resumes (p.touch f phase e).2 := by
  unfold Proxy.touch
  split <;> exact ⟨rfl, rfl, rfl, rfl⟩

theorem resumes_backendDone (c : Context) (now : Nat) : c.Resumes (c.backendDone now) := by
  unfold Context.backendDone
  split <;> exact ⟨rfl, rfl, rfl, rfl⟩

theorem touch_eq (p : Proxy) (f : Forward) (phase : Forward.PumpPhase) (e : Forward.PumpEvent) :
    ∃ endpointStats, (p.touch f phase e).1 = { p with endpointStats } := by
  unfold Proxy.touch
  split
  · exact ⟨_, rfl⟩
  · exact ⟨p.endpointStats, rfl⟩

theorem move_pumpEvent (p : Proxy) {pump : Forward.Pump} (hstage : f.stage = .streaming l pump)
    {e : Forward.Event} {pe : Forward.PumpEvent} (he : p.pumpEvent? l e = some pe) :
    p.Move f e (p.pumpEvent f pe) ((pump.step pe).ending?.map .ofEnding) := by
  obtain ⟨stats, hstats⟩ := touch_eq p f pump.phase pe
  have hresumes : f.context.Resumes (if (pump.step pe).isListening
      then (p.touch f pump.phase pe).2
      else (p.touch f pump.phase pe).2.backendDone (p.touch f pump.phase pe).1.pools.nowMs) := by
    obtain ⟨hid, hconnection, hhead, hdecision⟩ := resumes_touch p f pump.phase pe
    split
    · exact ⟨hid, hconnection, hhead, hdecision⟩
    · obtain ⟨hid', hconnection', hhead', hdecision'⟩ :=
        resumes_backendDone (p.touch f pump.phase pe).2 (p.touch f pump.phase pe).1.pools.nowMs
      exact ⟨hid'.trans hid, hconnection'.trans hconnection, hhead'.trans hhead,
        hdecision'.trans hdecision⟩
  unfold pumpEvent
  rw [hstage]
  dsimp only
  generalize (if (pump.step pe).isListening then (p.touch f pump.phase pe).2
    else (p.touch f pump.phase pe).2.backendDone (p.touch f pump.phase pe).1.pools.nowMs) =
      context at hresumes
  rw [hstats]
  cases hending : (pump.step pe).ending? with
  | some how => exact .ends l pump pe how context stats hstage he hresumes hending
  | none => exact .goesOn _ _ p.pools stats (.pumps e l pump pe context hstage he hresumes)

theorem move_onForward (p : Proxy) (f : Forward) (e : Forward.Event) :
    p.Idle (p.onForward f e) (p.fate? f e) ∨ p.Move f e (p.onForward f e) (p.fate? f e) := by
  cases hstage : f.stage with
  | streaming l pump =>
    have hfate : p.fate? f e =
        (p.pumpEvent? l e).bind fun pe => (pump.step pe).ending?.map .ofEnding := by
      unfold fate?
      rw [hstage]
    rw [onForward_streaming hstage, hfate]
    cases he : p.pumpEvent? l e with
    | none => exact .inl ⟨rfl, rfl⟩
    | some pe => exact .inr (move_pumpEvent p hstage he)
  | waiting t ref retries =>
    cases e with
    | leaseAnswered => exact move_leaseAnswered p f
    | clientLeaves =>
      right
      simp only [onForward, clientLeaves, fate?, hstage]
      exact .givesUp _
    | connectFails | exchangeFails | headArrives | silence | cutOff | body | clientReads | noRoom =>
      simp [Idle, onForward, exchangeFails, headArrives, silence, cutOff, pumpEvent, fate?, hstage]
  | sent l =>
    cases e with
    | leaseAnswered => exact move_leaseAnswered p f
    | headArrives status headers => exact .inr (move_headArrives p hstage status headers)
    | clientLeaves =>
      right
      simp only [onForward, clientLeaves, fate?, hstage]
      exact .givesUp _
    | connectFails | exchangeFails =>
      right
      simp only [onForward, fate?, hstage]
      exact move_exchangeFails p _ hstage fun a ha => (Option.some.inj ha).symm
    | silence =>
      right
      simp only [onForward, silence, fate?, hstage]
      exact move_exchangeFails p _ hstage fun a ha => (Option.some.inj ha).symm
    | cutOff =>
      simp only [onForward, cutOff, fate?, hstage]
      split
      · exact .inr (move_exchangeFails p _ hstage fun a ha => by cases ha)
      · exact .inl ⟨rfl, rfl⟩
    | body | clientReads | noRoom => simp [Idle, onForward, pumpEvent, fate?, hstage]

theorem Next.place {e : Forward.Event} {o : Outcome} {g : Forward} (h : p.Next f e o g) :
    g.place = f.place := by
  cases h with
  | waits => rfl
  | leased => rfl
  | streams => rfl
  | pumps _ l pump pe context stage event resumes =>
    exact congrArg (·, f.endpoint) resumes.id

theorem forwards_fail (p : Proxy) (m : Routing.Mapper) (c : Context) (why : Forward.Failure) :
    (p.fail m c why).2.forwards = p.forwards := (quiet_noteFailure p c.id why).1.forwards

theorem forwards_endStream (p : Proxy) (f : Forward) (l : Pool.Lease) (pump : Forward.Pump)
    (how : Forward.Ending) : (p.endStream f l pump how).forwards = p.others f.context.id := by
  cases how with
  | complete => exact (quiet_commit p pump.capture).1.others f.context.id
  | failed why => exact (quiet_noteFailure p f.context.id why).1.others f.context.id

theorem Move.forwards {e : Forward.Event} {x : Outcome × Proxy} {fate : Option Forward.Fate}
    (h : p.Move f e x fate) :
    (fate = none ∧ ∃ g, p.Next f e x.1 g ∧ x.2.forwards = p.others f.context.id ++ [g]) ∨
      ((∃ how, fate = some how) ∧ x.2.forwards = p.others f.context.id) := by
  cases h with
  | goesOn o g pools endpointStats next =>
    refine .inl ⟨rfl, g, next, ?_⟩
    have hid : g.context.id = f.context.id := congrArg Prod.fst next.place
    change p.forwards.filter (·.context.id != g.context.id) ++ [g] = _
    rw [hid]
    rfl
  | fails pools why about => exact .inr ⟨⟨_, rfl⟩, forwards_fail _ f.mappedBy f.context why⟩
  | crashes pools => exact .inr ⟨⟨_, rfl⟩, rfl⟩
  | givesUp pools => exact .inr ⟨⟨_, rfl⟩, rfl⟩
  | ends l pump pe how context endpointStats stage event resumes ending =>
    refine .inr ⟨⟨_, rfl⟩, ?_⟩
    have hends := forwards_endStream { p with endpointStats }
      { f with context, stage := .streaming l (pump.step pe) } l (pump.step pe) how
    rw [hends, ← resumes.id]
    rfl

theorem startForward_eq (p : Proxy) (m : Routing.Mapper) {c : Context} {e : Endpoint}
    (h : c.decision.target = some e) (body : Bytes) (mayCapture : Bool) :
    p.startForward m c body mayCapture =
      let capture := if mayCapture then (p.begins e).beginCapture c else none
      match Forward.Outgoing.ofIncoming ⟨c.head, body⟩ e capture.isSome with
      | .error why => (p.begins e).endPending.fail m c why
      | .ok outgoing => (p.begins e).askForLease
          ⟨c, m, outgoing, e, capture, .waiting p.pools.nextTicket default 1⟩ 1 := by
  unfold startForward
  rw [h]
  rfl

theorem beginCapture_takeIn (p : Proxy) (mapper : Routing.Mapper) {cache : Cache.Store}
    (hpolicy : cache.policy = p.cache.policy) (e : Endpoint) (c : Context) :
    ((p.takeIn mapper cache).begins e).beginCapture c = p.beginCapture c := by
  change cache.beginCapture _ _ p.nowMs = p.cache.beginCapture _ _ p.nowMs
  unfold Cache.Store.beginCapture
  rw [hpolicy]

theorem Starts.captures {connection : Connection} {r : Incoming} (h : p.Starts connection r f)
    {k : Cache.Capture} (hk : f.capture = some k) :
    k.key = .ofRequest r.head.method r.head.uri r.head.headers connection.isSecure ∧
      k.state = .awaitingHead ∧ p.cache.policy.enabled = true := by
  rw [h.capture] at hk
  unfold captureFor at hk
  split at hk
  · exact ⟨congrArg Cache.Capture.key (Cache.Capture.beginCapture_eq hk),
      Cache.Capture.beginCapture_state hk, Cache.Capture.beginCapture_enabled hk⟩
  · cases hk

theorem arrival_startForward {connection : Connection} {r : Incoming} (p : Proxy)
    (mapper : Routing.Mapper) {cache : Cache.Store} (hpolicy : cache.policy = p.cache.policy)
    (mayCapture : Bool)
    (hstarts : p.startsTo? connection r = (p.contextFor connection r).decision.target)
    (hmay : mayCapture = true ↔ (p.contextFor connection r).decision.action = .proxyAndCache) :
    p.Arrival connection r
      ((p.takeIn mapper cache).startForward mapper (p.contextFor connection r) r.body mayCapture)
      ((p.startsTo? connection r).bind (p.startFate? r)) := by
  cases htarget : (p.contextFor connection r).decision.target with
  | none =>
    rw [htarget] at hstarts
    unfold startForward
    rw [htarget, hstarts]
    exact .untargeted mapper cache _ hstarts
  | some e =>
    rw [htarget] at hstarts
    rw [hstarts, Option.bind_some, startForward_eq _ mapper htarget]
    unfold startFate?
    have hfor : (if mayCapture then ((p.takeIn mapper cache).begins e).beginCapture
        (p.contextFor connection r) else none) = p.captureFor connection r := by
      unfold captureFor
      rw [beginCapture_takeIn p mapper hpolicy]
      simp only [hmay]
    rw [hfor]
    dsimp only
    have hhead : (⟨(p.contextFor connection r).head, r.body⟩ : Incoming) = r := rfl
    rw [hhead]
    cases hout : Forward.Outgoing.ofIncoming r e (p.captureFor connection r).isSome with
    | error why =>
      obtain ⟨hsame, reason, rfl⟩ := Forward.Outgoing.ofIncoming_error hout false
      rw [hsame]
      exact .unsendable mapper cache e reason hstarts
    | ok outgoing =>
      cases hplain : Forward.Outgoing.ofIncoming r e false with
      | error why =>
        rw [(Forward.Outgoing.ofIncoming_error hplain _).1] at hout
        cases hout
      | ok plain =>
        let f : Forward := ⟨p.contextFor connection r, mapper, outgoing, e,
          p.captureFor connection r, .waiting p.pools.nextTicket default 1⟩
        have hf : p.Starts connection r f := ⟨rfl, hstarts, rfl, hout, rfl⟩
        exact .forwarded mapper cache f _ _ hf
          (move_askForLease ((p.takeIn mapper cache).begins e) p.pools rfl 1)

theorem arrival_receive (p : Proxy) (connection : Connection) (r : Incoming) :
    p.Arrival connection r (p.receive connection r)
      ((p.startsTo? connection r).bind (p.startFate? r)) := by
  let mapper := (p.decide (r.head.view connection.isSecure)).2.mapper
  have hreceive : p.receive connection r =
      (p.takeIn mapper p.cache).act mapper (p.contextFor connection r) r.body := rfl
  have hplain (hproxy : (p.contextFor connection r).decision.action.isProxy = false)
      (s : Http.Response) : p.Arrival connection r
        ((p.takeIn mapper p.cache).answer (p.contextFor connection r) s)
        ((p.startsTo? connection r).bind (p.startFate? r)) := by
    have hstarts : p.startsTo? connection r = none := by
      refine if_neg fun hcan => ?_
      rcases hcan with heq | ⟨heq, _⟩ <;> rw [heq] at hproxy <;> cases hproxy
    rw [hstarts]
    exact .answered mapper p.cache _ s hstarts
  by_cases hcaches : (p.contextFor connection r).decision.action = .proxyAndCache
  · obtain ⟨cache, hpolicy, ⟨hnone, hstart⟩ | ⟨e, he, hserve⟩⟩ := p.receive_of_caches hcaches
    · rw [hstart]
      exact arrival_startForward p mapper hpolicy true (if_pos (.inr ⟨hcaches, hnone⟩))
        (iff_of_true rfl hcaches)
    · have hstarts := startsTo?_of_hit he
      rw [hserve, hstarts]
      unfold serveEntry
      dsimp only
      split
      · exact .answered mapper cache _ _ hstarts
      · exact .crashed mapper cache _ hstarts
  · rw [hreceive]
    unfold act
    cases haction : (p.contextFor connection r).decision.action with
    | notFound | internalError | static | acmeChallenge | redirect =>
      exact hplain (by rw [haction]; rfl) _
    | proxy =>
      exact arrival_startForward p mapper rfl false (if_pos (.inl haction)) (by simp [haction])
    | proxyAndCache => exact absurd haction hcaches

theorem Arrival.mem_forwards {connection : Connection} {r : Incoming} {x : Outcome × Proxy}
    {fate : Option Forward.Fate} (h : p.Arrival connection r x fate) {g : Forward}
    (hg : g ∈ x.2.forwards) :
    g ∈ p.forwards ∨ ∃ f q, p.Starts connection r f ∧ Next q f .leaseAnswered x.1 g := by
  cases h with
  | answered mapper cache c s starts => exact .inl hg
  | crashed mapper cache c starts => exact .inl hg
  | untargeted mapper cache reason starts =>
    rw [forwards_fail] at hg
    exact .inl hg
  | unsendable mapper cache e reason starts =>
    rw [forwards_fail] at hg
    exact .inl hg
  | forwarded mapper cache f x fate starts move =>
    have hothers (hmem : g ∈ ((p.takeIn mapper cache).begins f.endpoint).others f.context.id) :
        g ∈ p.forwards := (mem_others.1 hmem).1
    rcases move.forwards with ⟨_, g', hnext, hforwards⟩ | ⟨_, hforwards⟩ <;>
      rw [hforwards] at hg
    · rcases List.mem_append.1 hg with hg | hg
      · exact .inl (hothers hg)
      · rw [List.mem_singleton.1 hg]
        exact .inr ⟨f, _, starts, hnext⟩
    · exact .inl (hothers hg)

theorem Held.change_of_forward? (hp : p.Held) {id : Nat} (hf : p.forward? id = some f)
    (e : Forward.Event) : f ∈ p.forwards ∧ f.context.id = id ∧
      p.change (.event (.forward id e)) = p.onForward f e := by
  obtain ⟨hmem, hid⟩ := hp.forward?_iff.1 hf
  refine ⟨hmem, hid, ?_⟩
  rw [change_forward, hf]

theorem Held.mem_forwards_change (hp : p.Held) (c : Change) {g : Forward}
    (hg : g ∈ (p.change c).2.forwards) :
    (g ∈ p.forwards ∧ ∀ e, c = .event (.forward g.context.id e) → p.change c = (.none, p)) ∨
    (∃ f e, f ∈ p.forwards ∧ c = .event (.forward f.context.id e) ∧
      p.Next f e (p.change c).1 g) ∨
    ∃ connection r f q, c = .event (.request connection r) ∧ p.Starts connection r f ∧
      Next q f .leaseAnswered (p.change c).1 g := by
  have hplain (hsame : (p.change c).2.forwards = p.forwards)
      (hother : ∀ id e, c ≠ .event (.forward id e)) :
      g ∈ p.forwards ∧ ∀ e, c = .event (.forward g.context.id e) → p.change c = (.none, p) :=
    ⟨hsame ▸ hg, fun e he => absurd he (hother _ e)⟩
  cases c with
  | mapper | cache | reload | forgo | dispose => exact .inl (hplain rfl (by simp))
  | event event =>
    cases event with
    | timePasses | clockSet | sweep => exact .inl (hplain rfl (by simp))
    | request connection r =>
      rcases (arrival_receive p connection r).mem_forwards hg with hg | ⟨f, q, hstarts, hnext⟩
      · exact .inl ⟨hg, by simp⟩
      · exact .inr (.inr ⟨connection, r, f, q, rfl, hstarts, hnext⟩)
    | forward id e =>
      cases hf : p.forward? id with
      | none =>
        have hsame : p.change (.event (.forward id e)) = (.none, p) := by
          rw [change_forward, hf]
        rw [hsame] at hg
        exact .inl ⟨hg, fun _ _ => hsame⟩
      | some f =>
        obtain ⟨hmem, rfl, hchange⟩ := hp.change_of_forward? hf e
        rw [hchange] at hg ⊢
        rcases p.move_onForward f e with ⟨hidle, _⟩ | hmove
        · rw [hidle] at hg
          exact .inl ⟨hg, fun _ _ => hidle⟩
        · have hothers (hmem : g ∈ p.others f.context.id) : g ∈ p.forwards ∧
              ∀ e', Change.event (.forward f.context.id e) = .event (.forward g.context.id e') →
                p.onForward f e = (.none, p) := by
            obtain ⟨hg, hne⟩ := mem_others.1 hmem
            exact ⟨hg, fun _ he => absurd (Event.forward.inj (Change.event.inj he)).1.symm hne⟩
          rcases hmove.forwards with ⟨_, g', hnext, hforwards⟩ | ⟨_, hforwards⟩ <;>
            rw [hforwards] at hg
          · rcases List.mem_append.1 hg with hg | hg
            · exact .inl (hothers hg)
            · rw [List.mem_singleton.1 hg]
              exact .inr (.inl ⟨f, e, hmem, rfl, hnext⟩)
          · exact .inl (hothers hg)

end

end Proxy
end ReverseProxy
