import ReverseProxy.Proofs.Proxy.Moves
import ReverseProxy.Proofs.Routing.Mutations

set_option autoImplicit false

/-!
# Decisions without changes to headers

A proxy whose decisions ask for no changes to headers does the same as one whose decisions do, and
stores the same; its responses are those of the other one before the changes are made. So the
changes that a decision asks for are made once, last, and seen by nobody but its own client.
-/
namespace ReverseProxy
open Request

namespace Routing

def Decision.bare (d : Decision) : Decision := { d with headers := [] }

def Route.bare (r : Route) : Route := { r with headers := [] }

def Rules.bare : Rules → Rules
  | .table routes => .table (routes.map Route.bare)
  | .fixed group => .fixed group
  | .constant d => .constant (d.map Decision.bare)

def Mapper.bare (m : Mapper) : Mapper := { m with rules := m.rules.bare }

namespace Mapper
variable (m : Mapper)

theorem bare_take (name : String) (available : Endpoint → Bool) :
    m.bare.take name available = ((m.take name available).1, (m.take name available).2.bare) := by
  have hgroups : m.bare.groups = m.groups := rfl
  unfold take
  rw [hgroups]
  cases m.groups.find? name <;> rfl

theorem bare_decide (r : Route) (available : Endpoint → Bool) : m.bare.decide r.bare available =
    ((m.decide r available).1.bare, (m.decide r available).2.bare) := by
  have haction : r.bare.action = r.action := rfl
  have hgroup : r.bare.group = r.group := rfl
  unfold decide
  rw [haction]
  cases r.action with
  | proxy | proxyAndCache =>
    dsimp only
    rw [hgroup]
    cases r.group with
    | none => rfl
    | some name =>
      dsimp only
      rw [bare_take]
      obtain ⟨e, m'⟩ := m.take name available
      cases e <;> rfl
  | static | redirect | notFound | internalError => rfl

theorem bare_map (view : RequestView) (available : Endpoint → Bool) : m.bare.map view available =
    ((m.map view available).1.map Decision.bare, (m.map view available).2.bare) := by
  have hrules : m.bare.rules = m.rules.bare := rfl
  unfold Mapper.map
  rw [hrules]
  cases m.rules with
  | constant d => rfl
  | fixed name =>
    dsimp only [Rules.bare]
    rw [bare_take]
    obtain ⟨e, m'⟩ := m.take name available
    cases e <;> rfl
  | table routes =>
    have hfind : (routes.map Route.bare).find? (·.matchesRequest view) =
        (routes.find? (·.matchesRequest view)).map Route.bare := List.find?_map
    dsimp only [Rules.bare]
    cases acmeResource? view.path with
    | some resource => rfl
    | none =>
      dsimp only
      rw [hfind]
      cases routes.find? (·.matchesRequest view) with
      | none => rfl
      | some r =>
        dsimp only [Option.map_some]
        rw [bare_decide]

theorem bare_route? (id : String) : m.bare.route? id = (m.route? id).map Route.bare := by
  have hrules : m.bare.rules = m.rules.bare := rfl
  unfold route?
  rw [hrules]
  cases m.rules with
  | table routes => exact List.find?_map
  | fixed | constant => rfl

theorem bare_notFoundPage (id : String) : m.bare.notFoundPage id = m.notFoundPage id := by
  unfold notFoundPage
  rw [bare_route?]
  cases m.route? id <;> rfl

theorem bare_internalErrorPage (id : String) :
    m.bare.internalErrorPage id = m.internalErrorPage id := by
  unfold internalErrorPage
  rw [bare_route?]
  cases m.route? id <;> rfl

end Mapper
end Routing

namespace Request.Context
variable (c : Context) (now : Nat)

def bare : Context := { c with decision := c.decision.bare }

theorem bare_backendDone : (c.backendDone now).bare = c.bare.backendDone now := by
  have hstarted : c.bare.backendStarted = c.backendStarted := rfl
  unfold backendDone
  rw [hstarted]
  cases c.backendStarted <;> rfl

theorem bare_record : c.bare.record now = c.record now := rfl

theorem bare_finish : c.bare.finish now = c.finish now := by
  have hdone (c : Context) :
      (c.bare.backendDone now).record now = (c.backendDone now).record now := by
    rw [← bare_backendDone, bare_record]
  have hsent : c.bare.headersSent = c.headersSent := rfl
  unfold finish
  rw [hsent]
  dsimp only
  split
  · exact hdone c
  · exact hdone { c with status := Forward.clientClosedRequest }

end Request.Context

namespace Reply
variable (pages : Pages) (m : Routing.Mapper) (c : Context)

theorem bare_page (spec : Option Routing.PageSpec) (fallback : Http.Status) :
    page pages c.bare spec fallback = page pages c spec fallback := rfl

theorem bare_notFound : notFound pages m.bare c.bare = notFound pages m c := by
  have hpage : m.bare.notFoundPage c.bare.decision.routeId =
      m.notFoundPage c.decision.routeId := m.bare_notFoundPage _
  unfold notFound
  rw [hpage, bare_page]
  rfl

theorem bare_internalError : internalError pages m.bare c.bare = internalError pages m c := by
  have hpage : m.bare.internalErrorPage c.bare.decision.routeId =
      m.internalErrorPage c.decision.routeId := m.bare_internalErrorPage _
  unfold internalError
  rw [hpage, bare_page]
  rfl

theorem bare_redirect : redirect pages m.bare c.bare = redirect pages m c := by
  unfold redirect
  rw [bare_internalError]
  rfl

theorem bare_failure (status : Http.Status) :
    failure pages m.bare c.bare status = failure pages m c status := by
  unfold failure
  rw [bare_internalError]
  rfl

end Reply

def Forward.bare (f : Forward) : Forward :=
  { f with context := f.context.bare, mappedBy := f.mappedBy.bare }

def Outcome.changed (ms : List Routing.Mutation) : Outcome → Outcome
  | .response r => .response { r with headers := Routing.applyMutations r.headers ms }
  | .streaming status headers => .streaming status (Routing.applyMutations headers ms)
  | o => o

def Outcome.headers? : Outcome → Option Http.Headers
  | .response r => some r.headers
  | .streaming _ headers => some headers
  | .none | .crashed => Option.none

theorem Outcome.changed_nil (o : Outcome) : o.changed [] = o := by
  cases o <;> rfl

theorem Outcome.headers?_changed (o : Outcome) (ms : List Routing.Mutation) :
    (o.changed ms).headers? = o.headers?.map (Routing.applyMutations · ms) := by
  cases o <;> rfl

def Proxy.bare (p : Proxy) : Proxy :=
  { p with mapper := p.mapper.bare, forwards := p.forwards.map Forward.bare }

/-- Something comes out as `y` in a bare proxy and as `x` in one whose decision asks for changes. -/
structure Mirrors (ms : List Routing.Mutation) (x y : Outcome × Proxy) : Prop where
  outcome : x.1 = y.1.changed ms
  proxy : x.2.bare = y.2

namespace Proxy

section
variable (p : Proxy) (f : Forward) (c : Context)

theorem bare_dropForward (id : Nat) : (p.dropForward id).bare = p.bare.dropForward id := by
  unfold dropForward bare
  dsimp only
  rw [List.filter_map]
  rfl

theorem bare_putForward : (p.putForward f).bare = p.bare.putForward f.bare := by
  unfold putForward bare
  dsimp only
  rw [List.map_append, List.filter_map]
  rfl

theorem bare_forward? (id : Nat) : p.bare.forward? id = (p.forward? id).map Forward.bare :=
  List.find?_map

theorem bare_finish : (p.finish c).bare = p.bare.finish c.bare := by
  have hrecord : c.bare.finish p.pools.nowMs = c.finish p.pools.nowMs := c.bare_finish _
  have hclock : p.bare.pools = p.pools := rfl
  unfold finish
  rw [hclock, hrecord]
  rfl

theorem bare_noteFailure (id : Nat) (why : Forward.Failure) :
    (p.noteFailure id why).bare = p.bare.noteFailure id why := by
  unfold noteFailure
  cases why with
  | stuck e after =>
    dsimp only [Forward.Failure.endpoint?]
    rw [apply_ite bare]
    rfl
  | connect | exchange | poolExhausted => rfl
  | clientGone | poolClosed | invalidTarget => rfl

theorem mirrors_answer (r : Http.Response) :
    Mirrors c.decision.headers (p.answer c r) (p.bare.answer c.bare r) :=
  ⟨rfl, bare_finish p _⟩

theorem mirrors_crash (ms : List Routing.Mutation) :
    Mirrors ms (p.crash c) (p.bare.crash c.bare) := ⟨rfl, bare_finish p c⟩

theorem mirrors_fail (m : Routing.Mapper) (why : Forward.Failure) :
    Mirrors c.decision.headers (p.fail m c why) (p.bare.fail m.bare c.bare why) := by
  have hreply : Reply.failure p.bare.pages m.bare c.bare why.status =
      Reply.failure p.pages m c why.status := Reply.bare_failure _ m c _
  have h := mirrors_answer (p.noteFailure c.id why) c (Reply.failure p.pages m c why.status)
  rw [bare_noteFailure] at h
  unfold fail
  rw [hreply]
  exact h

theorem bare_dropPending (id : Nat) :
    (p.dropForward id).endPending.bare = (p.bare.dropForward id).endPending := by
  rw [← bare_dropForward]
  rfl

theorem mirrors_failForward (why : Forward.Failure) :
    Mirrors f.context.decision.headers (p.failForward f why) (p.bare.failForward f.bare why) := by
  have h := mirrors_fail (p.dropForward f.context.id).endPending f.context f.mappedBy why
  rw [bare_dropPending] at h
  exact h

theorem mirrors_crashForward (ms : List Routing.Mutation) :
    Mirrors ms (p.crashForward f) (p.bare.crashForward f.bare) := by
  have h := mirrors_crash (p.dropForward f.context.id).endPending f.context ms
  rw [bare_dropPending] at h
  exact h

theorem mirrors_refuse (why : Pool.Refusal) :
    Mirrors f.context.decision.headers (p.refuse f why) (p.bare.refuse f.bare why) := by
  unfold refuse
  split
  · exact mirrors_failForward p f _
  · exact mirrors_crashForward p f _

theorem mirrors_silent {q r : Proxy} (ms : List Routing.Mutation) (h : q.bare = r) :
    Mirrors ms (.none, q) (.none, r) := ⟨rfl, h⟩

theorem mirrors_askForLease (retries : Nat) :
    Mirrors f.context.decision.headers (p.askForLease f retries)
      (p.bare.askForLease f.bare retries) := by
  have hpools (p : Proxy) : p.bare.pools = p.pools := rfl
  have hhead : f.bare.context.head = f.context.head := rfl
  have hendpoint : f.bare.endpoint = f.endpoint := rfl
  induction retries generalizing p with
  | zero =>
    unfold Proxy.askForLease
    rw [hpools, hhead, hendpoint]
    dsimp only
    split
    · exact mirrors_silent _ (bare_putForward _ _)
    · exact mirrors_refuse { p with pools := _ } f _
    · exact mirrors_silent _ (bare_putForward _ _)
  | succ n ih =>
    unfold Proxy.askForLease
    rw [hpools, hhead, hendpoint]
    dsimp only
    split
    · exact mirrors_silent _ (bare_putForward _ _)
    · split
      · exact ih { p with pools := _ }
      · exact mirrors_refuse { p with pools := _ } f _
    · exact mirrors_silent _ (bare_putForward _ _)

theorem mirrors_leaseAnswered :
    Mirrors f.context.decision.headers (p.leaseAnswered f) (p.bare.leaseAnswered f.bare) := by
  have hpools : p.bare.pools = p.pools := rfl
  have hstage : f.bare.stage = f.stage := rfl
  unfold leaseAnswered
  rw [hpools, hstage]
  split
  · split
    · exact mirrors_silent _ (bare_putForward _ _)
    · split
      · exact mirrors_askForLease p f _
      · exact mirrors_refuse p f _
    · exact mirrors_silent _ rfl
  · exact mirrors_silent _ rfl

theorem mirrors_startForward (m : Routing.Mapper) (body : Bytes) (mayCapture : Bool) :
    Mirrors c.decision.headers (p.startForward m c body mayCapture)
      (p.bare.startForward m.bare c.bare body mayCapture) := by
  have htarget : c.bare.decision.target = c.decision.target := rfl
  cases ht : c.decision.target with
  | none =>
    unfold startForward
    rw [htarget, ht]
    exact mirrors_fail p c m _
  | some e =>
    have hcapture : (p.bare.begins e).beginCapture c.bare = (p.begins e).beginCapture c := rfl
    have hhead : c.bare.head = c.head := rfl
    rw [p.startForward_eq m ht, p.bare.startForward_eq m.bare (htarget.trans ht), hcapture, hhead]
    dsimp only
    split
    · exact mirrors_fail (p.begins e).endPending c m _
    · exact mirrors_askForLease (p.begins e) ⟨c, m, _, e, _, _⟩ 1

theorem mirrors_exchangeFails (why : Forward.Failure) :
    Mirrors f.context.decision.headers (p.exchangeFails f why)
      (p.bare.exchangeFails f.bare why) := by
  have hstage : f.bare.stage = f.stage := rfl
  unfold exchangeFails
  rw [hstage]
  split
  · exact mirrors_failForward _ f why
  · exact mirrors_silent _ rfl

theorem mirrors_headArrives (status : Http.Status) (headers : Http.Headers) :
    Mirrors f.context.decision.headers (p.headArrives f status headers)
      (p.bare.headArrives f.bare status headers) := by
  have hstage : f.bare.stage = f.stage := rfl
  have hcapture (h : Http.Headers) : captureHead? f.bare status h = captureHead? f status h := rfl
  unfold headArrives
  rw [hstage]
  split
  · dsimp only
    rw [hcapture]
    split
    · exact mirrors_crashForward _ f _
    · exact ⟨rfl, bare_putForward _ _⟩
  · exact mirrors_silent _ rfl

theorem bare_commit (capture : Option Cache.Capture) :
    (p.commit capture).bare = p.bare.commit capture := by
  unfold Proxy.commit
  split
  · rw [apply_ite bare]
    rfl
  · rfl

theorem bare_endStream (l : Pool.Lease) (pump : Forward.Pump) (how : Forward.Ending) :
    (p.endStream f l pump how).bare = p.bare.endStream f.bare l pump how := by
  have hclose (q : Proxy) :
      (((q.releaseLease l).dropForward f.context.id).endPending.finish f.context).bare =
        ((q.bare.releaseLease l).dropForward f.context.id).endPending.finish f.context.bare := by
    rw [bare_finish, bare_dropPending]
    rfl
  unfold endStream
  cases how with
  | complete =>
    refine (hclose _).trans ?_
    dsimp only
    rw [← bare_commit]
    rfl
  | failed why =>
    refine (hclose _).trans ?_
    dsimp only
    rw [bare_noteFailure]
    rfl

theorem bare_touch (phase : Forward.PumpPhase) (e : Forward.PumpEvent) :
    p.bare.touch f.bare phase e = ((p.touch f phase e).1.bare, (p.touch f phase e).2.bare) := by
  unfold touch
  split <;> rfl

theorem mirrors_pumpEvent (ms : List Routing.Mutation) (e : Forward.PumpEvent) :
    Mirrors ms (p.pumpEvent f e) (p.bare.pumpEvent f.bare e) := by
  have hstage : f.bare.stage = f.stage := rfl
  unfold pumpEvent
  rw [hstage]
  split
  · next l pump _ =>
    dsimp only
    rw [bare_touch]
    obtain ⟨q, context⟩ := p.touch f pump.phase e
    dsimp only
    have hcontext : (if (pump.step e).isListening then context.bare
        else context.bare.backendDone q.bare.pools.nowMs) =
        (if (pump.step e).isListening then context
          else context.backendDone q.pools.nowMs).bare := by
      rw [apply_ite Context.bare, Context.bare_backendDone]
      rfl
    rw [hcontext]
    split
    · exact mirrors_silent _ (bare_endStream _ _ _ _ _)
    · exact mirrors_silent _ (bare_putForward _ _)
  · exact mirrors_silent _ rfl

theorem mirrors_clientLeaves (ms : List Routing.Mutation) :
    Mirrors ms (p.clientLeaves f) (p.bare.clientLeaves f.bare) := by
  have hstage : f.bare.stage = f.stage := rfl
  unfold clientLeaves
  rw [hstage]
  split
  · refine mirrors_silent _ ?_
    rw [bare_finish, bare_dropPending]
    rfl
  · refine mirrors_silent _ ?_
    rw [bare_finish, bare_dropPending]
    rfl
  · exact mirrors_pumpEvent p f ms _

theorem mirrors_onForward (e : Forward.Event) :
    Mirrors f.context.decision.headers (p.onForward f e) (p.bare.onForward f.bare e) := by
  have hstage : f.bare.stage = f.stage := rfl
  have hcutOff (l : Pool.Lease) : p.bare.pools.isCutOff l = p.pools.isCutOff l := rfl
  cases e with
  | leaseAnswered => exact mirrors_leaseAnswered p f
  | connectFails | exchangeFails => exact mirrors_exchangeFails p f _
  | headArrives status headers => exact mirrors_headArrives p f status headers
  | body | clientReads | noRoom => exact mirrors_pumpEvent p f _ _
  | clientLeaves => exact mirrors_clientLeaves p f _
  | silence =>
    change Mirrors _ (p.silence f) (p.bare.silence f.bare)
    unfold silence
    rw [hstage]
    split
    · exact mirrors_exchangeFails p f _
    · exact mirrors_pumpEvent p f _ _
  | cutOff =>
    change Mirrors _ (p.cutOff f) (p.bare.cutOff f.bare)
    unfold cutOff
    rw [hstage]
    split
    · rw [hcutOff]
      split
      · exact mirrors_exchangeFails p f _
      · exact mirrors_silent _ rfl
    · rw [hcutOff]
      split
      · exact mirrors_pumpEvent p f _ _
      · exact mirrors_silent _ rfl
    · exact mirrors_silent _ rfl

theorem mirrors_serveEntry (e : Cache.Entry) :
    Mirrors c.decision.headers (p.serveEntry c e) (p.bare.serveEntry c.bare e) := by
  have hhead : c.bare.head = c.head := rfl
  unfold serveEntry
  dsimp only
  rw [hhead]
  split
  · exact mirrors_answer p { c with fromCache := true } _
  · exact mirrors_crash p { c with fromCache := false } _

theorem mirrors_act (m : Routing.Mapper) (body : Bytes) :
    Mirrors c.decision.headers (p.act m c body) (p.bare.act m.bare c.bare body) := by
  have haction : c.bare.decision.action = c.decision.action := rfl
  have hreply {s s' : Http.Response} (h : s' = s) :
      Mirrors c.decision.headers (p.answer c s) (p.bare.answer c.bare s') :=
    h ▸ mirrors_answer p c s
  unfold act
  rw [haction]
  split
  · exact hreply (Reply.bare_notFound p.pages m c)
  · exact hreply (Reply.bare_internalError p.pages m c)
  · exact hreply rfl
  · exact hreply rfl
  · exact hreply (Reply.bare_redirect p.pages m c)
  · exact mirrors_startForward p c m body false
  · have hcache : p.bare.cache = p.cache := rfl
    have hnow : p.bare.nowMs = p.nowMs := rfl
    have hhead : c.bare.head = c.head := rfl
    have hsecure : c.bare.isSecure = c.isSecure := rfl
    unfold proxyAndCache
    dsimp only
    rw [hcache, hnow, hhead, hsecure]
    split
    · exact mirrors_startForward p c m body true
    · split
      · exact mirrors_serveEntry { p with cache := _ } c _
      · exact mirrors_startForward { p with cache := _ } c m body true

theorem mirrors_receive (connection : Connection) (r : Incoming) :
    Mirrors (p.contextFor connection r).decision.headers (p.receive connection r)
      (p.bare.receive connection r) := by
  let view := r.head.view connection.isSecure
  have hdecide : p.bare.decide view = ((p.decide view).1.bare, (p.decide view).2.bare) := by
    have hmapper : p.bare.mapper = p.mapper.bare := rfl
    have havailable : (fun e => p.bare.health.isAvailable e p.bare.nowMs) =
        fun e => p.health.isAvailable e p.nowMs := rfl
    unfold decide
    rw [hmapper, havailable, Routing.Mapper.bare_map]
    obtain ⟨d, mapper⟩ := p.mapper.map view fun e => p.health.isAvailable e p.nowMs
    cases d <;> rfl
  unfold receive
  rw [hdecide]
  exact mirrors_act { (p.decide view).2 with nextId := p.nextId + 1 } (p.contextFor connection r)
    (p.decide view).2.mapper r.body

def mutations (p : Proxy) : Change → List Routing.Mutation
  | .event (.request connection r) => (p.contextFor connection r).decision.headers
  | .event (.forward id _) => ((p.forward? id).map (·.context.decision.headers)).getD []
  | _ => []

def Change.bare : Change → Change
  | .mapper m => .mapper m.bare
  | c => c

theorem mirrors_change (change : Change) :
    Mirrors (p.mutations change) (p.change change) (p.bare.change change.bare) := by
  cases change with
  | event e =>
    cases e with
    | request connection r => exact mirrors_receive p connection r
    | forward id e =>
      change Mirrors (((p.forward? id).map (·.context.decision.headers)).getD []) _
        (p.bare.change (.event (.forward id e)))
      rw [change_forward, change_forward, bare_forward?]
      cases p.forward? id with
      | none => exact mirrors_silent _ rfl
      | some f => exact mirrors_onForward p f e
    | timePasses | clockSet | sweep => exact mirrors_silent _ rfl
  | mapper | cache | reload | forgo | dispose => exact mirrors_silent _ rfl

theorem bare_after (cs : List Change) : (p.after cs).bare = p.bare.after (cs.map Change.bare) := by
  induction cs generalizing p with
  | nil => rfl
  | cons c cs ih =>
    have h := ih (p.change c).2
    rw [(mirrors_change p c).proxy] at h
    exact h

end

/-- Whatever happened to a proxy and whatever happens next, the client is sent the headers that it
is sent where no decision ever asks for changes, with the changes of its own decision made once.
The same goes for any proxy that asks for other changes and for none now. What is stored does not
show any changes, so a value that is added comes once after those of the stored response, however
often that is served. -/
theorem headers_of_decisions (p : Proxy) (cs : List Change) (change : Change) :
    let q := p.after cs
    let bare := p.bare.after (cs.map Change.bare)
    q.cache = bare.cache ∧
    (q.change change).1 = (bare.change change.bare).1.changed (q.mutations change) ∧
    (∀ s : Proxy, s.bare = q.bare → s.mutations change = [] →
      (q.change change).1 = (s.change change).1.changed (q.mutations change) ∧
        (q.change change).2.cache = (s.change change).2.cache) ∧
    (∀ before after name value, q.mutations change = before ++ .add name value :: after →
      (∀ m ∈ before ++ after, m.field ≠ name) →
      (q.change change).1.headers?.map (·.getAll name) =
        (bare.change change.bare).1.headers?.map (·.getAll name ++ [value])) := by
  intro q bare
  have hbare : q.bare = bare := bare_after p cs
  have hmirrors : Mirrors (q.mutations change) (q.change change) (bare.change change.bare) :=
    hbare ▸ mirrors_change q change
  have hcache : q.bare.cache = bare.cache := congrArg cache hbare
  refine ⟨hcache, hmirrors.outcome, fun s hs hnone => ?_,
    fun before after name value hadds hothers => ?_⟩
  · have hsame : Mirrors (s.mutations change) (s.change change) (bare.change change.bare) :=
      hbare ▸ hs ▸ mirrors_change s change
    have houtcome := hsame.outcome
    rw [hnone, Outcome.changed_nil] at houtcome
    have hstored : (q.change change).2.bare.cache = (s.change change).2.bare.cache :=
      congrArg cache (hmirrors.proxy.trans hsame.proxy.symm)
    exact ⟨houtcome ▸ hmirrors.outcome, hstored⟩
  · rw [hmirrors.outcome, Outcome.headers?_changed, hadds, Option.map_map]
    congr 1
    funext h
    rw [Function.comp_apply, Routing.getAll_applyMutations, Routing.changed_add hothers]

theorem headers_of_decisions_two_hits :
    let connection : Connection := ⟨.v4 [127, 0, 0, 1] 50000, .v4 [127, 0, 0, 1] 8080, none⟩
    let r : Incoming := ⟨⟨"GET", ⟨none, none, "/page", none⟩, .http11, .empty⟩, []⟩
    let decision : Routing.Decision := .proxy "site" ⟨"10.0.0.1", 80⟩ true
    let adds : Routing.Decision := { decision with headers := [.add "x-tag" [7], .remove "server"] }
    let p := new {} ⟨.constant (some adds), [], {}⟩ .empty true 0
    let plain := new {} ⟨.constant (some decision), [], {}⟩ .empty true 0
    let captured : List Change := [.event (.request connection r),
      .event (.forward 1 (.headArrives 200 .empty)), .event (.forward 1 (.body (.chunk [1, 2]))),
      .event (.forward 1 (.body .complete))]
    let hit : Change := .event (.request connection r)
    ((p.after captured).change hit).1.headers?.map (·.getAll "x-tag") = some [[7]] ∧
      ((p.after (captured ++ [hit])).change hit).1.headers?.map (·.getAll "x-tag") = some [[7]] ∧
      ((p.after captured).change hit).2.cache = ((plain.after captured).change hit).2.cache := by
  intro connection r decision adds p plain captured hit
  have hmutations : (p.after captured).mutations hit =
      [] ++ .add "x-tag" [7] :: [.remove "server"] := by
    decide +kernel
  have hagain : (p.after (captured ++ [hit])).mutations hit =
      [] ++ .add "x-tag" [7] :: [.remove "server"] := by
    decide +kernel
  have hothers : ∀ m ∈ [] ++ [Routing.Mutation.remove "server"], m.field ≠ "x-tag" := by decide
  obtain ⟨_, _, hplain, hfirst⟩ := headers_of_decisions p captured hit
  obtain ⟨_, _, _, hsecond⟩ := headers_of_decisions p (captured ++ [hit]) hit
  refine ⟨(hfirst _ _ _ _ hmutations hothers).trans ?_, (hsecond _ _ _ _ hagain hothers).trans ?_,
    (hplain (plain.after captured) ?_ ?_).2⟩
  · decide +kernel
  · decide +kernel
  · exact (bare_after plain captured).trans (bare_after p captured).symm
  · decide +kernel

end Proxy
end ReverseProxy
