import ReverseProxy.Proofs.Cache.Accounting
import ReverseProxy.Proofs.Cache.Dates
import ReverseProxy.Proofs.Proxy.Turn

set_option autoImplicit false

namespace ReverseProxy.Proxy
open Request
open Pool (Holding)

section
variable (p : Proxy) (connection : Connection) (r : Incoming)

def contextFor : Context :=
  .start p.nextId p.pools.nowMs p.nowMs connection r.head
    (p.decide (r.head.view connection.isSecure)).1

/-- The entry that is found for a request, if its decision is one that looks for entries. -/
def hit? : Option Cache.Entry :=
  if (p.contextFor connection r).decision.action = .proxyAndCache ∧ p.cache.policy.enabled = true ∧
      r.head.method = "GET" then
    (p.cache.lookup (.ofRequest r.head.method r.head.uri r.head.headers connection.isSecure)
      p.nowMs).1
  else none

def fromEntry (c : Context) (s : Http.Response) : Http.Response :=
  { s with headers :=
      Routing.applyMutations (Reply.confirmKeepAlive c s.headers) c.decision.headers }

def served? : Option Http.Response :=
  (p.hit? connection r).bind fun e =>
    (e.response? (ifModifiedSince? r.head.headers)).map (fromEntry (p.contextFor connection r))

/-- The endpoint that a request is to be forwarded to. -/
def startsTo? : Option Endpoint :=
  let d := (p.contextFor connection r).decision
  if d.action = .proxy ∨ (d.action = .proxyAndCache ∧ p.hit? connection r = none) then d.target
  else none

end

structure Admits (p p' : Proxy) : Prop where
  forwards : p'.forwards = p.forwards
  pending : p'.pending = p.pending
  pools : p'.pools = p.pools
  log : p'.log = p.log
  finished : p'.finished = p.finished
  keepsLog : p'.keepsLog = p.keepsLog
  nextId : p'.nextId = p.nextId + 1
  total : ∀ e, p'.totalOf e = p.totalOf e

def begins (p : Proxy) (e : Endpoint) : Proxy := p.beginPending.changeStats e (·.record p.nowMs)

inductive Intake (p : Proxy) (connection : Connection) (r : Incoming) (o : Outcome) (q : Proxy) :
    Prop where
  | answered (p' : Proxy) (c : Context) (now : Nat) (admits : p.Admits p')
      (forwards : q.forwards = p'.forwards) (pending : q.pending = p'.pending)
      (pools : q.pools = p'.pools) (books : p'.Adds q [c.finish now])
      (id : c.id = p.nextId) (decision : c.decision = (p.contextFor connection r).decision)
      (told : c.told = o.told) (fromCache : c.fromCache = (p.served? connection r).isSome)
      (served : ∀ s, p.served? connection r = some s → o = .response s)
      (starts : p.startsTo? connection r = none)
  | forwarded (p' : Proxy) (e : Endpoint) (admits : p.Admits p')
      (served : p.served? connection r = none) (starts : p.startsTo? connection r = some e)
      (turn : (p'.begins e).Turn (p.contextFor connection r) e .nothing o q)

section
variable {p p' q : Proxy} {connection : Connection} {r : Incoming}

theorem admits_of (p : Proxy) (mapper : Routing.Mapper) (cache : Cache.Store) :
    p.Admits { p with mapper, cache, nextId := p.nextId + 1 } :=
  ⟨rfl, rfl, rfl, rfl, rfl, rfl, rfl, fun _ => rfl⟩

theorem adds_finish (p : Proxy) (c : Context) : p.Adds (p.finish c) [c.finish p.pools.nowMs] := by
  refine ⟨?_, rfl, rfl, rfl, fun _ => rfl⟩
  change (if p.keepsLog then p.log ++ _ else p.log) = _
  split
  · rfl
  · exact (List.append_nil _).symm

theorem served?_of_miss (h : p.hit? connection r = none) : p.served? connection r = none := by
  unfold served?
  rw [h]
  rfl

theorem startsTo?_of_hit {e : Cache.Entry} (he : p.hit? connection r = some e) :
    p.startsTo? connection r = none := by
  have haction : (p.contextFor connection r).decision.action = .proxyAndCache := by
    unfold hit? at he
    split at he
    · next hcan => exact hcan.1
    · cases he
  unfold startsTo?
  dsimp only
  rw [haction, he]
  simp

theorem intake_answer (ha : p.Admits p') (hquiet : p'.Quiet q) (hpools : q.pools = p'.pools)
    (hserved : p.served? connection r = none) (hstarts : p.startsTo? connection r = none)
    (s : Http.Response) :
    p.Intake connection r (q.answer (p.contextFor connection r) s).1
      (q.answer (p.contextFor connection r) s).2 := by
  refine .answered p' { p.contextFor connection r with status := s.status, headersSent := true }
    q.pools.nowMs ha hquiet.forwards hquiet.pending hpools (hquiet.books.trans (adds_finish q _))
    rfl rfl rfl ?_ (fun s' hs' => ?_) hstarts
  · rw [hserved]
    rfl
  · rw [hserved] at hs'
    cases hs'

theorem intake_startForward (ha : p.Admits p') (hfresh : ∀ f ∈ p.forwards, f.context.id ≠ p.nextId)
    (hserved : p.served? connection r = none)
    (hstarts : p.startsTo? connection r = (p.contextFor connection r).decision.target)
    (m : Routing.Mapper) (body : Bytes) (mayCapture : Bool) :
    p.Intake connection r (p'.startForward m (p.contextFor connection r) body mayCapture).1
      (p'.startForward m (p.contextFor connection r) body mayCapture).2 := by
  unfold startForward
  cases htarget : (p.contextFor connection r).decision.target with
  | none =>
    obtain ⟨hquiet, hpools⟩ := quiet_noteFailure p' (p.contextFor connection r).id
      (.invalidTarget ("route '" ++ (p.contextFor connection r).decision.routeId ++
        "' has no backend"))
    exact intake_answer ha hquiet hpools hserved (hstarts.trans htarget) _
  | some e =>
    refine .forwarded p' e ha hserved (hstarts.trans htarget) ?_
    dsimp only
    split
    · next why _ =>
      -- The request never was among the forwards.
      have hothers : (p'.begins e).others p.nextId = (p'.begins e).forwards := by
        change p'.forwards.filter _ = p'.forwards
        rw [ha.forwards]
        refine Keyed.filter_of_notMem (fun f : Forward => f.context.id) fun hmem => ?_
        obtain ⟨f, hf, heq⟩ := List.mem_map.1 hmem
        exact hfresh f hf heq
      have hlets : (p'.begins e).Lets p.nextId (p'.begins e).endPending :=
        ⟨hothers.symm, rfl, adds_of_eq rfl rfl rfl rfl rfl⟩
      exact Lets.fail (c := p.contextFor connection r) hlets (.refl _ _) rfl m why
    · next outgoing _ =>
      refine turn_askForLease (p'.begins e) ⟨p.contextFor connection r, m, outgoing, e, _, _⟩
        ⟨rfl, fun c hc => ?_⟩ 1
      by_cases hmay : mayCapture = true
      · rw [if_pos hmay] at hc
        exact Cache.Capture.beginCapture_state hc
      · rw [if_neg hmay] at hc
        cases hc

theorem intake_serveEntry (ha : p.Admits p') {e : Cache.Entry} (he : p.hit? connection r = some e) :
    p.Intake connection r (p'.serveEntry (p.contextFor connection r) e).1
      (p'.serveEntry (p.contextFor connection r) e).2 := by
  have hstarts := startsTo?_of_hit he
  unfold serveEntry
  dsimp only
  cases hs : e.response? (ifModifiedSince? (p.contextFor connection r).head.headers) with
  | none =>
    have hserved : p.served? connection r = none := by
      unfold served?
      rw [he]
      exact congrArg (Option.map _) hs
    refine .answered p' { p.contextFor connection r with fromCache := false } p'.pools.nowMs ha rfl
      rfl rfl (adds_finish p' _) rfl rfl rfl ?_ (fun s hs' => ?_) hstarts
    · rw [hserved]
      rfl
    · rw [hserved] at hs'
      cases hs'
  | some s =>
    have hserved : p.served? connection r = some (fromEntry (p.contextFor connection r) s) := by
      unfold served?
      rw [he]
      exact congrArg (Option.map _) hs
    refine .answered p' { p.contextFor connection r with
      fromCache := true, status := s.status, headersSent := true } p'.pools.nowMs ha rfl rfl rfl
      (adds_finish p' _) rfl rfl rfl ?_ (fun s' hs' => ?_) hstarts
    · rw [hserved]
      rfl
    · rw [hserved] at hs'
      cases hs'
      rfl

theorem receive_of_caches (p : Proxy)
    (haction : (p.contextFor connection r).decision.action = .proxyAndCache) :
    ∃ cache : Cache.Store, cache.policy = p.cache.policy ∧
      let mapper := (p.decide (r.head.view connection.isSecure)).2.mapper
      let p' : Proxy := { p with mapper, cache, nextId := p.nextId + 1 }
      (p.hit? connection r = none ∧ p.receive connection r =
        p'.startForward mapper (p.contextFor connection r) r.body true) ∨
      ∃ e, p.hit? connection r = some e ∧
        p.receive connection r = p'.serveEntry (p.contextFor connection r) e := by
  let p' : Proxy := { (p.decide (r.head.view connection.isSecure)).2 with nextId := p.nextId + 1 }
  have hreceive : p.receive connection r =
      p'.proxyAndCache p'.mapper (p.contextFor connection r) r.body := by
    change p'.act p'.mapper (p.contextFor connection r) r.body = _
    unfold act
    rw [haction]
  rw [hreceive]
  unfold proxyAndCache
  dsimp only
  split
  · next hskip =>
    refine ⟨p.cache, rfl, .inl ⟨if_neg fun hcan => ?_, rfl⟩⟩
    have hmethod : (p.contextFor connection r).head.method = "GET" := hcan.2.2
    have henabled : p'.cache.policy.enabled = true := hcan.2.1
    rw [henabled, hmethod] at hskip
    simp at hskip
  · next hlook =>
    have hcan : p.cache.policy.enabled = true ∧ r.head.method = "GET" := by
      have hlook' : ¬(!p.cache.policy.enabled || r.head.method != "GET") = true := hlook
      simpa using hlook'
    have hhit : p.hit? connection r = (p'.cache.lookup (.ofRequest r.head.method r.head.uri
        r.head.headers connection.isSecure) p'.nowMs).1 := if_pos ⟨haction, hcan⟩
    refine ⟨_, Cache.Store.policy_lookup p.cache (.ofRequest r.head.method r.head.uri
      r.head.headers connection.isSecure) p.nowMs, ?_⟩
    split
    · next e he => exact .inr ⟨e, hhit.trans he, rfl⟩
    · next hnone => exact .inl ⟨hhit.trans hnone, rfl⟩

theorem outcome_of_hit {e : Cache.Entry} (hhit : p.hit? connection r = some e) :
    (p.receive connection r).1 = match e.response? (ifModifiedSince? r.head.headers) with
      | some shown => .response (fromEntry (p.contextFor connection r) shown)
      | none => .crashed := by
  have haction : (p.contextFor connection r).decision.action = .proxyAndCache := by
    unfold hit? at hhit
    split at hhit
    · next hcan => exact hcan.1
    · cases hhit
  obtain ⟨cache, _, ⟨hnone, _⟩ | ⟨e', he', hserve⟩⟩ := p.receive_of_caches haction
  · rw [hnone] at hhit
    cases hhit
  · rw [hhit] at he'
    cases he'
    have hhead : (p.contextFor connection r).head = r.head := rfl
    rw [hserve]
    unfold serveEntry
    dsimp only
    rw [hhead]
    cases e.response? (ifModifiedSince? r.head.headers) <;> rfl

theorem intake_receive (hfresh : ∀ f ∈ p.forwards, f.context.id ≠ p.nextId)
    (connection : Connection) (r : Incoming) :
    p.Intake connection r (p.receive connection r).1 (p.receive connection r).2 := by
  let p' : Proxy := { (p.decide (r.head.view connection.isSecure)).2 with nextId := p.nextId + 1 }
  have hreceive : p.receive connection r =
      p'.act p'.mapper (p.contextFor connection r) r.body := rfl
  have ha : p.Admits p' := admits_of p p'.mapper p.cache
  have hmiss (h : (p.contextFor connection r).decision.action ≠ .proxyAndCache) :
      p.hit? connection r = none := if_neg fun hcan => h hcan.1
  have hplain (hproxy : (p.contextFor connection r).decision.action.isProxy = false)
      (s : Http.Response) : p.Intake connection r (p'.answer (p.contextFor connection r) s).1
        (p'.answer (p.contextFor connection r) s).2 := by
    refine intake_answer ha (quiet_refl p') rfl (served?_of_miss (hmiss fun heq => ?_))
      (if_neg fun hcan => ?_) s
    · rw [heq] at hproxy
      cases hproxy
    · rcases hcan with heq | ⟨heq, _⟩ <;> rw [heq] at hproxy <;> cases hproxy
  by_cases hcaches : (p.contextFor connection r).decision.action = .proxyAndCache
  · obtain ⟨cache, _, ⟨hnone, hstart⟩ | ⟨e, he, hserve⟩⟩ := p.receive_of_caches hcaches
    · rw [hstart]
      exact intake_startForward (admits_of p _ cache) hfresh (served?_of_miss hnone)
        (if_pos (.inr ⟨hcaches, hnone⟩)) _ r.body true
    · rw [hserve]
      exact intake_serveEntry (admits_of p _ cache) he
  · have hnone := hmiss hcaches
    rw [hreceive]
    unfold act
    cases haction : (p.contextFor connection r).decision.action with
    | notFound | internalError | static | acmeChallenge | redirect =>
      exact hplain (by rw [haction]; rfl) _
    | proxy =>
      exact intake_startForward ha hfresh (served?_of_miss hnone) (if_pos (.inl haction)) _ _ _
    | proxyAndCache => exact absurd haction hcaches

end

end ReverseProxy.Proxy
