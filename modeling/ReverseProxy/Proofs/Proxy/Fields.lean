import ReverseProxy.Proofs.Cache.Conditional
import ReverseProxy.Proofs.Proxy.Bare
import ReverseProxy.Proofs.Proxy.Replays
import ReverseProxy.Proofs.Proxy.Settings
import ReverseProxy.Proofs.Routing.PageSpecs

set_option autoImplicit false

namespace ReverseProxy
open Request
open Routing (changed)

def isFramed (name : String) : Bool :=
  Cache.isVolatile name || ["content-type", "location"].contains name

/-- The fields that the proxy writes itself or does not store. -/
def isOwn (name : String) : Bool :=
  Cache.isVolatile name ||
    ["content-type", "location", "last-modified", Cache.originHeader].contains name

def Forward.Event.brings (name : String) : Forward.Event → List Bytes
  | .headArrives _ headers => headers.getAll name
  | _ => []

structure Forward.Plain (f : Forward) : Prop where
  mapper : f.mappedBy.Plain
  decision : f.context.decision.Plain

namespace Proxy

/-- The values of a field in what is found for a request. -/
def found (p : Proxy) (name : String) (connection : Connection) (r : Incoming) : List Bytes :=
  match p.hit? connection r with
  | some e =>
    if (ifModifiedSince? r.head.headers).any e.notModifiedSince then [] else e.headers.getAll name
  | none => []

def servedValues (p : Proxy) (name : String) (connection : Connection) (r : Incoming) :
    List Bytes :=
  (((p.hit? connection r).bind (·.response? (ifModifiedSince? r.head.headers))).map
    (·.headers.getAll name)).getD []

def outset (p : Proxy) (name : String) : Change → List Bytes
  | .event (.request connection r) => p.servedValues name connection r
  | .event (.forward _ e) => e.brings name
  | _ => []

def brought (p : Proxy) (name : String) : Change → List Bytes
  | .event (.request connection r) => p.found name connection r
  | .event (.forward _ e) => e.brings name
  | _ => []

structure Plain (p : Proxy) : Prop where
  mapper : p.mapper.Plain
  forwards : ∀ f ∈ p.forwards, f.Plain

end Proxy

theorem isFramed_of_isOwn {name : String} (h : isOwn name = false) : isFramed name = false := by
  unfold isOwn at h
  unfold isFramed
  simp_all

section
variable {name other : String} (hname : isFramed name = false)
include hname

theorem ne_of_isFramed (hother : isFramed other = true) : name ≠ other := by
  rintro rfl
  rw [hname] at hother
  cases hother

theorem getAll_insert_framed (h : Http.Headers) (hother : isFramed other = true) (v : Bytes) :
    (h.insert other v).getAll name = h.getAll name := by
  rw [Http.Headers.getAll_insert, if_neg (ne_of_isFramed hname hother).symm]

theorem isVolatile_of_isFramed : Cache.isVolatile name = false := (Bool.or_eq_false_iff.1 hname).1

theorem getAll_stripHopByHop (h : Http.Headers) :
    h.stripHopByHop.getAll name = h.getAll name := by
  have hlasting := (Bool.or_eq_false_iff.1 (isVolatile_of_isFramed hname)).2
  unfold Http.Headers.stripHopByHop
  rw [Http.Headers.getAll_removeIf, if_neg (Bool.eq_false_iff.1 hlasting)]

namespace Reply
variable (pages : Pages) (m : Routing.Mapper) (c : Context)

theorem getAll_keepAlive (h : Http.Headers) :
    (confirmKeepAlive c h).getAll name = h.getAll name := by
  rw [getAll_confirmKeepAlive, if_neg fun heq => ne_of_isFramed hname (by decide) heq.1]

theorem getAll_plain_framed (r : Http.Response) :
    (plain c r).headers.getAll name = r.headers.getAll name :=
  getAll_plain c r (ne_of_isFramed hname (by decide)) (ne_of_isFramed hname (by decide))

theorem getAll_withType (s : Http.Status) (contentType : String) (body : Bytes) :
    (Pages.withType s contentType body).headers.getAll name = [] :=
  getAll_insert_framed hname _ (by decide) _

theorem getAll_render (s : Http.Status) (resource : Option String) :
    (pages.render s resource).headers.getAll name = [] := by
  unfold Pages.render Pages.generic
  split
  · exact getAll_withType hname _ _ _
  · split
    · exact getAll_withType hname _ _ _
    · split <;> exact getAll_withType hname _ _ _

theorem getAll_page {spec : Option Routing.PageSpec} (hspec : ∀ s ∈ spec, s.headers = [])
    (fallback : Http.Status) : (page pages c spec fallback).headers.getAll name = [] := by
  cases spec with
  | none => exact (getAll_plain_framed hname c _).trans (getAll_render hname pages _ _)
  | some s =>
    unfold page
    dsimp only
    rw [hspec s rfl]
    exact (getAll_plain_framed hname c _).trans (getAll_render hname pages _ _)

theorem getAll_notFound (hm : m.Plain) (hc : c.decision.Plain) :
    (notFound pages m c).headers.getAll name = [] := by
  refine getAll_page hname pages c (fun s hs => ?_) _
  rcases Option.or_eq_some_iff.1 hs with hs | ⟨_, hs⟩
  · exact hc s hs
  · exact hm.notFoundPage _ s hs

theorem getAll_internalError (hm : m.Plain) (hc : c.decision.Plain) :
    (internalError pages m c).headers.getAll name = [] := by
  refine getAll_page hname pages c (fun s hs => ?_) _
  rcases Option.or_eq_some_iff.1 hs with hs | ⟨_, hs⟩
  · split at hs
    · exact hc s hs
    · cases hs
  · exact hm.internalErrorPage _ s hs

theorem getAll_resource : (resource pages c).headers.getAll name = [] :=
  (getAll_plain_framed hname c _).trans (getAll_render hname pages _ _)

theorem getAll_redirect (hm : m.Plain) (hc : c.decision.Plain) :
    (redirect pages m c).headers.getAll name = [] := by
  unfold redirect
  dsimp only
  split
  · exact getAll_internalError hname pages m c hm hc
  · exact (getAll_plain_framed hname c _).trans (getAll_insert_framed hname _ (by decide) _)

theorem getAll_failure (hm : m.Plain) (hc : c.decision.Plain) (s : Http.Status) :
    (failure pages m c s).headers.getAll name = [] := by
  unfold failure
  split
  · exact getAll_internalError hname pages m c hm hc
  · exact (getAll_plain_framed hname c _).trans (getAll_render hname pages _ _)

end Reply

end

namespace Proxy

/-- A response has these values of the field, and the forwards are plain that are not old ones. -/
structure Shows (fs : List Forward) (name : String) (vs : List Bytes) (x : Outcome × Proxy) :
    Prop where
  values : ∀ h ∈ x.1.headers?, h.getAll name = vs
  forwards : ∀ g ∈ x.2.forwards, g ∈ fs ∨ g.Plain

section
variable {p q : Proxy} {f g : Forward} {c : Context} {e : Forward.Event} {o : Outcome}
  {x : Outcome × Proxy} {name : String} {vs : List Bytes} {connection : Connection} {r : Incoming}

theorem Next.plain (h : p.Next f e o g) (hf : f.Plain) : g.Plain := by
  refine ⟨?_, ?_⟩
  · cases h <;> exact hf.mapper
  · rw [h.resumes.decision]
    exact hf.decision

theorem shows_answer (p : Proxy) (c : Context) {s : Http.Response}
    (hs : s.headers.getAll name = vs) :
    Shows p.forwards name (changed c.decision.headers name vs) (p.answer c s) where
  values h hh := by
    cases hh
    rw [Routing.getAll_applyMutations, hs]
  forwards g hg := .inl hg

theorem shows_silent (hsame : ∀ g ∈ q.forwards, g ∈ p.forwards ∨ g.Plain) :
    Shows p.forwards name vs (.none, q) := ⟨nofun, hsame⟩

theorem servedValues_of_miss (p : Proxy) (name : String) (h : p.hit? connection r = none) :
    p.servedValues name connection r = [] := by
  unfold servedValues
  rw [h]
  rfl

theorem plain_contextFor (hp : p.mapper.Plain) (connection : Connection) (r : Incoming) :
    (p.contextFor connection r).decision.Plain := by
  let view := r.head.view connection.isSecure
  let available (e : Endpoint) := p.health.isAvailable e p.nowMs
  have hdecision : (p.contextFor connection r).decision =
      (p.mapper.map view available).1.getD .noRoute := rfl
  rw [hdecision]
  cases hd : (p.mapper.map view available).1 with
  | none => exact Routing.Decision.plain_of_none rfl
  | some d => exact hp.decision hd

section
variable (hname : isFramed name = false)
include hname

theorem shows_fail (p : Proxy) {m : Routing.Mapper} (hm : m.Plain) (hc : c.decision.Plain)
    (why : Forward.Failure) :
    Shows p.forwards name (changed c.decision.headers name []) (p.fail m c why) := by
  have hreply := Reply.getAll_failure hname p.pages m c hm hc why.status
  refine ⟨(shows_answer (p.noteFailure c.id why) c hreply).values, fun g hg => ?_⟩
  rw [forwards_fail] at hg
  exact .inl hg

theorem shows_move {fate : Option Forward.Fate} (h : p.Move f e x fate) (hf : f.Plain)
    (hheads : ∀ status headers, e ≠ .headArrives status headers) :
    Shows p.forwards name (changed f.context.decision.headers name []) x := by
  refine ⟨fun h' hh' => ?_, fun g hg => ?_⟩
  · cases h with
    | goesOn o g pools endpointStats next =>
      cases next with
      | waits | leased | pumps => cases hh'
      | streams l status headers => exact absurd rfl (hheads status headers)
    | fails pools why about => exact (shows_fail hname _ hf.mapper hf.decision why).values h' hh'
    | crashes | givesUp | ends => cases hh'
  · rcases h.forwards with ⟨_, g', next, hforwards⟩ | ⟨_, hforwards⟩ <;> rw [hforwards] at hg
    · rcases List.mem_append.1 hg with hg | hg
      · exact .inl (mem_others.1 hg).1
      · rw [List.mem_singleton.1 hg]
        exact .inr (next.plain hf)
    · exact .inl (mem_others.1 hg).1

theorem shows_headArrives (p : Proxy) (hf : f.Plain) (status : Http.Status)
    (headers : Http.Headers) :
    Shows p.forwards name (changed f.context.decision.headers name (headers.getAll name))
      (p.headArrives f status headers) := by
  have hother : "expires" ≠ name := by
    rintro rfl
    cases hname
  unfold headArrives
  split
  · next l hstage =>
    dsimp only
    split
    · exact ⟨nofun, fun g hg => .inl (mem_others.1 hg).1⟩
    · refine ⟨fun h hh => ?_, fun g hg => ?_⟩
      · cases hh
        rw [Routing.getAll_applyMutations, getAll_clientHeaders _ _ hother.symm,
          getAll_stripHopByHop hname]
      · rcases List.mem_append.1 hg with hg | hg
        · exact .inl (mem_others.1 hg).1
        · rw [List.mem_singleton.1 hg]
          exact .inr ⟨hf.mapper, hf.decision⟩
  · exact shows_silent fun g hg => .inl hg

theorem shows_onForward (p : Proxy) (hf : f.Plain) (e : Forward.Event) :
    Shows p.forwards name (changed f.context.decision.headers name (e.brings name))
      (p.onForward f e) := by
  have hmoves (hheads : ∀ status headers, e ≠ .headArrives status headers) :
      Shows p.forwards name (changed f.context.decision.headers name []) (p.onForward f e) := by
    rcases p.move_onForward f e with ⟨hidle, _⟩ | hmove
    · rw [hidle]
      exact shows_silent fun g hg => .inl hg
    · exact shows_move hname hmove hf hheads
  cases e with
  | headArrives status headers => exact shows_headArrives hname p hf status headers
  | leaseAnswered | connectFails | exchangeFails | silence | cutOff | body | clientReads
    | clientLeaves | noRoom => exact hmoves nofun

theorem shows_startForward (p : Proxy) {m : Routing.Mapper} (hm : m.Plain) (hc : c.decision.Plain)
    (body : Bytes) (mayCapture : Bool) :
    Shows p.forwards name (changed c.decision.headers name [])
      (p.startForward m c body mayCapture) := by
  cases htarget : c.decision.target with
  | none =>
    unfold startForward
    rw [htarget]
    exact shows_fail hname p hm hc _
  | some e =>
    rw [p.startForward_eq m htarget]
    dsimp only
    split
    · exact shows_fail hname (p.begins e).endPending hm hc _
    · next outgoing _ =>
      let f : Forward := ⟨c, m, outgoing, e,
        if mayCapture then (p.begins e).beginCapture c else none,
        .waiting p.pools.nextTicket default 1⟩
      have hf : f.Plain := ⟨hm, hc⟩
      exact shows_move hname (move_askForLease (p.begins e) p.pools rfl 1) hf nofun

theorem shows_serveEntry (p : Proxy) (c : Context) (e : Cache.Entry) :
    Shows p.forwards name (changed c.decision.headers name
      (((e.response? (ifModifiedSince? c.head.headers)).map (·.headers.getAll name)).getD []))
      (p.serveEntry c e) := by
  unfold serveEntry
  dsimp only
  cases hresponse : e.response? (ifModifiedSince? c.head.headers) with
  | none => exact ⟨nofun, fun g hg => .inl hg⟩
  | some s => exact shows_answer p { c with fromCache := true } (Reply.getAll_keepAlive hname c _)

theorem shows_receive (hp : p.mapper.Plain) (connection : Connection) (r : Incoming) :
    Shows p.forwards name
      (changed (p.contextFor connection r).decision.headers name (p.servedValues name connection r))
      (p.receive connection r) := by
  let mapper := (p.decide (r.head.view connection.isSecure)).2.mapper
  let c := p.contextFor connection r
  have hreceive : p.receive connection r =
      (p.takeIn mapper p.cache).act mapper c r.body := rfl
  have hm : mapper.Plain := hp.map _ _
  have hc : c.decision.Plain := plain_contextFor hp connection r
  have hforward (cache : Cache.Store) (mayCapture : Bool) (hmiss : p.hit? connection r = none) :
      Shows p.forwards name (changed c.decision.headers name (p.servedValues name connection r))
        ((p.takeIn mapper cache).startForward mapper c r.body mayCapture) := by
    rw [servedValues_of_miss p name hmiss]
    exact shows_startForward hname (p.takeIn mapper cache) hm hc r.body mayCapture
  by_cases hcaches : c.decision.action = .proxyAndCache
  · obtain ⟨cache, _, ⟨hmiss, hstart⟩ | ⟨e, he, hserve⟩⟩ := p.receive_of_caches hcaches
    · rw [hstart]
      exact hforward cache true hmiss
    · have hserved : p.servedValues name connection r =
          ((e.response? (ifModifiedSince? c.head.headers)).map (·.headers.getAll name)).getD [] := by
        unfold servedValues
        rw [he]
        rfl
      rw [hserve, hserved]
      exact shows_serveEntry hname (p.takeIn mapper cache) c e
  · have hmiss : p.hit? connection r = none := if_neg fun hcan => hcaches hcan.1
    have hreply {s : Http.Response} (hs : s.headers.getAll name = []) :
        Shows p.forwards name (changed c.decision.headers name (p.servedValues name connection r))
          ((p.takeIn mapper p.cache).answer c s) := by
      rw [servedValues_of_miss p name hmiss]
      exact shows_answer (p.takeIn mapper p.cache) c hs
    rw [hreceive]
    unfold act
    cases haction : c.decision.action with
    | notFound => exact hreply (Reply.getAll_notFound hname p.pages mapper c hm hc)
    | internalError => exact hreply (Reply.getAll_internalError hname p.pages mapper c hm hc)
    | static | acmeChallenge => exact hreply (Reply.getAll_resource hname p.pages c)
    | redirect => exact hreply (Reply.getAll_redirect hname p.pages mapper c hm hc)
    | proxy => exact hforward p.cache false hmiss
    | proxyAndCache => exact absurd haction hcaches

theorem shows_outset (hp : p.Plain) (change : Change) :
    Shows p.forwards name (changed (p.mutations change) name (p.outset name change))
      (p.change change) := by
  have hquiet (h : (p.change change).1 = .none) (hsame : (p.change change).2.forwards = p.forwards)
      {vs : List Bytes} : Shows p.forwards name vs (p.change change) := by
    refine ⟨fun h' hh' => ?_, fun g hg => .inl (hsame ▸ hg)⟩
    rw [h] at hh'
    cases hh'
  cases change with
  | mapper | cache | reload | forgo | dispose => exact hquiet rfl rfl
  | event event =>
    cases event with
    | timePasses | clockSet | sweep => exact hquiet rfl rfl
    | request connection r => exact shows_receive hname hp.mapper connection r
    | forward id e =>
      cases hf : p.forward? id with
      | none =>
        have hsame : p.change (.event (.forward id e)) = (.none, p) := by
          rw [change_forward, hf]
        exact hquiet (congrArg Prod.fst hsame) (congrArg (·.2.forwards) hsame)
      | some f =>
        have hmutations : p.mutations (.event (.forward id e)) = f.context.decision.headers := by
          change ((p.forward? id).map (·.context.decision.headers)).getD [] = _
          rw [hf]
          rfl
        have hchange : p.change (.event (.forward id e)) = p.onForward f e := by
          rw [change_forward, hf]
        rw [hmutations, hchange]
        exact shows_onForward hname p (hp.forwards f (List.mem_of_find?_eq_some hf)) e

end

variable (hname : isOwn name = false)
include hname

theorem servedValues_of_hit {entry : Cache.Entry} {s : Http.Response}
    (hhit : p.hit? connection r = some entry)
    (hresponse : entry.response? (ifModifiedSince? r.head.headers) = some s) :
    s.headers.getAll name = p.found name connection r := by
  have hne {other : String} (hother : isOwn other = true) : name ≠ other := by
    rintro rfl
    rw [hname] at hother
    cases hother
  unfold found
  rw [hhit]
  dsimp only
  unfold Cache.Entry.response? at hresponse
  split at hresponse
  · next hold =>
    obtain ⟨_, _, modified, origin, _, _, hfields⟩ :=
      Cache.Entry.notModifiedResponse?_eq_some hresponse
    unfold Cache.Entry.confirms at hfields
    rw [if_pos hold, hfields, if_neg (hne (by decide)), if_neg (hne (by decide)),
      if_neg (hne (by decide))]
  · next hchanged =>
    obtain ⟨_, _, origin, _, hfields⟩ := Cache.Entry.fullResponse?_eq_some hresponse
    unfold Cache.Entry.replays at hfields
    rw [if_neg hchanged, hfields, if_neg (hne (by decide)), if_neg (hne (by decide)),
      if_neg (hne (by decide))]

theorem outset_eq_brought {change : Change} {h : Http.Headers}
    (hh : h ∈ (p.change change).1.headers?) : p.outset name change = p.brought name change := by
  cases change with
  | mapper | cache | reload | forgo | dispose => rfl
  | event event =>
    cases event with
    | timePasses | clockSet | sweep | forward => rfl
    | request connection r =>
      change p.servedValues name connection r = p.found name connection r
      cases hhit : p.hit? connection r with
      | none =>
        unfold found
        rw [servedValues_of_miss p name hhit, hhit]
      | some entry =>
        have ho : (p.change (.event (.request connection r))).1 = _ := outcome_of_hit hhit
        rw [ho] at hh
        unfold servedValues
        rw [hhit, Option.bind_some]
        cases hresponse : entry.response? (ifModifiedSince? r.head.headers) with
        | none =>
          rw [hresponse] at hh
          cases hh
        | some s => exact servedValues_of_hit hname hhit hresponse

theorem shows_change (hp : p.Plain) (change : Change) :
    Shows p.forwards name (changed (p.mutations change) name (p.brought name change))
      (p.change change) := by
  have hshows := shows_outset (isFramed_of_isOwn hname) hp change
  exact ⟨fun h hh => outset_eq_brought hname hh ▸ hshows.values h hh, hshows.forwards⟩

end

section
variable {p : Proxy}

theorem Plain.change (hp : p.Plain) {change : Change} (hm : ∀ m, change = .mapper m → m.Plain) :
    (p.change change).2.Plain where
  mapper := mapper_change (fun _ view available h => h.map view available) hp.mapper hm
  forwards g hg := by
    -- Any field will do.
    have hname : isFramed "date" = false := by decide
    rcases (shows_outset hname hp change).forwards g hg with hold | hnew
    · exact hp.forwards g hold
    · exact hnew

theorem Plain.after (hp : p.Plain) {cs : List Change} (hm : ∀ m, .mapper m ∈ cs → m.Plain) :
    (p.after cs).Plain := by
  induction cs generalizing p with
  | nil => exact hp
  | cons c cs ih =>
    refine ih (hp.change fun m heq => hm m ?_) fun m hmem => hm m (List.mem_cons_of_mem _ hmem)
    exact heq ▸ List.mem_cons_self

end

end Proxy
end ReverseProxy
