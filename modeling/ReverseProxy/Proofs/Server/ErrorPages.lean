import ReverseProxy.Proofs.Proxy.Failing
import ReverseProxy.Proofs.Proxy.Settings
import ReverseProxy.Proofs.Routing.PageChoice
import ReverseProxy.Proofs.Server.Atomicity
import ReverseProxy.Proofs.Server.History

set_option autoImplicit false

namespace ReverseProxy
open Request Routing

def Request.Context.Misdirected (c : Context) : Prop :=
  c.decision.action = .redirect ∧ Http.headerValue? (Bytes.ofText (Redirect.location
    (c.decision.redirect.getD {}) c.head.host (c.head.uri.pathAndQuery?.getD "/"))) = none

namespace Reply

section
variable {m : Mapper} {c c' : Context} {missing broken : Option PageSpec}

theorem page_resumes (h : c.Resumes c') (pages : Pages) (spec : Option PageSpec)
    (status : Http.Status) : page pages c' spec status = page pages c spec status := by
  have hplain (r : Http.Response) : plain c' r = plain c r := by
    unfold plain confirmKeepAlive
    rw [h.head]
  unfold page
  simp only [hplain]

theorem notFound_eq (pages : Pages) (h : m.Finds c.decision missing broken)
    (haction : c.decision.action = .notFound) :
    notFound pages m c = page pages c missing 404 := by
  unfold notFound
  rw [h.missing haction]

theorem internalError_eq (pages : Pages) (h : m.Finds c.decision missing broken)
    (haction : c.decision.action ≠ .acmeChallenge) :
    internalError pages m c = page pages c broken 500 := by
  unfold internalError
  dsimp only
  rw [h.broken haction]

theorem redirect_eq (pages : Pages) (h : m.Finds c.decision missing broken)
    (hlost : c.Misdirected) : redirect pages m c = page pages c broken 500 := by
  obtain ⟨haction, hnone⟩ := hlost
  have herror := internalError_eq pages h (by rw [haction]; exact nofun)
  unfold redirect
  dsimp only
  rw [hnone]
  exact herror

theorem failure_eq (pages : Pages) (h : m.Finds c.decision missing broken)
    (hproxy : c.decision.action.isProxy = true) (status : Http.Status) :
    failure pages m c status = page pages c (if status = 500 then broken else none) status := by
  have herror := internalError_eq pages h fun haction => by
    rw [haction] at hproxy
    cases hproxy
  unfold failure
  split
  · next hstatus =>
    rw [herror, hstatus]
  · rfl

end

end Reply

namespace Proxy

section
variable {m : Mapper} {c : Context} {missing broken : Option PageSpec}

theorem act_notFound (p : Proxy) (h : m.Finds c.decision missing broken)
    (haction : c.decision.action = .notFound) (body : Bytes) :
    (p.act m c body).1 = .response (c.dressed (Reply.page p.pages c missing 404)) := by
  unfold act
  rw [haction, ← Reply.notFound_eq p.pages h haction]
  rfl

theorem act_internalError (p : Proxy) (h : m.Finds c.decision missing broken)
    (haction : c.decision.action = .internalError) (body : Bytes) :
    (p.act m c body).1 = .response (c.dressed (Reply.page p.pages c broken 500)) := by
  have hother : c.decision.action ≠ .acmeChallenge := by simp [haction]
  unfold act
  rw [haction, ← Reply.internalError_eq p.pages h hother]
  rfl

theorem act_misdirected (p : Proxy) (h : m.Finds c.decision missing broken)
    (hlost : c.Misdirected) (body : Bytes) :
    (p.act m c body).1 = .response (c.dressed (Reply.page p.pages c broken 500)) := by
  unfold act
  rw [hlost.1, ← Reply.redirect_eq p.pages h hlost]
  rfl

end

end Proxy

namespace Server

/-- The configuration whose mapper is in place after an event. A valid one puts its mapper in place
even where its limits keep its pools out. -/
def Event.ruling (c : Config) : Event → Config
  | .reload c' => if c'.Valid then c' else c
  | _ => c

def ruling (c : Config) (es : List Event) : Config := es.foldl Event.ruling c

def shown (pages : Pages) (c : Context) (spec : Option PageSpec) (status : Http.Status) : Outcome :=
  deliver c.head (.response (c.dressed (Reply.page pages c spec status)))

/-- A request is answered with the page `missing` if nothing is found for it, and with the page
`broken` if its route says so, if its redirect leads nowhere, or if forwarding it fails with the
status 500 before a head was sent, be it at once or later. Other failures have generic pages. -/
structure Shows (s : Server) (request : Event) (pages : Pages) (c : Context)
    (missing broken : Option PageSpec) : Prop where
  notFound : c.decision.action = .notFound → (s.step request).1 = shown pages c missing 404
  internalError : c.decision.action = .internalError →
    (s.step request).1 = shown pages c broken 500
  misdirected : c.Misdirected → (s.step request).1 = shown pages c broken 500
  failsAtOnce : ∀ why,
    (s.step request).2.proxy.failures = s.proxy.failures ++ [(c.id, why)] →
      (s.step request).1 =
        shown pages c (if why.status = 500 then broken else none) why.status
  failsLater : ∀ es e answer, let u := (s.step request).2.run es
    (u.step (.forward c.id e)).1 = .response answer → ∃ why,
      (u.step (.forward c.id e)).2.proxy.failures = u.proxy.failures ++ [(c.id, why)] ∧
        (u.step (.forward c.id e)).1 =
          shown pages c (if why.status = 500 then broken else none) why.status

structure Ruled (s : Server) (c : Config) : Prop where
  held : s.proxy.Held
  valid : c.Valid
  routes : c.routing.mapper = "routes" → s.proxy.mapper.OfRoutes c

section
variable {s : Server} {c : Config} {pages : Pages}

theorem shown_resumes {c c' : Context} (h : c.Resumes c') (pages : Pages)
    (spec : Option PageSpec) (status : Http.Status) :
    shown pages c' spec status = shown pages c spec status := by
  unfold shown Context.dressed
  rw [Reply.page_resumes h, h.head, h.decision]

theorem ofRoutes_of_build {m : Mapper} (h : Mapper.build c = .ok m)
    (hroutes : c.routing.mapper = "routes") : m.OfRoutes c := by
  rw [Mapper.build, if_pos hroutes] at h
  exact .of_ofRoutes h

theorem ruled_build {nowMs : Nat} {start : Server} (h : build c pages nowMs = .ok start) :
    start.Ruled c := by
  obtain ⟨hvalid, mapper, hmapper, rfl⟩ := eq_of_build h
  exact ⟨Proxy.held_new c mapper pages _ nowMs, hvalid, ofRoutes_of_build hmapper⟩

theorem Ruled.reload (h : s.Ruled c) (c' : Config) :
    (s.step (.reload c')).2.Ruled (if c'.Valid then c' else c) := by
  have hheld : (s.step (.reload c')).2.proxy.Held := by
    rw [proxy_step]
    exact h.held.after _
  have hcases := s.reloads c'
  simp only [step] at hheld ⊢
  generalize s.reload c' = result at hcases hheld ⊢
  cases hcases with
  | turnsAway hinvalid =>
    rw [if_neg hinvalid]
    exact h
  | breaksOff hvalid hmapper | takesOn hvalid hmapper =>
    rw [if_pos hvalid]
    exact ⟨hheld, hvalid, ofRoutes_of_build hmapper⟩

theorem Ruled.other (h : s.Ruled c) {e : Event} (hother : ∀ c', e ≠ .reload c') :
    (s.step e).2.Ruled c := by
  refine ⟨?_, h.valid, fun hroutes => ?_⟩ <;> rw [proxy_step]
  · exact h.held.after e.changes
  · exact Proxy.mapper_after (fun _ view available hof => hof.asked view available)
      (h.routes hroutes) fun m hm => absurd hm (mapper_notMem hother)

theorem Ruled.step (h : s.Ruled c) (e : Event) : (s.step e).2.Ruled (e.ruling c) := by
  cases e with
  | reload c' => exact h.reload c'
  | request | forward | timePasses | clockSet | sweep => exact h.other (by simp)

theorem Ruled.run (h : s.Ruled c) (es : List Event) : (s.run es).Ruled (ruling c es) := by
  induction es generalizing s c with
  | nil => exact h
  | cons e es ih => exact ih (h.step e)

theorem pages_run (s : Server) (es : List Event) : (s.run es).proxy.pages = s.proxy.pages := by
  obtain ⟨_, hsettings⟩ := Proxy.settings_after s.proxy (es.flatMap Event.changes)
  rw [proxy_run]
  exact congrArg Proxy.Settings.pages hsettings

variable {connection : Connection} {r : Incoming} {fresh : Bytes} {missing broken : Option PageSpec}

theorem proxy_request (s : Server) (connection : Connection) (fresh : Bytes)
    (hreaches : reachesProxy r.head.uri = true) :
    (s.step (.request connection r fresh)).2.proxy =
      (s.proxy.receive connection (named r fresh)).2 := by
  rw [proxy_step, Event.changes]
  dsimp only
  rw [if_pos hreaches]
  rfl

theorem answer_request (s : Server) (connection : Connection) (fresh : Bytes)
    (hreaches : reachesProxy r.head.uri = true) :
    (s.step (.request connection r fresh)).1 = deliver (named r fresh).head
      (s.proxy.receive connection (named r fresh)).1 := by
  rw [step_request, if_pos hreaches]
  rfl

theorem fails_forward {m : Mapper} {c : Context} {e : Forward.Event} {answer : Http.Response}
    (hdecided : ∀ f, s.proxy.forward? c.id = some f → Proxy.Decided m c f)
    (hfinds : m.Finds c.decision missing broken)
    (hanswer : (s.step (.forward c.id e)).1 = .response answer) :
    ∃ why, (s.step (.forward c.id e)).2.proxy.failures = s.proxy.failures ++ [(c.id, why)] ∧
      (s.step (.forward c.id e)).1 =
        shown s.proxy.pages c (if why.status = 500 then broken else none) why.status := by
  rcases s.step_forward c.id e with ⟨hnone, _⟩ | ⟨f, hf, hstep⟩
  · rw [hnone] at hanswer
    cases hanswer
  obtain ⟨hproxied, rfl, hresumes⟩ := hdecided f hf
  have hchange : s.proxy.change (.event (.forward c.id e)) = s.proxy.onForward f e := by
    rw [Proxy.change_forward, hf]
  have hproxy : (s.step (.forward c.id e)).2.proxy = (s.proxy.onForward f e).2 := by
    rw [proxy_step, ← hchange]
    rfl
  rw [hchange] at hstep
  obtain ⟨sent, hsent⟩ : ∃ sent, (s.proxy.onForward f e).1 = .response sent := by
    rw [hstep] at hanswer
    cases ho : (s.proxy.onForward f e).1 with
    | response sent => exact ⟨sent, rfl⟩
    | streaming | none | crashed =>
      rw [ho] at hanswer
      cases hanswer
  obtain ⟨why, hnoted, hfailed⟩ := Proxy.fails_onForward hsent
  rw [← hresumes.decision] at hfinds hproxied
  rw [Reply.failure_eq _ hfinds hproxied] at hfailed
  refine ⟨why, ?_, ?_⟩
  · rw [hproxy, hnoted, hresumes.id]
  · rw [hstep, hfailed, ← shown_resumes hresumes]
    rfl

/-- The pages that the mapper has at the time of the decision are those that are shown. -/
theorem shows_of_finds (hheld : s.proxy.Held) (hpages : s.proxy.pages = pages)
    (hreaches : reachesProxy r.head.uri = true)
    (hfinds : (s.proxy.decider connection (named r fresh)).Finds
      (s.proxy.contextFor connection (named r fresh)).decision missing broken) :
    s.Shows (.request connection r fresh) pages (s.proxy.contextFor connection (named r fresh))
      missing broken := by
  subst hpages
  have hanswered := s.answer_request connection fresh hreaches
  have hproxy := s.proxy_request connection fresh hreaches
  refine ⟨fun haction => ?_, fun haction => ?_, fun hlost => ?_, fun why hnoted => ?_,
    fun es e answer => ?_⟩
  · rw [hanswered]
    exact congrArg (deliver _) (Proxy.act_notFound _ hfinds haction r.body)
  · rw [hanswered]
    exact congrArg (deliver _) (Proxy.act_internalError _ hfinds haction r.body)
  · rw [hanswered]
    exact congrArg (deliver _) (Proxy.act_misdirected _ hfinds hlost r.body)
  · rw [hproxy] at hnoted
    obtain ⟨hforwards, hfails⟩ := Proxy.fails_receive hnoted
    rw [Reply.failure_eq _ hfinds hforwards] at hfails
    rw [hanswered]
    exact congrArg (deliver _) hfails
  · intro u hanswer
    have hu : u.proxy = (s.proxy.receive connection (named r fresh)).2.after
        (es.flatMap Event.changes) := by rw [proxy_run, hproxy]
    have hpages : u.proxy.pages = s.proxy.pages :=
      (pages_run _ es).trans (s.pages_run [.request connection r fresh])
    rw [← hpages]
    exact fails_forward (fun f hf => hheld.decided_later _ (hu ▸ hf)) hfinds hanswer

end

/-- Let a request come in while the mapper in place is the route table of a configuration, whatever
the server has been through. If nothing is found for it, or it cannot be answered now or later, it
is answered with the page of the route that the configuration chooses for it, else with that of the
site, else with the generic one. A request that meets no route gets the page of the site in place of
that of its route, unless there is a route with the name that such requests have. -/
theorem pages_of_requests {c : Config} {pages : Pages} {nowMs : Nat} {start : Server}
    (hbuild : build c pages nowMs = .ok start) (es : List Event) (connection : Connection)
    (r : Incoming) (fresh : Bytes) (hroutes : (ruling c es).routing.mapper = "routes")
    (hreaches : reachesProxy r.head.uri = true) :
    let s := start.run es
    let c' := ruling c es
    let view := (named r fresh).head.view connection.isSecure
    ∃ missing broken, c'.PageFor view (·.notFoundPage) c'.pages.notFound missing ∧
      c'.PageFor view (·.internalErrorPage) c'.pages.internalError broken ∧
      s.Shows (.request connection r fresh) pages (s.proxy.contextFor connection (named r fresh))
        missing broken := by
  intro s c' view
  have hruled : s.Ruled c' := (ruled_build hbuild).run es
  have hof := hruled.routes hroutes
  let available : Endpoint → Bool := fun e => s.proxy.health.isAvailable e s.proxy.nowMs
  obtain ⟨d, hd, _⟩ := hof.map_cases view available
  have hdecision : (s.proxy.contextFor connection (named r fresh)).decision = d := by
    change (s.proxy.mapper.map view available).1.getD .noRoute = d
    rw [hd]
    rfl
  have hpages : s.proxy.pages = pages := by
    obtain ⟨_, mapper, _, rfl⟩ := eq_of_build hbuild
    exact pages_run _ es
  obtain ⟨missing, broken, hmissing, hbroken, hfinds⟩ :=
    hof.page_choice (hof.asked view available) hruled.valid hd
  rw [← hdecision] at hfinds
  exact ⟨missing, broken, hmissing, hbroken, shows_of_finds hruled.held hpages hreaches hfinds⟩

theorem pages_of_requests_removed_route :
    let site : Config.Route :=
      { name := "site", pathPrefix := some "/app", backendGroup := some "web"
        internalErrorPage := some ⟨500, "broken.html"⟩ }
    let c : Config := {
      backends := [⟨"a", "web", "10.0.0.1:80"⟩]
      routes := [site]
      pages := { notFound := some ⟨404, "none.html"⟩ } }
    let ask (path : String) : Incoming :=
      ⟨⟨"GET", ⟨none, none, path, none⟩, .http11, .empty⟩, []⟩
    let fails (start : Server) : Outcome :=
      ((start.run [.request default (ask "/app") [], .reload {}]).step
        (.forward start.proxy.nextId (.exchangeFails "reset"))).1
    ∃ start, build c .empty 0 = .ok start ∧
      (start.step (.request default (ask "/") [])).1 =
        shown .empty (start.proxy.contextFor default (named (ask "/") []))
          (some ⟨404, some "none.html", []⟩) 404 ∧
      fails start = shown .empty (start.proxy.contextFor default (named (ask "/app") []))
        (some ⟨500, some "broken.html", []⟩) 500 := by
  intro site c ask fails
  have hrun : (build c .empty 0).toOption.map (fun start =>
      let u := start.run [.request default (ask "/app") [], .reload {}]
      let u' := (u.step (.forward start.proxy.nextId (.exchangeFails "reset"))).2
      ((start.proxy.contextFor default (named (ask "/") [])).decision.action,
        (match fails start with | .response answer => some answer | _ => none).isSome,
        u.proxy.failures, u'.proxy.failures.map fun why => why.2.status)) =
          some (.notFound, true, [], [500]) := by
    decide +kernel
  obtain ⟨start, hbuild, hrun⟩ := exists_ok_of_map hrun
  obtain ⟨haction, hrest⟩ := Prod.mk.inj hrun
  obtain ⟨hanswer, hrest⟩ := Prod.mk.inj hrest
  obtain ⟨hbefore, hafter⟩ := Prod.mk.inj hrest
  refine ⟨start, hbuild, ?_, ?_⟩
  · obtain ⟨missing, _, hmissing, _, hshows⟩ :=
      pages_of_requests hbuild [] default (ask "/") [] rfl (by decide +kernel)
    have hsite : missing = some ⟨404, some "none.html", []⟩ := by
      refine hmissing.unmatched (fun rc hrc hmeets => ?_) (by simp [ruling, c, site])
      have hmet := Config.Route.isMet_iff.2 hmeets
      rw [List.mem_singleton.1 hrc] at hmet
      exact absurd hmet (by decide +kernel)
    exact hsite ▸ hshows.notFound haction
  · obtain ⟨_, broken, _, hbroken, hshows⟩ :=
      pages_of_requests hbuild [] default (ask "/app") [] rfl (by decide +kernel)
    have hown : broken = some ⟨500, some "broken.html", []⟩ := by
      refine hbroken.chosen 0 site ⟨rfl, Config.Route.isMet_iff.1 (by decide +kernel), ?_⟩
      intro j other hj
      rcases j with _ | j <;> cases hj
      exact fun _ => by decide
    obtain ⟨answer, hfails⟩ : ∃ answer, fails start = .response answer := by
      split at hanswer
      · next answer heq => exact ⟨answer, heq⟩
      · cases hanswer
    obtain ⟨why, hnoted, hshown⟩ :=
      hshows.failsLater [.reload {}] (.exchangeFails "reset") answer hfails
    have hstatus : why.status = 500 := by
      have hnothing : ((start.step (.request default (ask "/app") [])).2.run
          [.reload {}]).proxy.failures = [] := hbefore
      change _ = ((start.step (.request default (ask "/app") [])).2.run
          [.reload {}]).proxy.failures ++ _ at hnoted
      rw [hnothing] at hnoted
      have hall := (congrArg (List.map fun x => x.2.status) hnoted).symm.trans hafter
      exact (List.cons.inj hall).1
    rw [hstatus, if_pos rfl, hown] at hshown
    exact hshown

/-- A request that meets no route is answered with the page of a route that has the name of such
requests. -/
theorem unmatched_shows_route_page :
    let old : Config.Route :=
      { name := "unmatched", pathPrefix := some "/old", action := .notFound
        notFoundPage := some ⟨410, "gone.html"⟩ }
    let c : Config := { routes := [old] }
    let pages := Pages.empty.insert "gone.html" (Bytes.ofText "gone")
    let r : Incoming := ⟨⟨"GET", ⟨none, none, "/", none⟩, .http11, .empty⟩, []⟩
    c.Valid ∧ c.routing.mapper = "routes" ∧ c.pages.notFound = none ∧
      (∀ rc ∈ c.routes, ¬rc.Meets (r.head.view false)) ∧
      ∃ start, build c pages 0 = .ok start ∧
        ∃ answer, (start.step (.request default r [])).1 = .response answer ∧
          answer.status = 410 ∧ answer.body = Bytes.ofText "gone" := by
  intro old c pages r
  have hrun : (build c pages 0).toOption.map (fun start =>
      match (start.step (.request default r [])).1 with
      | .response answer => some (answer.status, answer.body)
      | _ => none) = some (some (410, Bytes.ofText "gone")) := by decide +kernel
  obtain ⟨start, hbuild, hanswer⟩ := exists_ok_of_map hrun
  refine ⟨by decide +kernel, rfl, rfl, fun rc hrc hmeets => ?_, start, hbuild, ?_⟩
  · have hmet := Config.Route.isMet_iff.2 hmeets
    rw [List.mem_singleton.1 hrc] at hmet
    exact absurd hmet (by decide +kernel)
  · split at hanswer
    · next answer heq =>
      obtain ⟨hstatus, hbody⟩ := Prod.mk.inj (Option.some.inj hanswer)
      exact ⟨answer, heq, hstatus, hbody⟩
    · cases hanswer

end Server
end ReverseProxy
