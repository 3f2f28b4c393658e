import ReverseProxy.Proofs.Proxy.Replays
import ReverseProxy.Proofs.Redirect
import ReverseProxy.Proofs.Routing.Mutations
import ReverseProxy.Proofs.Routing.Redirects
import ReverseProxy.Proofs.Server.ErrorPages

set_option autoImplicit false

namespace ReverseProxy
open Request Routing

namespace Reply

theorem redirect_of_holdable (pages : Pages) (m : Mapper) {c : Context} {target : RedirectTarget}
    (htarget : c.decision.redirect = some target)
    (hstatus : Http.Status.isRedirection target.status = true)
    (h : Text.Holdable (Redirect.location target c.head.host
      (c.head.uri.pathAndQuery?.getD "/"))) :
    redirect pages m c = plain c ⟨target.status, Http.Headers.empty.insert "location"
      (Bytes.ofText (Redirect.location target c.head.host
        (c.head.uri.pathAndQuery?.getD "/"))), []⟩ := by
  unfold redirect
  rw [htarget, Option.getD_some]
  dsimp only
  rw [Bytes.headerValue?_of_holdable h, hstatus]
  rfl

end Reply

def Config.Route.redirectTarget (rc : Config.Route) : RedirectTarget :=
  (rc.redirect.map compileRedirect).getD {}

def Config.Route.redirectStatus (rc : Config.Route) : Nat :=
  ((rc.redirect.bind (·.status)).map UInt16.toNat).getD 302

section
variable {c : Config} {rc : Config.Route}

theorem Config.Valid.redirectStatus (h : c.Valid) (hrc : rc ∈ c.routes) :
    rc.redirectTarget.status = rc.redirectStatus ∧
      300 ≤ rc.redirectStatus ∧ rc.redirectStatus < 400 := by
  unfold Config.Route.redirectTarget Config.Route.redirectStatus
  cases hredirect : rc.redirect with
  | none => decide
  | some r =>
    have haccepted := h.accepted hrc hredirect
    cases hstatus : r.status with
    | none => simp [compileRedirect, hstatus]
    | some s =>
      obtain ⟨hlow, hhigh⟩ := haccepted.status s hstatus
      rw [UInt16.le_iff_toNat_le] at hlow
      rw [UInt16.lt_iff_toNat_lt] at hhigh
      change 300 ≤ s.toNat at hlow
      change s.toNat < 400 at hhigh
      have hread : Http.status? s.toNat = some s.toNat := if_pos (by omega)
      simp [compileRedirect, hstatus, hread, hlow, hhigh]

theorem Config.Valid.location_ne (h : c.Valid) (hrc : rc ∈ c.routes) :
    rc.redirectTarget.location ≠ some "" := by
  unfold Config.Route.redirectTarget
  cases hredirect : rc.redirect with
  | none => nofun
  | some r =>
    intro hempty
    have hchecked := (h.accepted hrc hredirect).location "" hempty
    revert hchecked
    decide +kernel

end

theorem Routing.Decision.Follows.redirects {d : Decision} {c : Config} {rc : Config.Route}
    (h : d.Follows c rc) (haction : rc.action = .redirect) :
    d.action = .redirect ∧ d.redirect = some rc.redirectTarget := by
  refine ⟨by rw [h.action, haction]; rfl, ?_⟩
  rw [h.redirect, if_pos haction]
  rfl

theorem Proxy.act_redirect (p : Proxy) (m : Mapper) {c : Context}
    (haction : c.decision.action = .redirect) (body : Bytes) :
    (p.act m c body).1 = .response (c.dressed (Reply.redirect p.pages m c)) := by
  unfold act
  rw [haction]
  rfl

theorem Proxy.decision_of_chosen {p : Proxy} {c : Config} (h : p.mapper.OfRoutes c)
    {connection : Connection} {r : Incoming} {i : Nat} {rc : Config.Route}
    (hchosen : Config.Chosen c.routes (r.head.view connection.isSecure) i rc)
    (hnot : ¬∃ token, (r.head.view connection.isSecure).Challenges token) :
    (p.contextFor connection r).decision.Follows c rc := by
  obtain ⟨d, hd, hcases⟩ := h.map_cases (r.head.view connection.isSecure)
    fun e => p.health.isAvailable e p.nowMs
  have hdecision : (p.contextFor connection r).decision = d := by
    change (p.mapper.map _ _).1.getD .noRoute = d
    rw [hd]
    rfl
  rw [hdecision]
  rcases hcases with ⟨token, hasks, _⟩ | ⟨_, ⟨j, other, hother, hfollows⟩ | ⟨hnone, _⟩⟩
  · exact absurd ⟨token, hasks⟩ hnot
  · rwa [← (hother.unique hchosen).2]
  · exact absurd hchosen.meets (hnone rc (List.mem_of_getElem? hchosen.held))

namespace Server

/-- Let a request whose target was read come in while the mapper in place is the route table of a
configuration, whatever the server has been through, and let a redirect route be chosen for it. The
status of the route is one of redirects. If the configured text of the location, which is all of it
or its host, has no control characters but tabs, the request is answered with this status and the
location, up to the changes that the route makes to this header. Otherwise it is answered with the
page for internal errors. -/
theorem redirects_of_requests {c : Config} {pages : Pages} {nowMs : Nat} {start : Server}
    (hbuild : build c pages nowMs = .ok start) (es : List Event)
    (hroutes : (ruling c es).routing.mapper = "routes") (connection : Connection) (r : Incoming)
    {text : String} (hread : Http.Uri.parse text = .ok r.head.uri) {i : Nat} {rc : Config.Route}
    (hchosen : Config.Chosen (ruling c es).routes (r.head.view connection.isSecure) i rc)
    (hnot : ¬∃ token, (r.head.view connection.isSecure).Challenges token)
    (haction : rc.action = .redirect) :
    let p := (start.run es).proxy
    let location := Redirect.location rc.redirectTarget r.head.host
      (r.head.uri.pathAndQuery?.getD "/")
    (300 ≤ rc.redirectStatus ∧ rc.redirectStatus < 400) ∧
    (Text.Holdable (Redirect.configured rc.redirectTarget) →
      ∃ answer changes, (p.receive connection r).1 = .response answer ∧
        answer.status = rc.redirectStatus ∧ answer.body = [] ∧
        compileMutations? rc.headers = some changes ∧
        answer.headers.getAll "location" =
          changed changes "location" [Bytes.ofText location]) ∧
    (¬Text.Holdable (Redirect.configured rc.redirectTarget) →
      (p.receive connection r).1 = .response ((p.contextFor connection r).dressed
        (Reply.page pages (p.contextFor connection r)
          ((rc.internalErrorPage.or (ruling c es).pages.internalError).map compilePage) 500))) := by
  intro p location
  have hruled : (start.run es).Ruled (ruling c es) := (ruled_build hbuild).run es
  have hof := hruled.routes hroutes
  have hmem : rc ∈ (ruling c es).routes := List.mem_of_getElem? hchosen.held
  have hpages : p.pages = pages := by
    obtain ⟨_, mapper, _, rfl⟩ := eq_of_build hbuild
    exact pages_run _ es
  have hfollows := Proxy.decision_of_chosen hof hchosen hnot
  obtain ⟨haction', htarget⟩ := hfollows.redirects haction
  obtain ⟨hstatus, hrange⟩ := hruled.valid.redirectStatus hmem
  have hheld : Text.Holdable location ↔ Text.Holdable (Redirect.configured rc.redirectTarget) :=
    Redirect.holdable_location_iff (hruled.valid.location_ne hmem)
      (r.head.plain_host fun a ha => Http.Uri.authority?_of_parse hread ha)
      (Http.Uri.wellFormed_of_parse hread)
  refine ⟨hrange, fun h => ?_, fun h => ?_⟩
  · have hanswer : (p.receive connection r).1 = .response ((p.contextFor connection r).dressed _) :=
      Proxy.act_redirect _ (p.decider connection r) haction' r.body
    have hredirection : Http.Status.isRedirection rc.redirectTarget.status = true := by
      rw [hstatus]
      simpa [Http.Status.isRedirection] using hrange
    rw [Reply.redirect_of_holdable _ _ htarget hredirection (hheld.2 h)] at hanswer
    refine ⟨_, _, hanswer, hstatus, rfl, hfollows.headers, ?_⟩
    unfold Context.dressed
    dsimp only
    rw [getAll_applyMutations, Reply.getAll_plain _ _ (by decide) (by decide),
      Http.Headers.getAll_insert, if_pos rfl]
    rfl
  · have hfinds := (hof.asked (r.head.view connection.isSecure)
      fun e => p.health.isAvailable e p.nowMs).finds_of_follows hruled.valid hmem hfollows
    have hlost : (p.contextFor connection r).Misdirected := by
      refine ⟨haction', ?_⟩
      rw [htarget, Option.getD_some]
      exact Option.not_isSome_iff_eq_none.1 (mt Bytes.isSome_headerValue?_iff.1 (mt hheld.1 h))
    rw [← hpages]
    exact Proxy.act_misdirected _ hfinds hlost r.body

theorem redirects_of_requests_permanent :
    let moved : Config.Redirect :=
      { scheme := "https", host := some "new.test", status := some 308 }
    let site : Config.Route := { name := "site", action := .redirect, redirect := some moved }
    let c : Config := { routes := [site] }
    let headers := Http.Headers.empty.append "host" (Bytes.ofText "old.test:8080")
    let r : Incoming := ⟨⟨"GET", ⟨none, none, "/a", some "x=1"⟩, .http11, headers⟩, []⟩
    ∃ start, build c .empty 0 = .ok start ∧
      ∃ answer, (start.proxy.receive default r).1 = .response answer ∧ answer.status = 308 ∧
        answer.body = [] ∧
        answer.headers.getAll "location" = [Bytes.ofText "https://new.test/a?x=1"] := by
  intro moved site c headers r
  obtain ⟨start, hbuild, _⟩ : ∃ start, build c .empty 0 = .ok start ∧ true = true :=
    exists_ok_of_map (by decide +kernel)
  have hread : Http.Uri.parse "/a?x=1" = .ok r.head.uri := by decide +kernel
  have hchosen : Config.Chosen (ruling c []).routes (r.head.view false) 0 site := by
    refine ⟨rfl, Config.Route.isMet_iff.1 (by decide +kernel), fun j other hj _ => ?_⟩
    rcases j with _ | j <;> cases hj
    decide
  have hnot : ¬∃ token, (r.head.view false).Challenges token := fun ⟨token, hasks⟩ => by
    have hnone : Mapper.acmeResource? (r.head.view false).path = none := by decide +kernel
    rw [acmeResource?_eq_some_iff.2 ⟨token, hasks, rfl⟩] at hnone
    cases hnone
  obtain ⟨_, hanswers, _⟩ :=
    redirects_of_requests hbuild [] rfl default r hread hchosen hnot rfl
  obtain ⟨answer, changes, hanswer, hstatus, hbody, hchanges, hlocation⟩ :=
    hanswers (by decide +kernel)
  cases hchanges
  refine ⟨start, hbuild, answer, hanswer, hstatus, hbody, hlocation.trans ?_⟩
  decide +kernel

/-- Redirects that validation takes and that are answered with an error: a line ends behind a URL,
and another one in a host. -/
theorem accepted_redirects_fail :
    let configured (redirect : Config.Redirect) : Config := { routes := [
      { name := "site", action := .redirect, redirect := some redirect }] }
    let broken : Config.Redirect := { location := some "https://elsewhere.test/new\n" }
    let split : Config.Redirect := { host := some "a\nb" }
    let r : Incoming := ⟨⟨"GET", ⟨none, none, "/a", none⟩, .http11,
      Http.Headers.empty.append "host" (Bytes.ofText "site.test")⟩, []⟩
    let answers (redirect : Config.Redirect) :=
      (build (configured redirect) .empty 0).toOption.map fun start =>
        match (start.proxy.receive default r).1 with
        | .response answer => some (answer.status, answer.headers.getAll "location")
        | _ => none
    (configured broken).Valid ∧ answers broken = some (some (500, [])) ∧
      (configured split).Valid ∧ answers split = some (some (500, [])) := by
  decide +kernel

end Server
end ReverseProxy
