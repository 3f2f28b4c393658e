import ReverseProxy.Proofs.Routing.Priorities
import ReverseProxy.Proofs.Routing.Targets

set_option autoImplicit false

/-!
# What a route table decides

A table that was built from a configuration decides about a request what the configuration says
about its route. A certificate challenge goes before all routes, and a request without a route is
not found.
-/
namespace ReverseProxy.Config
open ReverseProxy.Routing

def RouteAction.decided : RouteAction → Action
  | .proxy => .proxy
  | .proxyAndCache => .proxyAndCache
  | .static => .static
  | .redirect => .redirect
  | .notFound => .notFound
  | .internalError => .internalError

def Route.page? (rc : Route) : Option PageSpec :=
  match rc.action with
  | .notFound => rc.notFoundPage.map compilePage
  | .internalError => rc.internalErrorPage.map compilePage
  | _ => none

end ReverseProxy.Config

namespace ReverseProxy.Routing

structure RequestView.Challenges (view : RequestView) (token : String) : Prop where
  path : view.path = "/.well-known/acme-challenge/" ++ token
  filled : token ≠ ""
  plain : '/' ∉ token.toList

def Decision.challenge (token : String) : Decision :=
  { action := .acmeChallenge, routeId := "acme"
    resource := some (".well-known/acme-challenge/" ++ token) }

theorem acmeResource?_eq_some_iff {view : RequestView} {resource : String} :
    Mapper.acmeResource? view.path = some resource ↔ ∃ token, view.Challenges token ∧
      resource = ".well-known/acme-challenge/" ++ token := by
  have hstrip (token : String) : Text.stripStart? Mapper.acmePrefix view.path = some token ↔
      view.path = "/.well-known/acme-challenge/" ++ token := by
    rw [Text.stripStart?, Option.map_eq_some_iff]
    simp only [Chars.stripStart?_eq_some_iff]
    rw [← String.toList_inj, String.toList_append]
    constructor
    · rintro ⟨rest, hrest, rfl⟩
      exact hrest.trans (congrArg (Mapper.acmePrefix.toList ++ ·) String.toList_ofList.symm)
    · intro hpath
      exact ⟨token.toList, hpath, String.ofList_toList⟩
  have htrim (token : String) : Text.trimStartOf '/' ("/.well-known/acme-challenge/" ++ token) =
      ".well-known/acme-challenge/" ++ token := by
    rw [Text.trimStartOf, ← String.toList_inj, String.toList_ofList, String.toList_append,
      String.toList_append]
    rfl
  unfold Mapper.acmeResource?
  constructor
  · intro h
    split at h
    · next token htoken =>
      split at h
      · next hasked =>
        have hpath := (hstrip token).1 htoken
        have hplain : '/' ∉ token.toList := fun hmem => hasked.2 (List.contains_iff_mem.2 hmem)
        rw [hpath, htrim, Option.some.injEq] at h
        exact ⟨token, ⟨hpath, hasked.1, hplain⟩, h.symm⟩
      · cases h
    · cases h
  · rintro ⟨token, hasks, rfl⟩
    have hplain : ¬token.toList.contains '/' = true := fun h =>
      hasks.plain (List.contains_iff_mem.1 h)
    rw [(hstrip token).2 hasks.path]
    dsimp only
    rw [if_pos ⟨hasks.filled, hplain⟩, hasks.path, htrim]

structure Route.Renders (rc : Config.Route) (r : Route) : Prop extends Route.Compiles rc r where
  name : r.name = rc.name
  headers : compileMutations? rc.headers = some r.headers
  resource : r.resource = rc.resource
  redirect : r.redirect = rc.redirect.map compileRedirect
  notFound : r.notFound = rc.notFoundPage.map compilePage
  internalError : r.internalError = rc.internalErrorPage.map compilePage

/-- What the configuration says that is to be done for one of its routes. -/
structure Decision.Follows (d : Decision) (c : Config) (rc : Config.Route) : Prop where
  action : d.action = rc.action.decided
  routeId : d.routeId = rc.name
  resource : d.resource = if rc.action = .static then rc.resource else none
  redirect : d.redirect =
    if rc.action = .redirect then some ((rc.redirect.map compileRedirect).getD {}) else none
  page : d.page = rc.page?
  headers : compileMutations? rc.headers = some d.headers
  target : if rc.action.isProxy = true then
      ∃ g e, rc.backendGroup = some g ∧ e ∈ members c.backends g ∧ d.target = some e
    else d.target = none

theorem Route.renders_compile {gs : Groups} {rc : Config.Route} {r : Route}
    (h : Route.compile gs rc = .ok r) : Route.Renders rc r ∧ (rc.action.isProxy = true →
      ∃ g, rc.backendGroup = some g ∧ (gs.find? g).isSome = true) := by
  unfold Route.compile at h
  obtain ⟨group, hcheck, h⟩ := bind_ok h
  split at h
  · cases h
  next headers hheaders =>
  cases h
  unfold Route.checkGroup at hcheck
  have hmet (view : RequestView) : allHold view ((rc.host.map Condition.ofHost).toList ++
      (rc.pathPrefix.map Condition.pathPrefix).toList) = rc.isMet view := by
    cases hhost : rc.host <;> cases hpath : rc.pathPrefix <;>
      simp [allHold, Config.Route.isMet, hhost, hpath]
  split at hcheck
  · next name hname =>
    split at hcheck
    · next hfound =>
      cases hcheck
      exact ⟨⟨⟨rfl, hname.symm, hmet⟩, rfl, hheaders, rfl, rfl, rfl, rfl⟩,
        fun _ => ⟨name, hname, hfound⟩⟩
    · cases hcheck
  · next hnone =>
    split at hcheck
    · cases hcheck
    · next hplain =>
      cases hcheck
      exact ⟨⟨⟨rfl, hnone.symm, hmet⟩, rfl, hheaders, rfl, rfl, rfl, rfl⟩,
        fun hproxy => absurd hproxy hplain⟩

theorem Groups.hold_of_ofBackends {bs : List Config.Backend} {gs : Groups}
    (h : ofBackends bs = .ok gs) : gs.Hold (members bs) := by
  have hparsed : ∀ b ∈ bs, ∃ e, Endpoint.parse b.address = .ok e := by
    unfold ofBackends at h
    generalize ([] : Groups) = start at h
    induction bs generalizing start with
    | nil => exact nofun
    | cons b bs ih =>
      rw [List.foldlM_cons] at h
      obtain ⟨next, hnext, h⟩ := bind_ok h
      intro a ha
      rcases List.mem_cons.1 ha with rfl | ha
      · cases he : Endpoint.parse a.address with
        | ok e => exact ⟨e, rfl⟩
        | error cause =>
          rw [he] at hnext
          cases hnext
      · exact ih next h a ha
  obtain ⟨gs', hgs', hold⟩ := hold_ofBackends hparsed
  cases hgs'.symm.trans h
  exact hold

namespace Mapper

/-- A mapper for the routes of `c` after any calls: only the turns of its groups have moved. -/
structure OfRoutes (c : Config) (m : Mapper) : Prop where
  rules : ∃ rs, m.rules = .table rs ∧ List.Forall₂ Route.Renders (byPriority c.routes) rs
  groups : m.groups.Hold (members c.backends)
  targets : ∀ rc ∈ c.routes, rc.action.isProxy = true →
    ∃ g, rc.backendGroup = some g ∧ members c.backends g ≠ []
  pages : m.pages = .ofConfig c

section
variable {c : Config} {m : Mapper} {rc : Config.Route} {r : Route} {view : RequestView}
  {available : Endpoint → Bool}

theorem OfRoutes.of_ofRoutes (h : ofRoutes c = .ok m) : OfRoutes c m := by
  unfold ofRoutes at h
  obtain ⟨gs, hgs, h⟩ := bind_ok h
  obtain ⟨rs, hrs, h⟩ := bind_ok h
  cases h
  have hold := Groups.hold_of_ofBackends hgs
  have hrendered := (forall₂_of_mapM hrs).imp fun _ _ h => (Route.renders_compile h).1
  refine ⟨⟨rs, rfl, hrendered⟩, hold, fun rc hrc hproxy => ?_, rfl⟩
  obtain ⟨r, _, hcompile⟩ := exists_ok_of_mapM hrs (List.mem_mergeSort.2 hrc)
  obtain ⟨g, hg, hfound⟩ := (Route.renders_compile hcompile).2 hproxy
  refine ⟨g, hg, fun hnil => ?_⟩
  rw [(hold g).1 hnil] at hfound
  cases hfound

theorem OfRoutes.take (h : OfRoutes c m) (name : String) (available : Endpoint → Bool) :
    OfRoutes c (m.take name available).2 := by
  rcases snd_take m name available with hsame | ⟨g, hg, htake⟩
  · rw [hsame]
    exact h
  rw [htake]
  refine ⟨h.rules, fun other => ?_, h.targets, h.pages⟩
  by_cases ho : other = name
  · subst ho
    refine ⟨fun hnil => ?_, fun hne => ⟨(g.next available).2.turn, ?_⟩⟩
    · rw [(h.groups other).1 hnil] at hg
      cases hg
    · obtain ⟨turn, hturn⟩ := (h.groups other).2 hne
      cases hg.symm.trans hturn
      rw [Groups.find?_set, if_pos rfl]
      exact congrArg (fun es => some (Group.mk es _)) (Group.endpoints_next _ available)
  · rw [Groups.find?_set, if_neg ho]
    exact h.groups other

theorem OfRoutes.asked (h : OfRoutes c m) (view : RequestView) (available : Endpoint → Bool) :
    OfRoutes c (m.map view available).2 := by
  rcases snd_map m view available with hsame | ⟨name, htake⟩
  · rw [hsame]
    exact h
  · rw [htake]
    exact h.take name available

theorem OfRoutes.after (h : OfRoutes c m) (calls : List (RequestView × (Endpoint → Bool))) :
    OfRoutes c (m.after calls) := by
  induction calls generalizing m with
  | nil => exact h
  | cons call calls ih => exact ih (h.asked call.1 call.2)

theorem OfRoutes.follows (h : OfRoutes c m) (hrc : rc ∈ c.routes) (hr : Route.Renders rc r)
    (available : Endpoint → Bool) : (m.decide r available).1.Follows c rc := by
  obtain ⟨name, host, start, priority, action, group, resource, redirect, changes, notFound,
    internalError⟩ := rc
  have haction : r.action = action := hr.action
  unfold decide
  rw [haction]
  cases action with
  | proxy | proxyAndCache =>
    obtain ⟨g, hg, hne⟩ := h.targets _ hrc rfl
    obtain ⟨e, he, gs, _, htake⟩ := take_of_hold h.groups hne available
    have hgroup : r.group = some g := hr.group.trans hg
    simp only [hgroup, htake]
    exact ⟨rfl, hr.name, rfl, rfl, rfl, hr.headers, g, e, hg, he, rfl⟩
  | static => exact ⟨rfl, hr.name, hr.resource, rfl, rfl, hr.headers, rfl⟩
  | redirect =>
    have hredirect := congrArg (fun t => some (Option.getD t {})) hr.redirect
    exact ⟨rfl, hr.name, rfl, hredirect, rfl, hr.headers, rfl⟩
  | notFound => exact ⟨rfl, hr.name, rfl, rfl, hr.notFound, hr.headers, rfl⟩
  | internalError => exact ⟨rfl, hr.name, rfl, rfl, hr.internalError, hr.headers, rfl⟩

theorem OfRoutes.map_cases (h : OfRoutes c m) (view : RequestView) (available : Endpoint → Bool) :
    ∃ d, (m.map view available).1 = some d ∧
      ((∃ token, view.Challenges token ∧ d = .challenge token) ∨
        ((¬∃ token, view.Challenges token) ∧
          ((∃ i rc, Config.Chosen c.routes view i rc ∧ d.Follows c rc) ∨
            ((∀ rc ∈ c.routes, ¬rc.Meets view) ∧ d = Decision.notFound "unmatched")))) := by
  obtain ⟨rs, hrules, hrendered⟩ := h.rules
  unfold map
  rw [hrules]
  dsimp only
  cases hacme : acmeResource? view.path with
  | some resource =>
    obtain ⟨token, hasks, rfl⟩ := acmeResource?_eq_some_iff.1 hacme
    exact ⟨_, rfl, .inl ⟨token, hasks, rfl⟩⟩
  | none =>
    have hnot : ¬∃ token, view.Challenges token := fun ⟨token, hasks⟩ => by
      rw [acmeResource?_eq_some_iff.2 ⟨token, hasks, rfl⟩] at hacme
      cases hacme
    rcases find?_forall₂ hrendered fun _ _ hr => hr.isMet view with
      ⟨hfind, hnone⟩ | ⟨rc, r, hfind, hsome, hr⟩
    · rw [hfind]
      rcases Config.find?_byPriority c.routes view with ⟨_, _, hfound, _⟩ | ⟨_, hall⟩
      · rw [hnone] at hfound
        cases hfound
      · exact ⟨_, rfl, .inr ⟨hnot, .inr ⟨hall, rfl⟩⟩⟩
    · rw [hfind]
      rcases Config.find?_byPriority c.routes view with ⟨i, rc', hfound, hchosen⟩ | ⟨hfound, _⟩
      · cases hsome.symm.trans hfound
        have hmem : rc ∈ c.routes := List.mem_of_getElem? hchosen.held
        exact ⟨_, rfl, .inr ⟨hnot, .inl ⟨i, rc, hchosen, h.follows hmem hr available⟩⟩⟩
      · cases hsome.symm.trans hfound

end

/-- Let a route table be built from a configuration, and let it have decided about any requests
before. A path that is the challenge prefix and a token gets the challenge with that token, whatever
the routes are. Every other request gets the decision of the one route that the configuration
chooses for it, with everything that is configured there, or is not found if it meets no route. -/
theorem decision_of_routes {c : Config} {m : Mapper} (hm : ofRoutes c = .ok m)
    (calls : List (RequestView × (Endpoint → Bool))) (view : RequestView)
    (available : Endpoint → Bool) :
    ∃ d, ((m.after calls).map view available).1 = some d ∧
      (∀ token, view.Challenges token → d =
        { action := .acmeChallenge, routeId := "acme"
          resource := some (".well-known/acme-challenge/" ++ token) }) ∧
      ((¬∃ token, view.Challenges token) →
        (∃ i rc, Config.Chosen c.routes view i rc ∧
          (∀ j other, Config.Chosen c.routes view j other → j = i ∧ other = rc) ∧
          d.Follows c rc) ∨
        ((∀ rc ∈ c.routes, ¬rc.Meets view) ∧
          d = { action := .notFound, routeId := "unmatched", headers := [] })) := by
  have hof := (OfRoutes.of_ofRoutes hm).after calls
  obtain ⟨d, hd, hcases⟩ := hof.map_cases view available
  refine ⟨d, hd, fun token hasks => ?_, fun hnot => ?_⟩
  · rcases hcases with ⟨other, hother, rfl⟩ | ⟨hnot, _⟩
    · have hpath := hasks.path.symm.trans hother.path
      rw [← String.toList_inj, String.toList_append, String.toList_append] at hpath
      rw [String.toList_inj.1 (List.append_cancel_left hpath)]
      rfl
    · exact absurd ⟨token, hasks⟩ hnot
  · rcases hcases with ⟨other, hother, _⟩ | ⟨_, ⟨i, rc, hchosen, hfollows⟩ | ⟨hnone, rfl⟩⟩
    · exact absurd ⟨other, hother⟩ hnot
    · exact .inl ⟨i, rc, hchosen, fun j other hother => hother.unique hchosen, hfollows⟩
    · exact .inr ⟨hnone, rfl⟩

/-- Two routes for one host share the highest priority, and the first of them is taken although
another route stands before both. A challenge is taken by none of them. -/
theorem decision_of_routes_shared :
    let every : Config.Route := { name := "every", action := .notFound }
    let site : Config.Route :=
      { name := "site", host := some "Site.test", priority := 5, backendGroup := some "web" }
    let shadowed : Config.Route := { site with name := "shadowed", action := .redirect }
    let c : Config :=
      { backends := [⟨"a", "web", "10.0.0.1:80"⟩], routes := [every, site, shadowed] }
    let headers := Http.Headers.empty.append "host" (Bytes.ofText "SITE.test:8080")
    let page : RequestView := ⟨"GET", ⟨none, none, "/page", none⟩, headers, false⟩
    let asked : RequestView :=
      ⟨"GET", ⟨none, none, "/.well-known/acme-challenge/x", none⟩, headers, false⟩
    ∃ m, ofRoutes c = .ok m ∧ ∀ calls available,
      (∃ d, ((m.after calls).map page available).1 = some d ∧ d.routeId = "site" ∧
        d.action = .proxy ∧ d.target = some ⟨"10.0.0.1", 80⟩) ∧
      ∃ d, ((m.after calls).map asked available).1 = some d ∧ d.action = .acmeChallenge := by
  intro every site shadowed c headers page asked
  have hvalid : c.Valid := by decide +kernel
  obtain ⟨m, hm, _⟩ := exists_build hvalid.routable
  rw [build, if_pos rfl] at hm
  refine ⟨m, hm, fun calls available => ⟨?_, ?_⟩⟩
  · have hnot : ¬∃ token, page.Challenges token := fun ⟨token, hasks⟩ => by
      have hnone : acmeResource? page.path = none := by decide +kernel
      rw [acmeResource?_eq_some_iff.2 ⟨token, hasks, rfl⟩] at hnone
      cases hnone
    have hmembers : members c.backends "web" = [⟨"10.0.0.1", 80⟩] := by decide +kernel
    have hchosen : Config.Chosen c.routes page 1 site := by
      refine ⟨rfl, Config.Route.isMet_iff.1 (by decide +kernel), fun j other hj _ => ?_⟩
      rcases j with _ | _ | _ | j <;> cases hj <;> decide
    obtain ⟨d, hd, _, hroute⟩ := decision_of_routes hm calls page available
    rcases hroute hnot with ⟨i, rc, _, hunique, hfollows⟩ | ⟨hnone, _⟩
    · obtain ⟨_, rfl⟩ := hunique 1 site hchosen
      obtain ⟨g, e, hg, he, htarget⟩ := hfollows.target
      cases hg
      rw [hmembers, List.mem_singleton] at he
      exact ⟨d, hd, hfollows.routeId, hfollows.action, he ▸ htarget⟩
    · exact absurd hchosen.meets (hnone site (by simp [c]))
  · obtain ⟨d, hd, hchallenge, _⟩ := decision_of_routes hm calls asked available
    have hasks : asked.Challenges "x" := ⟨rfl, by decide, by decide⟩
    exact ⟨d, hd, by rw [hchallenge "x" hasks]⟩

end Mapper

end ReverseProxy.Routing
