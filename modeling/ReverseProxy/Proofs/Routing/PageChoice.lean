import ReverseProxy.Proofs.Routing.Selection

set_option autoImplicit false

namespace ReverseProxy.Config
open ReverseProxy.Routing

/-- The page for a request: that of its route, else that of the site. A request without a route has
the name `unmatched`, and a route that is called so lends it its page. -/
structure PageFor (c : Config) (view : RequestView) (own : Route → Option Page)
    (site : Option Page) (spec : Option PageSpec) : Prop where
  chosen : ∀ i rc, Chosen c.routes view i rc → spec = ((own rc).or site).map compilePage
  unmatched : (∀ rc ∈ c.routes, ¬rc.Meets view) → (∀ rc ∈ c.routes, rc.name ≠ "unmatched") →
    spec = site.map compilePage
  namesake : (∀ rc ∈ c.routes, ¬rc.Meets view) → ∀ rc ∈ c.routes, rc.name = "unmatched" →
    spec = ((own rc).or site).map compilePage

theorem Valid.eq_of_name {c : Config} (h : c.Valid) {a b : Route} (ha : a ∈ c.routes)
    (hb : b ∈ c.routes) (hname : a.name = b.name) : a = b := by
  unfold Valid findings at h
  simp only [List.append_eq_nil_iff] at h
  obtain ⟨⟨⟨_, hroutes⟩, _⟩, _⟩ := h
  have hfirst {i : Nat} (hi : i < c.routes.length) :
      ∀ r ∈ c.routes.take i, r.name ≠ c.routes[i].name := by
    have hfound := check_getElem hroutes hi
    simp only [routeFindings, List.append_eq_nil_iff, when_eq_nil] at hfound
    obtain ⟨⟨⟨⟨⟨⟨hfree, _⟩, _⟩, _⟩, _⟩, _⟩, _⟩ := hfound
    intro r hr heq
    have hany : (c.routes.take i).any (·.name == c.routes[i].name) = true :=
      List.any_eq_true.2 ⟨r, hr, beq_iff_eq.2 heq⟩
    rw [hfree] at hany
    cases hany
  obtain ⟨i, hi, rfl⟩ := List.mem_iff_getElem.1 ha
  obtain ⟨j, hj, rfl⟩ := List.mem_iff_getElem.1 hb
  have hless {i j : Nat} (hi : i < c.routes.length) (hj : j < c.routes.length) (hij : i < j) :
      c.routes[i].name ≠ c.routes[j].name :=
    hfirst hj _ (List.mem_take_iff_getElem.2 ⟨i, by omega, rfl⟩)
  rcases Nat.lt_trichotomy i j with hij | rfl | hij
  · exact absurd hname (hless hi hj hij)
  · rfl
  · exact absurd hname.symm (hless hj hi hij)

end ReverseProxy.Config

namespace ReverseProxy.Routing.Mapper

/-- The pages that are looked up for a request that is not found or not answered. -/
structure Finds (m : Mapper) (d : Decision) (missing broken : Option PageSpec) : Prop where
  missing : d.action = .notFound → d.page.or (m.notFoundPage d.routeId) = missing
  broken : d.action ≠ .acmeChallenge →
    (if d.action = .internalError then d.page else none).or (m.internalErrorPage d.routeId) = broken

section
variable {c : Config} {m n : Mapper} {id : String} {rc : Config.Route} {view : RequestView}
  {available : Endpoint → Bool} {d : Decision}

theorem OfRoutes.route?_cases (h : OfRoutes c m) (id : String) :
    (m.route? id = none ∧ ∀ rc ∈ c.routes, rc.name ≠ id) ∨
      ∃ rc r, m.route? id = some r ∧ rc ∈ c.routes ∧ rc.name = id ∧ Route.Renders rc r := by
  obtain ⟨rs, hrules, hrendered⟩ := h.rules
  have hsame (rc : Config.Route) (r : Route) (hr : Route.Renders rc r) :
      (r.name == id) = (rc.name == id) := by rw [hr.name]
  unfold Mapper.route?
  rw [hrules]
  rcases find?_forall₂ hrendered hsame with ⟨hnone, hall⟩ | ⟨rc, r, hfind, hsome, hr⟩
  · refine .inl ⟨hnone, fun rc hrc hname => ?_⟩
    exact List.find?_eq_none.1 hall rc (List.mem_mergeSort.2 hrc) (beq_iff_eq.2 hname)
  · have hname := List.find?_some hsome
    exact .inr ⟨rc, r, hfind, List.mem_mergeSort.1 (List.mem_of_find?_eq_some hsome),
      beq_iff_eq.1 hname, hr⟩

theorem OfRoutes.pages_of_mem (h : OfRoutes c m) (hc : c.Valid) (hrc : rc ∈ c.routes) :
    m.notFoundPage rc.name = (rc.notFoundPage.or c.pages.notFound).map compilePage ∧
      m.internalErrorPage rc.name =
        (rc.internalErrorPage.or c.pages.internalError).map compilePage := by
  rcases h.route?_cases rc.name with ⟨_, hnone⟩ | ⟨other, r, hr, hother, hname, hrenders⟩
  · exact absurd rfl (hnone rc hrc)
  · rw [hc.eq_of_name hother hrc hname] at hrenders
    simp only [notFoundPage, internalErrorPage, hr, Option.bind_some, h.pages, SitePages.ofConfig,
      hrenders.notFound, hrenders.internalError, Option.map_or, and_self]

theorem OfRoutes.pages_of_free (h : OfRoutes c m) (hfree : ∀ rc ∈ c.routes, rc.name ≠ id) :
    m.notFoundPage id = c.pages.notFound.map compilePage ∧
      m.internalErrorPage id = c.pages.internalError.map compilePage := by
  rcases h.route?_cases id with ⟨hnone, _⟩ | ⟨rc, r, _, hrc, hname, _⟩
  · simp only [notFoundPage, internalErrorPage, hnone, Option.bind_none, Option.none_or, h.pages,
      SitePages.ofConfig, and_self]
  · exact absurd hname (hfree rc hrc)

theorem pageFor_of_chosen {own : Config.Route → Option Config.Page} {site : Option Config.Page}
    {i : Nat} (h : Config.Chosen c.routes view i rc) :
    c.PageFor view own site (((own rc).or site).map compilePage) := by
  have hmet : ¬∀ rc ∈ c.routes, ¬rc.Meets view := fun hnone =>
    hnone rc (List.mem_of_getElem? h.held) h.meets
  refine ⟨fun j other hother => ?_, fun hnone => absurd hnone hmet, fun hnone => absurd hnone hmet⟩
  rw [(h.unique hother).2]

theorem OfRoutes.pageFor_of_unmatched (h : OfRoutes c m) (hc : c.Valid)
    (hnone : ∀ rc ∈ c.routes, ¬rc.Meets view) :
    c.PageFor view (·.notFoundPage) c.pages.notFound (m.notFoundPage "unmatched") ∧
      c.PageFor view (·.internalErrorPage) c.pages.internalError
        (m.internalErrorPage "unmatched") := by
  have hchosen {i : Nat} {rc : Config.Route} : ¬Config.Chosen c.routes view i rc := fun hchosen =>
    hnone rc (List.mem_of_getElem? hchosen.held) hchosen.meets
  refine ⟨⟨fun i rc h => absurd h hchosen, fun _ hfree => (h.pages_of_free hfree).1,
    fun _ rc hrc hname => ?_⟩, ⟨fun i rc h => absurd h hchosen,
    fun _ hfree => (h.pages_of_free hfree).2, fun _ rc hrc hname => ?_⟩⟩
  · exact hname ▸ (h.pages_of_mem hc hrc).1
  · exact hname ▸ (h.pages_of_mem hc hrc).2

theorem OfRoutes.finds_of_follows (h : OfRoutes c m) (hc : c.Valid) (hrc : rc ∈ c.routes)
    (hd : d.Follows c rc) :
    m.Finds d ((rc.notFoundPage.or c.pages.notFound).map compilePage)
      ((rc.internalErrorPage.or c.pages.internalError).map compilePage) := by
  have hagain (own site : Option Config.Page) :
      (own.map compilePage).or ((own.or site).map compilePage) =
        (own.or site).map compilePage := by
    cases own <;> rfl
  obtain ⟨hmissing, hbroken⟩ := h.pages_of_mem hc hrc
  rw [← hd.routeId] at hmissing hbroken
  constructor <;> rw [hd.action, hd.page, Config.Route.page?]
  · rw [hmissing]
    cases rc.action with
    | proxy | proxyAndCache | static | redirect | internalError => exact nofun
    | notFound => exact fun _ => hagain _ _
  · rw [hbroken]
    cases rc.action with
    | proxy | proxyAndCache | static | redirect | notFound => exact fun _ => rfl
    | internalError => exact fun _ => hagain _ _

/-- The pages that are looked up for a request are those that the configuration has for it, in the
mapper that decided about it and in any later one of the same configuration. -/
theorem OfRoutes.page_choice (h : OfRoutes c m) (hn : OfRoutes c n) (hc : c.Valid)
    (hd : (m.map view available).1 = some d) :
    ∃ missing broken, c.PageFor view (·.notFoundPage) c.pages.notFound missing ∧
      c.PageFor view (·.internalErrorPage) c.pages.internalError broken ∧
      n.Finds d missing broken := by
  obtain ⟨d', hd', hcases⟩ := h.map_cases view available
  cases hd'.symm.trans hd
  rcases hcases with ⟨token, _, rfl⟩ | ⟨_, ⟨i, rc, hchosen, hfollows⟩ | ⟨hnone, rfl⟩⟩
  · rcases Config.find?_byPriority c.routes view with ⟨i, rc, _, hchosen⟩ | ⟨_, hnone⟩
    · exact ⟨_, _, pageFor_of_chosen hchosen, pageFor_of_chosen hchosen, nofun, absurd rfl⟩
    · obtain ⟨hmissing, hbroken⟩ := hn.pageFor_of_unmatched hc hnone
      exact ⟨_, _, hmissing, hbroken, nofun, absurd rfl⟩
  · exact ⟨_, _, pageFor_of_chosen hchosen, pageFor_of_chosen hchosen,
      hn.finds_of_follows hc (List.mem_of_getElem? hchosen.held) hfollows⟩
  · obtain ⟨hmissing, hbroken⟩ := hn.pageFor_of_unmatched hc hnone
    exact ⟨_, _, hmissing, hbroken, fun _ => rfl, fun _ => rfl⟩

end

end ReverseProxy.Routing.Mapper
