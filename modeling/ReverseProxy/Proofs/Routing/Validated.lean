import ReverseProxy.Config.Validation
import ReverseProxy.Proofs.Routing.Groups

set_option autoImplicit false

namespace ReverseProxy.Config

theorem when_eq_nil {bad : Bool} {field : String} {problem : Problem} :
    when bad field problem = [] ↔ bad = false := by
  cases bad <;> simp [when]

theorem check_getElem {α : Type} {check : List α → Nat → α → List Finding} {l : List α}
    (h : eachWithEarlier check l = []) {i : Nat} (hi : i < l.length) :
    check (l.take i) i l[i] = [] := by
  have hmem : (l[i], i) ∈ l.zipIdx :=
    List.mem_zipIdx_iff_getElem?.2 (List.getElem?_eq_getElem hi)
  exact List.flatten_eq_nil_iff.1 h _ (List.mem_map.2 ⟨_, hmem, rfl⟩)

theorem check_of_eachWithEarlier {α : Type} {check : List α → Nat → α → List Finding} {l : List α}
    (h : eachWithEarlier check l = []) {a : α} (ha : a ∈ l) :
    ∃ earlier i, check earlier i a = [] := by
  obtain ⟨i, hi, rfl⟩ := List.mem_iff_getElem.1 ha
  exact ⟨l.take i, i, check_getElem h hi⟩

/-- What is found in a valid configuration, part by part. -/
structure Routable (c : Config) : Prop where
  addresses : ∀ b ∈ c.backends, ∃ e, Endpoint.parse b.address = .ok e
  mapper : c.routing.mapper ∈ ReverseProxy.Routing.Mapper.names
  fixedGroup : c.routing.mapper = "fixed" →
    ∃ g, c.routing.fixedGroup = some g ∧ ReverseProxy.Routing.members c.backends g ≠ []
  groups : ∀ r ∈ c.routes, ∀ g, r.backendGroup = some g →
    ReverseProxy.Routing.members c.backends g ≠ []
  targets : ∀ r ∈ c.routes, r.action.isProxy = true → r.backendGroup ≠ none
  headers : ∀ r ∈ c.routes, (ReverseProxy.Routing.compileMutations? r.headers).isSome = true

theorem members_of_groupNames {c : Config} {g : String} (h : c.groupNames.contains g = true) :
    ReverseProxy.Routing.members c.backends g ≠ [] := by
  rw [List.contains_iff_mem] at h
  obtain ⟨b, hb, rfl⟩ := List.mem_map.1 h
  obtain ⟨hb, hparsed⟩ := List.mem_filter.1 hb
  cases he : Endpoint.parse b.address with
  | ok e => exact List.ne_nil_of_mem (ReverseProxy.Routing.mem_members.2 ⟨b, hb, rfl, he⟩)
  | error cause =>
    rw [he] at hparsed
    cases hparsed

theorem Valid.routable {c : Config} (h : c.Valid) : c.Routable := by
  unfold Valid findings at h
  simp only [List.append_eq_nil_iff] at h
  obtain ⟨⟨⟨⟨_, hbackends⟩, hrouting⟩, hroutes⟩, _⟩ := h.1
  have hroute (r : Route) (hr : r ∈ c.routes) :
      (∀ g, r.backendGroup = some g → c.groupNames.contains g = true) ∧
        (r.backendGroup = none → r.action.isProxy = false) ∧
        (ReverseProxy.Routing.compileMutations? r.headers).isSome = true := by
    obtain ⟨earlier, i, hfound⟩ := check_of_eachWithEarlier hroutes hr
    simp only [routeFindings, List.append_eq_nil_iff, when_eq_nil] at hfound
    obtain ⟨⟨⟨⟨⟨⟨_, hgroup⟩, _⟩, _⟩, hheaders⟩, _⟩, _⟩ := hfound
    refine ⟨fun g hg => ?_, fun hnone => ?_, ?_⟩
    · rw [hg] at hgroup
      simpa [when_eq_nil] using hgroup
    · rw [hnone] at hgroup
      exact when_eq_nil.1 hgroup
    · simpa using hheaders
  unfold routingFindings at hrouting
  rw [List.append_eq_nil_iff, when_eq_nil] at hrouting
  refine ⟨fun b hb => ?_, ?_, fun hfixed => ?_, fun r hr g hg => ?_, fun r hr hp hnone => ?_,
    fun r hr => (hroute r hr).2.2⟩
  · obtain ⟨earlier, i, hfound⟩ := check_of_eachWithEarlier hbackends hb
    unfold backendFindings at hfound
    rw [List.append_eq_nil_iff] at hfound
    cases he : Endpoint.parse b.address with
    | ok e => exact ⟨e, rfl⟩
    | error cause =>
      rw [he] at hfound
      cases hfound.2
  · simpa using hrouting.1
  · have hcheck := hrouting.2
    rw [if_pos hfixed] at hcheck
    cases hg : c.routing.fixedGroup with
    | none =>
      rw [hg] at hcheck
      cases hcheck
    | some g =>
      rw [hg] at hcheck
      have hknown : c.groupNames.contains g = true := by simpa [when_eq_nil] using hcheck
      exact ⟨g, rfl, members_of_groupNames hknown⟩
  · exact members_of_groupNames ((hroute r hr).1 g hg)
  · have hnot := (hroute r hr).2.1 hnone
    rw [hp] at hnot
    cases hnot

def Route.isMet (r : Route) (view : ReverseProxy.Routing.RequestView) : Bool :=
  (r.host.all fun h => (ReverseProxy.Routing.Condition.ofHost h).holds view) &&
    r.pathPrefix.all fun s => (ReverseProxy.Routing.Condition.pathPrefix s).holds view

end ReverseProxy.Config

namespace ReverseProxy.Routing

/-- `r` is what became of the route `rc`. -/
structure Route.Compiles (rc : Config.Route) (r : Route) : Prop where
  action : r.action = rc.action
  group : r.group = rc.backendGroup
  isMet : ∀ view, r.matchesRequest view = rc.isMet view

theorem Route.exists_compile {gs : Groups} {of : String → List Endpoint} (h : gs.Hold of)
    {rc : Config.Route} (hgroup : ∀ g, rc.backendGroup = some g → of g ≠ [])
    (htarget : rc.action.isProxy = true → rc.backendGroup ≠ none)
    (hheaders : (compileMutations? rc.headers).isSome = true) :
    ∃ r, Route.compile gs rc = .ok r ∧ Route.Compiles rc r := by
  have hcheck : Route.checkGroup rc gs = .ok rc.backendGroup := by
    unfold Route.checkGroup
    cases hg : rc.backendGroup with
    | some g => simp only [h.isSome (hgroup g hg), if_true]
    | none =>
      have hplain : rc.action.isProxy = false :=
        Bool.eq_false_iff.2 fun hp => htarget hp hg
      simp only [hplain, Bool.false_eq_true, if_false]
  obtain ⟨headers, hh⟩ := Option.isSome_iff_exists.1 hheaders
  unfold Route.compile
  rw [hcheck, hh]
  refine ⟨_, rfl, rfl, rfl, fun view => ?_⟩
  cases hhost : rc.host <;> cases hpath : rc.pathPrefix <;>
    simp [Route.matchesRequest, allHold, Config.Route.isMet, hhost, hpath]

theorem exists_compileAll {gs : Groups} {rcs : List Config.Route}
    (h : ∀ rc ∈ rcs, ∃ r, Route.compile gs rc = .ok r ∧ Route.Compiles rc r) :
    ∃ rs, rcs.mapM (Route.compile gs) = .ok rs ∧ List.Forall₂ Route.Compiles rcs rs := by
  induction rcs with
  | nil => exact ⟨[], rfl, .nil⟩
  | cons rc rcs ih =>
    obtain ⟨r, hr, hc⟩ := h rc List.mem_cons_self
    obtain ⟨rs, hrs, hcs⟩ := ih fun a ha => h a (List.mem_cons_of_mem rc ha)
    refine ⟨r :: rs, ?_, .cons hc hcs⟩
    rw [List.mapM_cons, hr, hrs]
    rfl

theorem find?_forall₂ {α β : Type} {R : α → β → Prop} {p : α → Bool} {q : β → Bool} {as : List α}
    {bs : List β} (h : List.Forall₂ R as bs) (hpq : ∀ a b, R a b → q b = p a) :
    (bs.find? q = none ∧ as.find? p = none) ∨
      ∃ a b, bs.find? q = some b ∧ as.find? p = some a ∧ R a b := by
  induction h with
  | nil => exact .inl ⟨rfl, rfl⟩
  | @cons a b as bs hab _ ih =>
    rw [List.find?_cons, List.find?_cons, hpq a b hab]
    cases hp : p a with
    | true => exact .inr ⟨a, b, rfl, rfl, hab⟩
    | false => exact ih

theorem find?_compiled {rcs : List Config.Route} {rs : List Route}
    (h : List.Forall₂ Route.Compiles rcs rs) (view : RequestView) :
    (rs.find? (·.matchesRequest view) = none ∧ rcs.find? (·.isMet view) = none) ∨
      ∃ rc r, rs.find? (·.matchesRequest view) = some r ∧ rcs.find? (·.isMet view) = some rc ∧
        Route.Compiles rc r :=
  find?_forall₂ h fun _ _ hc => hc.isMet view

def Decision.Reaches (d : Decision) (c : Config) (g : String) : Prop :=
  ∃ e, d.target = some e ∧ e ∈ members c.backends g ∧ e ∈ configuredEndpoints c

theorem Decision.reaches_of_mem {d : Decision} {c : Config} {g : String} {e : Endpoint}
    (ht : d.target = some e) (he : e ∈ members c.backends g) : d.Reaches c g := by
  obtain ⟨b, hb, _, hparse⟩ := mem_members.1 he
  exact ⟨e, ht, he, mem_configuredEndpoints.2 ⟨b, hb, hparse⟩⟩

/-- What a mapper of `c` may decide about a request. -/
structure Decision.Sound (d : Decision) (c : Config) : Prop where
  target : d.action.isProxy = true → ∃ g, d.Reaches c g
  group : d.reason ≠ some "no backend in group"
  route : d.reason ≠ some "no route"

theorem Decision.sound_of_plain {d : Decision} {c : Config} (ha : d.action.isProxy = false)
    (hr : d.reason = none ∨ d.reason = some "configured") : d.Sound c := by
  refine ⟨fun hp => ?_, fun h => ?_, fun h => ?_⟩
  · rw [ha] at hp
    cases hp
  all_goals
    rcases hr with hr | hr
    · rw [hr] at h
      cases h
    · rw [hr, Option.some.injEq] at h
      exact absurd h (by decide)

theorem Decision.sound_of_proxy {d : Decision} {c : Config} {g : String} (h : d.Reaches c g)
    (hr : d.reason = none) : d.Sound c := by
  refine ⟨fun _ => ⟨g, h⟩, fun hg => ?_, fun hg => ?_⟩
  all_goals
    rw [hr] at hg
    cases hg

namespace Mapper

def after (m : Mapper) (calls : List (RequestView × (Endpoint → Bool))) : Mapper :=
  calls.foldl (fun m call => (m.map call.1 call.2).2) m

inductive RulesOf (c : Config) : Rules → Prop where
  | table {rs : List Route} (hm : c.routing.mapper = "routes")
    (hrs : List.Forall₂ Route.Compiles (byPriority c.routes) rs) : RulesOf c (.table rs)
  | fixed {g : String} (hm : c.routing.mapper = "fixed") (hg : c.routing.fixedGroup = some g)
    (hne : members c.backends g ≠ []) : RulesOf c (.fixed g)

/-- A mapper of `c` after any calls: only the turns of its groups have moved. -/
structure Of (c : Config) (m : Mapper) : Prop where
  rules : RulesOf c m.rules
  groups : m.groups.Hold (members c.backends)

theorem exists_build {c : Config} (h : c.Routable) : ∃ m, build c = .ok m ∧ Of c m := by
  obtain ⟨gs, hgs, hold⟩ := Groups.hold_ofBackends h.addresses
  have hnames := h.mapper
  simp only [names, List.mem_cons, List.not_mem_nil, or_false] at hnames
  rcases hnames with hfixed | hroutes
  · obtain ⟨g, hg, hne⟩ := h.fixedGroup hfixed
    have hnot : c.routing.mapper ≠ "routes" := by
      rw [hfixed]
      decide
    refine ⟨⟨.fixed g, gs, .ofConfig c⟩, ?_, .fixed hfixed hg hne, hold⟩
    unfold build
    rw [if_neg hnot, if_pos hfixed]
    unfold ofFixedGroup
    simp only [hg, hgs, bind, Except.bind, hold.isSome hne, if_true]
  · have hcompile : ∀ rc ∈ byPriority c.routes,
        ∃ r, Route.compile gs rc = .ok r ∧ Route.Compiles rc r := by
      intro rc hrc
      have hmem : rc ∈ c.routes := List.mem_mergeSort.1 hrc
      exact Route.exists_compile hold (h.groups rc hmem) (h.targets rc hmem) (h.headers rc hmem)
    obtain ⟨rs, hrs, hcs⟩ := exists_compileAll hcompile
    refine ⟨⟨.table rs, gs, .ofConfig c⟩, ?_, .table hroutes hcs, hold⟩
    unfold build
    rw [if_pos hroutes]
    unfold ofRoutes
    simp only [hgs, hrs, bind, Except.bind]

theorem decide_of {c : Config} {m : Mapper} (h : Of c m) {rc : Config.Route} {r : Route}
    (hc : Route.Compiles rc r) (hgroup : ∀ g, rc.backendGroup = some g → members c.backends g ≠ [])
    (htarget : rc.action.isProxy = true → rc.backendGroup ≠ none) (available : Endpoint → Bool) :
    (m.decide r available).1.Sound c ∧ Of c (m.decide r available).2 ∧
      (rc.action.isProxy = true →
        (m.decide r available).1.action =
            (if rc.action = .proxyAndCache then .proxyAndCache else .proxy) ∧
          ∃ g, rc.backendGroup = some g ∧ (m.decide r available).1.Reaches c g) := by
  have hplain (ha : rc.action.isProxy = false) :
      (m.decide r available).1.Sound c ∧ (m.decide r available).2 = m := by
    rw [← hc.action] at ha
    unfold decide
    cases hra : r.action with
    | proxy | proxyAndCache =>
      rw [hra] at ha
      cases ha
    | static | redirect | notFound =>
      exact ⟨Decision.sound_of_plain rfl (.inl rfl), rfl⟩
    | internalError => exact ⟨Decision.sound_of_plain rfl (.inr rfl), rfl⟩
  cases hp : rc.action.isProxy with
  | false =>
    obtain ⟨hsound, hsame⟩ := hplain hp
    rw [hsame]
    exact ⟨hsound, h, fun hno => by cases hno⟩
  | true =>
    obtain ⟨g, hg⟩ := Option.ne_none_iff_exists'.1 (htarget hp)
    obtain ⟨e, he, gs, hold, htake⟩ := take_of_hold h.groups (hgroup g hg) available
    let d : Decision := { Decision.proxy r.name e (r.action == .proxyAndCache) with
      headers := r.headers }
    have hdecide : m.decide r available = (d, { m with groups := gs }) := by
      have hrg : r.group = some g := hc.group.trans hg
      rw [← hc.action] at hp
      unfold decide
      cases hra : r.action with
      | proxy | proxyAndCache =>
        simp only [hrg, htake]
        simp only [d, hra]
      | static | redirect | notFound | internalError =>
        rw [hra] at hp
        cases hp
    have hreaches : d.Reaches c g := Decision.reaches_of_mem rfl he
    rw [hdecide]
    refine ⟨Decision.sound_of_proxy hreaches rfl, ⟨h.rules, hold⟩, fun _ => ⟨?_, g, hg, hreaches⟩⟩
    simp [d, Decision.proxy, hc.action]

theorem map_of {c : Config} (hc : c.Routable) {m : Mapper} (h : Of c m) (view : RequestView)
    (available : Endpoint → Bool) :
    Of c (m.map view available).2 ∧
      ∃ d, (m.map view available).1 = some d ∧ d.Sound c ∧
        (c.routing.mapper = "fixed" →
          d.action = .proxy ∧ ∃ g, c.routing.fixedGroup = some g ∧ d.Reaches c g) ∧
        (c.routing.mapper = "routes" → acmeResource? view.path = none →
          ∀ rc, (byPriority c.routes).find? (·.isMet view) = some rc → rc.action.isProxy = true →
            d.action = (if rc.action = .proxyAndCache then .proxyAndCache else .proxy) ∧
              ∃ g, rc.backendGroup = some g ∧ d.Reaches c g) := by
  have hrules := h.rules
  generalize hr : m.rules = rules at hrules
  cases hrules with
  | @fixed g hm hg hne =>
    obtain ⟨e, he, gs, hold, htake⟩ := take_of_hold h.groups hne available
    have hmap : m.map view available =
        (some (Decision.proxy g e false), { m with groups := gs }) := by
      unfold map
      simp only [hr, htake]
    have hreaches : (Decision.proxy g e false).Reaches c g := Decision.reaches_of_mem rfl he
    rw [hmap]
    refine ⟨⟨h.rules, hold⟩, _, rfl, Decision.sound_of_proxy hreaches rfl, fun _ => ⟨rfl, g, hg,
      hreaches⟩, fun hroutes => ?_⟩
    rw [hm] at hroutes
    exact absurd hroutes (by decide)
  | @table rs hm hrs =>
    have hnot : c.routing.mapper ≠ "fixed" := by
      rw [hm]
      decide
    cases hacme : acmeResource? view.path with
    | some resource =>
      let d : Decision :=
        { action := .acmeChallenge, routeId := "acme", resource := some resource }
      have hmap : m.map view available = (some d, m) := by
        unfold map
        simp only [hr, hacme]
        rfl
      rw [hmap]
      exact ⟨h, _, rfl, Decision.sound_of_plain rfl (.inl rfl), fun hf => absurd hf hnot,
        fun _ hno => by cases hno⟩
    | none =>
      rcases find?_compiled hrs view with ⟨hfind, hnone⟩ | ⟨rc, r, hfind, hsome, hrc⟩
      · have hmap : m.map view available = (some (Decision.notFound "unmatched"), m) := by
          unfold map
          simp only [hr, hacme, hfind]
        rw [hmap]
        refine ⟨h, _, rfl, Decision.sound_of_plain rfl (.inl rfl), fun hf => absurd hf hnot,
          fun _ _ rc hrc => ?_⟩
        rw [hnone] at hrc
        cases hrc
      · have hmem : rc ∈ c.routes := List.mem_mergeSort.1 (List.mem_of_find?_eq_some hsome)
        obtain ⟨hsound, hof, hproxy⟩ :=
          decide_of h hrc (hc.groups rc hmem) (hc.targets rc hmem) available
        have hmap : m.map view available =
            (some (m.decide r available).1, (m.decide r available).2) := by
          unfold map
          simp only [hr, hacme, hfind]
        rw [hmap]
        refine ⟨hof, _, rfl, hsound, fun hf => absurd hf hnot, fun _ _ a ha hp => ?_⟩
        rw [hsome, Option.some.injEq] at ha
        subst ha
        exact hproxy hp

theorem after_of {c : Config} (hc : c.Routable) {m : Mapper} (h : Of c m)
    (calls : List (RequestView × (Endpoint → Bool))) : Of c (m.after calls) := by
  induction calls generalizing m with
  | nil => exact h
  | cons call calls ih => exact ih (map_of hc h call.1 call.2).1

/-- A valid configuration has a mapper, and that decides about every request, whatever was asked
before and whatever is available. It never lacks a route or a backend: under the fixed mapper
every request goes to the fixed group, and under the routes a request whose first matching route
forwards goes to the group of that route, each time to a configured endpoint of the group. -/
theorem decision_of_valid (c : Config) (hc : c.Valid) :
    ∃ m, build c = .ok m ∧
      ∀ (calls : List (RequestView × (Endpoint → Bool))) (view : RequestView)
        (available : Endpoint → Bool),
        ∃ d, ((m.after calls).map view available).1 = some d ∧
          (d.action.isProxy = true → ∃ g, d.Reaches c g) ∧
          d.reason ≠ some "no backend in group" ∧ d.reason ≠ some "no route" ∧
          (c.routing.mapper = "fixed" →
            d.action = .proxy ∧ ∃ g, c.routing.fixedGroup = some g ∧ d.Reaches c g) ∧
          (c.routing.mapper = "routes" → acmeResource? view.path = none →
            ∀ rc, (byPriority c.routes).find? (·.isMet view) = some rc →
              rc.action.isProxy = true →
                d.action = (if rc.action = .proxyAndCache then .proxyAndCache else .proxy) ∧
                  ∃ g, rc.backendGroup = some g ∧ d.Reaches c g) := by
  have hroutable := hc.routable
  obtain ⟨m, hm, hof⟩ := exists_build hroutable
  refine ⟨m, hm, fun calls view available => ?_⟩
  have hafter := after_of hroutable hof calls
  obtain ⟨_, d, hd, hsound, hfixed, hroutes⟩ := map_of hroutable hafter view available
  exact ⟨d, hd, hsound.target, hsound.group, hsound.route, hfixed, hroutes⟩

theorem decision_of_valid_one_backend :
    let site : Config.Route :=
      { name := "site", action := .proxyAndCache, backendGroup := some "web" }
    let c : Config := { backends := [⟨"a", "web", "10.0.0.1:80"⟩], routes := [site] }
    let view : RequestView := ⟨"GET", ⟨none, none, "/page", none⟩, .empty, false⟩
    c.Valid ∧ ∃ m, build c = .ok m ∧
      ∀ (calls : List (RequestView × (Endpoint → Bool))) (available : Endpoint → Bool),
        ∃ d, ((m.after calls).map view available).1 = some d ∧ d.action = .proxyAndCache ∧
          d.target = some ⟨"10.0.0.1", 80⟩ := by
  intro site c view
  have hvalid : c.Valid := by decide +kernel
  obtain ⟨m, hm, h⟩ := decision_of_valid c hvalid
  refine ⟨hvalid, m, hm, fun calls available => ?_⟩
  obtain ⟨d, hd, _, _, _, _, hroutes⟩ := h calls view available
  obtain ⟨haction, g, hg, e, htarget, hmem, _⟩ :=
    hroutes rfl (by decide +kernel) site (by decide +kernel) rfl
  have hgroup : g = "web" := (Option.some.inj hg).symm
  subst hgroup
  have hmembers : members c.backends "web" = [⟨"10.0.0.1", 80⟩] := by decide +kernel
  rw [hmembers, List.mem_singleton] at hmem
  exact ⟨d, hd, haction, hmem ▸ htarget⟩

end Mapper
end ReverseProxy.Routing
