import ReverseProxy.Proofs.Routing.Targets

set_option autoImplicit false

namespace ReverseProxy.Routing

def Decision.Plain (d : Decision) : Prop := ∀ s ∈ d.page, s.headers = []

theorem Decision.plain_of_none {d : Decision} (h : d.page = none) : d.Plain := by
  intro s hs
  rw [h] at hs
  cases hs

structure Route.Plain (r : Route) : Prop where
  notFound : ∀ s ∈ r.notFound, s.headers = []
  internalError : ∀ s ∈ r.internalError, s.headers = []

def Rules.Plain : Rules → Prop
  | .table routes => ∀ r ∈ routes, r.Plain
  | .fixed _ => True
  | .constant decision => ∀ d ∈ decision, d.Plain

theorem headers_compilePage {p : Option Config.Page} :
    ∀ s ∈ p.map compilePage, s.headers = [] := by
  intro s hs
  obtain ⟨page, _, rfl⟩ := Option.map_eq_some_iff.1 hs
  rfl

theorem Route.plain_compile {gs : Groups} {c : Config.Route} {r : Route}
    (h : Route.compile gs c = .ok r) : r.Plain := by
  unfold Route.compile at h
  obtain ⟨group, _, h⟩ := bind_ok h
  split at h
  · cases h
  · cases h
    exact ⟨headers_compilePage, headers_compilePage⟩

namespace Mapper

structure Plain (m : Mapper) : Prop where
  rules : m.rules.Plain
  notFound : ∀ s ∈ m.pages.notFound, s.headers = []
  internalError : ∀ s ∈ m.pages.internalError, s.headers = []

variable {m : Mapper}

theorem Plain.route? (h : m.Plain) {id : String} {r : Route} (hr : m.route? id = some r) :
    r.Plain := by
  have hrules := h.rules
  unfold Mapper.route? at hr
  split at hr
  · next routes heq =>
    rw [heq] at hrules
    exact hrules r (List.mem_of_find?_eq_some hr)
  · cases hr

theorem Plain.notFoundPage (h : m.Plain) (id : String) :
    ∀ s ∈ m.notFoundPage id, s.headers = [] := by
  intro s hs
  rcases Option.or_eq_some_iff.1 hs with hs | ⟨_, hs⟩
  · obtain ⟨r, hr, hs⟩ := Option.bind_eq_some_iff.1 hs
    exact (h.route? hr).notFound s hs
  · exact h.notFound s hs

theorem Plain.internalErrorPage (h : m.Plain) (id : String) :
    ∀ s ∈ m.internalErrorPage id, s.headers = [] := by
  intro s hs
  rcases Option.or_eq_some_iff.1 hs with hs | ⟨_, hs⟩
  · obtain ⟨r, hr, hs⟩ := Option.bind_eq_some_iff.1 hs
    exact (h.route? hr).internalError s hs
  · exact h.internalError s hs

theorem Plain.take (h : m.Plain) (name : String) (available : Endpoint → Bool) :
    (m.take name available).2.Plain := by
  rcases snd_take m name available with hsame | ⟨g, _, htake⟩
  · rw [hsame]
    exact h
  · rw [htake]
    exact ⟨h.rules, h.notFound, h.internalError⟩

theorem Plain.map (h : m.Plain) (view : RequestView) (available : Endpoint → Bool) :
    (m.map view available).2.Plain := by
  rcases snd_map m view available with hsame | ⟨name, htake⟩
  · rw [hsame]
    exact h
  · rw [htake]
    exact h.take name available

theorem plain_decide {r : Route} (hr : r.Plain) (available : Endpoint → Bool) :
    (m.decide r available).1.Plain := by
  unfold decide
  cases r.action with
  | static | redirect => exact Decision.plain_of_none rfl
  | notFound => exact hr.notFound
  | internalError => exact hr.internalError
  | proxy | proxyAndCache =>
    cases r.group with
    | none => exact Decision.plain_of_none rfl
    | some name =>
      dsimp only
      rcases m.take name available with ⟨_ | e, m'⟩ <;> exact Decision.plain_of_none rfl

theorem Plain.decision (h : m.Plain) {view : RequestView} {available : Endpoint → Bool}
    {d : Decision} (hd : (m.map view available).1 = some d) : d.Plain := by
  have hrules := h.rules
  unfold Mapper.map at hd
  split at hd
  · next decision heq =>
    rw [heq] at hrules
    exact hrules d hd
  · split at hd <;> cases hd
    exact Decision.plain_of_none rfl
  · next routes heq =>
    rw [heq] at hrules
    split at hd
    · cases hd
      exact Decision.plain_of_none rfl
    · split at hd <;> cases hd
      · next r hr => exact plain_decide (hrules r (List.mem_of_find?_eq_some hr)) available
      · exact Decision.plain_of_none rfl

theorem plain_build {c : Config} (h : build c = .ok m) : m.Plain := by
  unfold build at h
  split at h
  · unfold ofRoutes at h
    obtain ⟨gs, _, h⟩ := bind_ok h
    obtain ⟨routes, hroutes, h⟩ := bind_ok h
    cases h
    refine ⟨fun r hr => ?_, headers_compilePage, headers_compilePage⟩
    obtain ⟨rc, _, hcompile⟩ := exists_of_mem_mapM hroutes hr
    exact Route.plain_compile hcompile
  · split at h
    · unfold ofFixedGroup at h
      split at h
      · cases h
      · obtain ⟨gs, _, h⟩ := bind_ok h
        split at h <;> cases h
        exact ⟨trivial, headers_compilePage, headers_compilePage⟩
    · cases h

end Mapper
end ReverseProxy.Routing
