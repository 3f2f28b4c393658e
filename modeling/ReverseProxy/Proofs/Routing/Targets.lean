import ReverseProxy.Proofs.Fallible
import ReverseProxy.Proofs.Routing.Groups

set_option autoImplicit false

namespace ReverseProxy.Routing

section
variable {g : Group} {gs gs' : Groups} {name other : String} {e : Endpoint}
  {available : Endpoint → Bool}

namespace Group

theorem available_of_pick {a : Endpoint} (hmem : a ∈ g.endpoints) (ha : available a = true)
    (hpick : g.pick available = some e) : available e = true := by
  have hfound : (g.order.find? available).isSome = true :=
    List.find?_isSome.2 ⟨a, g.order_perm.symm.subset hmem, ha⟩
  obtain ⟨b, hb⟩ := Option.isSome_iff_exists.1 hfound
  unfold pick at hpick
  rw [hb, Option.some_or, Option.some.injEq] at hpick
  exact hpick ▸ List.find?_some hb

theorem fst_next (hne : g.endpoints ≠ []) : (g.next available).1 = g.pick available := by
  unfold next
  rw [if_neg (by simpa using hne)]

theorem endpoints_next (g : Group) (available : Endpoint → Bool) :
    (g.next available).2.endpoints = g.endpoints := by
  unfold next
  split <;> rfl

end Group

namespace Groups

def Filled (gs : Groups) : Prop := ∀ name g, gs.find? name = some g → g.endpoints ≠ []

theorem Filled.set (h : gs.Filled) (hne : g.endpoints ≠ []) (name : String) :
    (gs.set name g).Filled := by
  intro other g' hfind
  rw [find?_set] at hfind
  split at hfind
  · cases hfind
    exact hne
  · exact h other g' hfind

theorem filled_ofBackends {bs : List Config.Backend} (h : ofBackends bs = .ok gs) : gs.Filled := by
  refine foldlM_keeps (fun gs b gs' hgs hstep => ?_) (fun name g hfind => ?_) h
  · split at hstep
    · cases hstep
      exact hgs.set (by simp) b.group
    · cases hstep
  · cases hfind

end Groups

theorem Route.isSome_group {c : Config.Route} {r : Route} (h : Route.compile gs c = .ok r)
    (hproxy : r.action.isProxy = true) : (r.group.bind gs.find?).isSome = true := by
  unfold Route.compile at h
  obtain ⟨group, hcheck, h⟩ := bind_ok h
  split at h
  · cases h
  cases h
  unfold Route.checkGroup at hcheck
  split at hcheck
  · split at hcheck
    · next hname =>
      cases hcheck
      exact hname
    · cases hcheck
  · rw [if_pos hproxy] at hcheck
    cases hcheck

namespace Mapper

def matched? (m : Mapper) (view : RequestView) : Option Route :=
  match m.rules with
  | .table routes =>
    if acmeResource? view.path = none then routes.find? (·.matchesRequest view) else none
  | _ => none

def groupOf? (m : Mapper) (r : Route) : Option Group := r.group.bind m.groups.find?

/-- The mapper has a route table, whose routes find the groups that they refer to. -/
structure Tabled (m : Mapper) : Prop where
  rules : ∃ routes, m.rules = .table routes ∧
    ∀ r ∈ routes, r.action.isProxy = true → (m.groupOf? r).isSome = true
  filled : m.groups.Filled

variable {m : Mapper} {r : Route} {view : RequestView}

theorem snd_take (m : Mapper) (name : String) (available : Endpoint → Bool) :
    (m.take name available).2 = m ∨ ∃ g, m.groups.find? name = some g ∧
      (m.take name available).2 =
        { m with groups := m.groups.set name (g.next available).2 } := by
  unfold take
  cases hg : m.groups.find? name with
  | none => exact .inl rfl
  | some g => exact .inr ⟨g, rfl, rfl⟩

theorem snd_decide (m : Mapper) (r : Route) (available : Endpoint → Bool) :
    (m.decide r available).2 = m ∨
      ∃ name, (m.decide r available).2 = (m.take name available).2 := by
  unfold decide
  cases r.action with
  | static | redirect | notFound | internalError => exact .inl rfl
  | proxy | proxyAndCache =>
    cases r.group with
    | none => exact .inl rfl
    | some name =>
      right
      refine ⟨name, ?_⟩
      dsimp only
      rcases m.take name available with ⟨_ | e, m'⟩ <;> rfl

theorem snd_map (m : Mapper) (view : RequestView) (available : Endpoint → Bool) :
    (m.map view available).2 = m ∨
      ∃ name, (m.map view available).2 = (m.take name available).2 := by
  unfold map
  cases m.rules with
  | constant d => exact .inl rfl
  | fixed name =>
    right
    refine ⟨name, ?_⟩
    dsimp only
    rcases m.take name available with ⟨_ | e, m'⟩ <;> rfl
  | table routes =>
    dsimp only
    split
    · exact .inl rfl
    · split
      · exact snd_decide m _ available
      · exact .inl rfl

theorem Tabled.take (h : m.Tabled) (name : String) (available : Endpoint → Bool) :
    (m.take name available).2.Tabled := by
  rcases snd_take m name available with hsame | ⟨g, hg, htake⟩
  · rw [hsame]
    exact h
  rw [htake]
  obtain ⟨routes, hrules, hroutes⟩ := h.rules
  have hfilled : (g.next available).2.endpoints ≠ [] := by
    rw [Group.endpoints_next]
    exact h.filled name g hg
  refine ⟨⟨routes, hrules, fun r hr hproxy => ?_⟩, h.filled.set hfilled name⟩
  have hsome := hroutes r hr hproxy
  unfold groupOf? at hsome ⊢
  cases hgroup : r.group with
  | none =>
    rw [hgroup] at hsome
    cases hsome
  | some other =>
    rw [hgroup] at hsome
    change ((m.groups.set name (g.next available).2).find? other).isSome = true
    rw [Groups.find?_set]
    split
    · rfl
    · exact hsome

theorem Tabled.asked (h : m.Tabled) (view : RequestView) (available : Endpoint → Bool) :
    (m.map view available).2.Tabled := by
  rcases snd_map m view available with hsame | ⟨name, htake⟩
  · rw [hsame]
    exact h
  · rw [htake]
    exact h.take name available

theorem tabled_ofRoutes {c : Config} (h : ofRoutes c = .ok m) : m.Tabled := by
  unfold ofRoutes at h
  obtain ⟨gs, hgs, h⟩ := bind_ok h
  obtain ⟨routes, hroutes, h⟩ := bind_ok h
  cases h
  refine ⟨⟨routes, rfl, fun r hr hproxy => ?_⟩, Groups.filled_ofBackends hgs⟩
  obtain ⟨rc, _, hcompile⟩ := exists_of_mem_mapM hroutes hr
  exact Route.isSome_group hcompile hproxy

theorem Tabled.target_eq (h : m.Tabled) (view : RequestView) (available : Endpoint → Bool) :
    ((m.map view available).1.getD .noRoute).target = (m.matched? view).bind fun r =>
      if r.action.isProxy then (m.groupOf? r).bind (·.pick available) else none := by
  obtain ⟨routes, hrules, hroutes⟩ := h.rules
  unfold Mapper.map matched?
  rw [hrules]
  dsimp only
  cases hacme : acmeResource? view.path with
  | some resource => simp
  | none =>
    rw [if_pos rfl]
    cases hfind : routes.find? (·.matchesRequest view) with
    | none => rfl
    | some r =>
      have hmem : r ∈ routes := List.mem_of_find?_eq_some hfind
      dsimp only [Option.bind_some, Option.getD_some]
      cases hproxy : r.action.isProxy with
      | false =>
        rw [if_neg (by simp)]
        unfold decide
        cases haction : r.action with
        | proxy | proxyAndCache =>
          rw [haction] at hproxy
          cases hproxy
        | static | redirect | notFound | internalError => rfl
      | true =>
        rw [if_pos rfl]
        obtain ⟨g, hg⟩ := Option.isSome_iff_exists.1 (hroutes r hmem hproxy)
        obtain ⟨name, hname, hgroup⟩ := Option.bind_eq_some_iff.1 hg
        have htake : (m.take name available).1 = g.pick available := by
          rw [← Group.fst_next (h.filled name g hgroup)]
          unfold Mapper.take
          rw [hgroup]
        rw [hg, Option.bind_some, ← htake]
        unfold decide
        cases haction : r.action with
        | static | redirect | notFound | internalError =>
          rw [haction] at hproxy
          cases hproxy
        | proxy | proxyAndCache =>
          dsimp only
          rw [hname]
          dsimp only
          rcases m.take name available with ⟨_ | e, m'⟩ <;> rfl

theorem Tabled.target (h : m.Tabled) (hr : m.matched? view = some r)
    (hproxy : r.action.isProxy = true) (available : Endpoint → Bool) :
    ∃ g, m.groupOf? r = some g ∧ ∃ e ∈ g.endpoints,
      ((m.map view available).1.getD .noRoute).target = some e ∧
        ∀ a ∈ g.endpoints, available a = true → available e = true := by
  have htarget := h.target_eq view available
  obtain ⟨routes, hrules, hroutes⟩ := h.rules
  have hmem : r ∈ routes := by
    unfold matched? at hr
    rw [hrules] at hr
    dsimp only at hr
    split at hr
    · exact List.mem_of_find?_eq_some hr
    · cases hr
  obtain ⟨g, hg⟩ := Option.isSome_iff_exists.1 (hroutes r hmem hproxy)
  obtain ⟨name, _, hgroup⟩ := Option.bind_eq_some_iff.1 hg
  obtain ⟨e, he, hpick⟩ := Group.exists_pick (h.filled name g hgroup) available
  rw [hr, Option.bind_some, if_pos hproxy, hg, Option.bind_some, hpick] at htarget
  exact ⟨g, hg, e, he, htarget, fun a ha havailable =>
    Group.available_of_pick ha havailable hpick⟩

theorem Tabled.matched_of_target (h : m.Tabled)
    (htarget : ((m.map view available).1.getD .noRoute).target = some e) :
    ∃ r, m.matched? view = some r ∧ r.action.isProxy = true := by
  rw [h.target_eq view available] at htarget
  obtain ⟨r, hr, hgroup⟩ := Option.bind_eq_some_iff.1 htarget
  split at hgroup
  · next hproxy => exact ⟨r, hr, hproxy⟩
  · cases hgroup

end Mapper

end

end ReverseProxy.Routing
