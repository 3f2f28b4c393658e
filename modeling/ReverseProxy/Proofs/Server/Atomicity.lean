import ReverseProxy.Proofs.Routing.Validated
import ReverseProxy.Proofs.Server.Reloads

set_option autoImplicit false

namespace ReverseProxy

namespace Pool

namespace Registry

theorem frame_beginClosing (r : Registry) (ref : PoolRef) :
    (r.beginClosing ref).2.live = r.live ∧
      (r.beginClosing ref).2.generations.length = r.generations.length := by
  unfold beginClosing
  split
  · exact ⟨rfl, List.length_modify _ _ _⟩
  · exact ⟨rfl, rfl⟩

theorem live_install (r : Registry) (configs : List Config.Pool) (endpoints : List Endpoint)
    (k : SeriesKey) : k ∈ (r.install configs endpoints).live ↔
      k ∈ r.live ∨ k ∈ (r.install configs endpoints).current.map key := by
  obtain ⟨_, hcurrent⟩ := current_install r configs endpoints
  let made := (activePolicies configs).map fun p =>
    ConnectionPool.new p (r.generations.length + 1) endpoints
  have hlength : ∀ p ∈ made, p.slots.length = endpoints.eraseDups.length := by
    intro p hp
    obtain ⟨policy, _, rfl⟩ := List.mem_map.1 hp
    exact List.length_map _
  rw [hcurrent]
  exact (foldl_register made hlength _).2.2.1 k

end Registry

namespace Schedule

/-- What a reload makes of the pools: one more generation is there, made from what is configured and
in use, and the pools that were in use are told to close. -/
structure Renews (s : Schedule) (configs : List Config.Pool) (endpoints : List Endpoint)
    (s' : Schedule) : Prop where
  number : s'.registry.generation = s.registry.generations.length + 1
  single : s'.registry.generations.length = s.registry.generations.length + 1
  current : s'.registry.current = (activePolicies configs).map fun p =>
    ConnectionPool.new p s'.registry.generation endpoints
  older : ∀ ref p, s.registry.pool? ref = some p → s'.registry.pool? ref =
    some (if ref.generation = s.registry.generation then { p with closing := true } else p)
  series : ∀ k, k ∈ s'.registry.live ↔
    k ∈ s.registry.live ∨ k ∈ s'.registry.current.map Registry.key
  orders : s'.orders = s.orders ++
    (s.registry.refs s.registry.generation).map fun ref => (ref, s.closesAt ref)
  rest : { s' with registry := s.registry, drains := s.drains } = s

theorem frame_disposeAll (refs : List PoolRef) (s : Schedule) :
    let s' := refs.foldl dispose s
    s'.registry.live = s.registry.live ∧
      s'.registry.generations.length = s.registry.generations.length ∧
        { s' with registry := s.registry, drains := s.drains } = s := by
  induction refs generalizing s with
  | nil => exact ⟨rfl, rfl, rfl⟩
  | cons ref refs ih =>
    obtain ⟨hlive, hlength, hrest⟩ := ih (s.dispose ref)
    obtain ⟨hlive', hlength'⟩ := s.registry.frame_beginClosing ref
    refine ⟨hlive.trans hlive', hlength.trans hlength', ?_⟩
    exact congrArg (fun a : Schedule => { a with registry := s.registry, drains := s.drains }) hrest

theorem pool?_disposeAll {s : Schedule} {refs : List PoolRef}
    (hrefs : ∀ ref ∈ refs, ∃ p, s.registry.pool? ref = some p) (other : PoolRef) :
    (refs.foldl dispose s).registry.pool? other = if other ∈ refs then
      (s.registry.pool? other).map fun p => { p with closing := true }
    else s.registry.pool? other := by
  induction refs generalizing s with
  | nil => rfl
  | cons ref refs ih =>
    obtain ⟨p, hp⟩ := hrefs ref List.mem_cons_self
    have hfirst : (s.dispose ref).registry.pool? other = _ := Registry.pool?_beginClosing hp other
    have hlater : ∀ other ∈ refs, ∃ q, (s.dispose ref).registry.pool? other = some q := by
      intro other ho
      obtain ⟨q, hq⟩ := hrefs other (List.mem_cons_of_mem ref ho)
      exact pool?_dispose hq ref
    rw [List.foldl_cons, ih hlater, hfirst]
    by_cases heq : other = ref
    · subst heq
      rw [if_pos rfl, if_pos List.mem_cons_self, hp, Option.map_some, Option.map_some, ite_self]
    · rw [if_neg heq]
      exact if_congr (by simp [heq]) rfl rfl

theorem drains_reload (s : Schedule) (configs : List Config.Pool) (endpoints : List Endpoint) :
    (s.reload configs endpoints).1 = s.registry.current.length := by
  change (s.registry.refs s.registry.generation).length = _
  rw [Registry.refs, List.length_map, List.length_range]
  rfl

theorem renews_reload (s : Schedule) (configs : List Config.Pool) (endpoints : List Endpoint) :
    s.Renews configs endpoints (s.reload configs endpoints).2 := by
  let installed := s.registry.install configs endpoints
  let refs := s.registry.refs s.registry.generation
  obtain ⟨hgenerations, hcurrent⟩ := Registry.current_install s.registry configs endpoints
  obtain ⟨hlive, hlength, hrest⟩ := frame_disposeAll refs { s with registry := installed }
  have hnumber := s.generation_reload configs endpoints
  have hknown : ∀ ref ∈ refs, ∃ p, installed.pool? ref = some p := by
    intro ref href
    obtain ⟨p, hp⟩ := (Registry.pool?_of_mem_refs href).2
    exact ⟨p, Registry.pool?_install_old configs endpoints hp⟩
  have hpool (ref : PoolRef) : (s.reload configs endpoints).2.registry.pool? ref =
      if ref ∈ refs then (installed.pool? ref).map fun p => { p with closing := true }
      else installed.pool? ref := pool?_disposeAll (s := { s with registry := installed }) hknown ref
  have hnew : (s.reload configs endpoints).2.registry.current = installed.current := by
    refine List.ext_getElem? fun place => ?_
    -- The pools that are told to close have lower numbers than the new ones.
    have hnot : (⟨s.registry.generations.length + 1, place⟩ : PoolRef) ∉ refs := by
      intro hmem
      obtain ⟨_, p, hp⟩ := Registry.pool?_of_mem_refs hmem
      have hle := (Registry.generation_le hp).2
      exact Nat.not_succ_le_self _ hle
    unfold Registry.current
    rw [hnumber, s.registry.generation_install]
    exact (hpool _).trans (if_neg hnot)
  refine ⟨hnumber, ?_, ?_, fun ref p hp => ?_, fun k => ?_, s.orders_reload configs endpoints, ?_⟩
  · refine hlength.trans ?_
    change installed.generations.length = _
    rw [hgenerations, List.length_append, List.length_singleton]
  · rw [hnew, hnumber]
    exact hcurrent
  · have hold : installed.pool? ref = some p := Registry.pool?_install_old configs endpoints hp
    have hmem : ref ∈ refs ↔ ref.generation = s.registry.generation := by
      rw [Registry.mem_refs, hp]
      exact and_iff_left rfl
    rw [hpool, hold, Option.map_some, apply_ite some]
    exact if_congr hmem rfl rfl
  · rw [hnew, ← s.registry.live_install]
    exact iff_of_eq (congrArg (k ∈ ·) hlive)
  · exact congrArg (fun a : Schedule => { a with registry := s.registry }) hrest

end Schedule

end Pool

namespace Server
open Pool

/-- What a reload can do: it turns a configuration away, or it takes on a valid one, or it breaks
off on its way to that because of a limit that is too large. -/
inductive Reloads (s : Server) (c : Config) : Except BuildError Nat × Server → Prop where
  | turnsAway (hinvalid : ¬c.Valid) : Reloads s c (.error (.invalid c.findings), s)
  | breaksOff (hvalid : c.Valid) {mapper : Routing.Mapper}
    (hmapper : Routing.Mapper.build c = .ok mapper) (hof : mapper.Of c)
    (hlimit : slotsFit c.pools (Routing.configuredEndpoints c) = false) :
    Reloads s c (.error .tooManySlots, { s with proxy := { s.proxy with
      mapper
      pools := { s.proxy.pools with registry := s.proxy.pools.registry.forgo c.pools } } })
  | takesOn (hvalid : c.Valid) {mapper : Routing.Mapper}
    (hmapper : Routing.Mapper.build c = .ok mapper) (hof : mapper.Of c)
    (hfit : slotsFit c.pools (Routing.configuredEndpoints c) = true) :
    Reloads s c (.ok s.proxy.pools.registry.current.length, { s with proxy := { s.proxy with
      mapper
      pools := (s.proxy.pools.reload c.pools (Routing.configuredEndpoints c)).2 } })

theorem reloads (s : Server) (c : Config) : s.Reloads c (s.reload c) := by
  unfold reload
  split
  · next hinvalid => exact .turnsAway hinvalid
  · next hfound =>
    have hvalid : c.Valid := not_not.1 hfound
    obtain ⟨mapper, hmapper, hof⟩ := Routing.Mapper.exists_build hvalid.routable
    rw [hmapper]
    dsimp only
    cases hfit : slotsFit c.pools (Routing.configuredEndpoints c) with
    | false => exact .breaksOff hvalid hmapper hof hfit
    | true =>
      have hdrains := s.proxy.pools.drains_reload c.pools (Routing.configuredEndpoints c)
      change s.Reloads c (.ok (s.proxy.pools.reload c.pools _).1, _)
      rw [hdrains]
      exact .takesOn hvalid hmapper hof hfit

/-- What a server is after it has taken a configuration on. -/
structure Adopts (s : Server) (c : Config) (drains : Nat) (s' : Server) : Prop where
  mapper : Routing.Mapper.build c = .ok s'.proxy.mapper
  pools : s.proxy.pools.Renews c.pools (Routing.configuredEndpoints c) s'.proxy.pools
  drains : drains = s.proxy.pools.registry.current.length
  rest : { s' with proxy := { s'.proxy with
    mapper := s.proxy.mapper
    pools := s.proxy.pools } } = s

/-- A reload that is turned away changes nothing at all, and the only reason there can be is that
the configuration is not valid. One that succeeds puts the mapper and the pools of the configuration
in place, keeps the rest and drains as many pools as were in use. One that a limit stops on its
way (`tooManySlots`) has no result. -/
theorem reload_all_or_nothing (s : Server) (c : Config) :
    (∀ why, (s.reload c).1 = .error why → why ≠ .tooManySlots →
      why = .invalid c.findings ∧ ¬c.Valid ∧ (s.reload c).2 = s) ∧
    ∀ drains, (s.reload c).1 = .ok drains → c.Valid ∧ s.Adopts c drains (s.reload c).2 := by
  have h := s.reloads c
  generalize s.reload c = result at h ⊢
  cases h with
  | turnsAway hinvalid =>
    refine ⟨fun why hwhy _ => ⟨(Except.error.inj hwhy).symm, hinvalid, rfl⟩, fun drains hok => ?_⟩
    cases hok
  | breaksOff =>
    refine ⟨fun why hwhy hlimit => absurd (Except.error.inj hwhy).symm hlimit, fun drains hok => ?_⟩
    cases hok
  | takesOn hvalid hmapper =>
    refine ⟨fun why hwhy _ => ?_, fun drains hok => ⟨hvalid, hmapper, ?_, ?_, rfl⟩⟩
    · cases hwhy
    · exact s.proxy.pools.renews_reload c.pools (Routing.configuredEndpoints c)
    · exact (Except.ok.inj hok).symm

theorem reload_all_or_nothing_site :
    let bad : Config := { cache := { defaultTtlSecs := 0 } }
    let good : Config := {
      backends := [⟨"a", "web", "127.0.0.1:3000"⟩]
      routes := [{ name := "site", pathPrefix := some "/", action := .proxy,
                   backendGroup := some "web" }] }
    ∃ start, build {} .empty 0 = .ok start ∧ (start.reload bad).2 = start ∧
      start.Adopts good 1 (start.reload good).2 := by
  intro bad good
  have hrun : (build {} .empty 0).toOption.map (fun start =>
      ((start.reload bad).1, (start.reload good).1)) =
        some (.error (.invalid bad.findings), .ok 1) := by decide +kernel
  obtain ⟨start, hbuild, hrun⟩ := exists_ok_of_map hrun
  obtain ⟨hbad, hgood⟩ := Prod.mk.inj hrun
  obtain ⟨_, _, hsame⟩ := (reload_all_or_nothing start bad).1 _ hbad (by simp)
  obtain ⟨_, hadopts⟩ := (reload_all_or_nothing start good).2 1 hgood
  exact ⟨start, hbuild, hsame, hadopts⟩

end Server
end ReverseProxy
