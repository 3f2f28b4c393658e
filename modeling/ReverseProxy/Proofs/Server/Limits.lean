import ReverseProxy.Proofs.Proxy.Settings
import ReverseProxy.Proofs.Server.Atomicity

set_option autoImplicit false

namespace ReverseProxy

namespace Config
open ReverseProxy.Pool (Policy maxSlots slotsFit activePolicies)
open ReverseProxy.Pool.Registry (choosy fallback activePolicies_eq)

/-- The slots of every pool in use can be counted. There are none without backends. -/
def SlotsFit (c : Config) : Prop :=
  c.backends = [] ∨ ∀ p ∈ c.pools, (p.isDefault || p.enabled) = true →
    p.maxConnectionsPerEndpoint.toNat ≤ maxSlots

def ConnectionsFit (c : Config) : Prop := c.listener.maxConnections.toNat ≤ maxSlots

instance (c : Config) : Decidable c.SlotsFit := inferInstanceAs (Decidable (_ ∨ _))

instance (c : Config) : Decidable c.ConnectionsFit := inferInstanceAs (Decidable (_ ≤ _))

theorem fits_ofConfig (p : Pool) :
    (Policy.ofConfig p).fits = true ↔ p.maxConnectionsPerEndpoint.toNat ≤ maxSlots := by
  have hone : 1 ≤ maxSlots := by decide
  simp only [Policy.fits, Policy.ofConfig, decide_eq_true_eq, Nat.max_le, hone, and_true]

theorem configuredEndpoints_eq_nil {c : Config} (h : c.Routable) :
    ReverseProxy.Routing.configuredEndpoints c = [] ↔ c.backends = [] := by
  rw [List.eq_nil_iff_forall_not_mem, List.eq_nil_iff_forall_not_mem]
  constructor
  · intro hnone b hb
    obtain ⟨e, he⟩ := h.addresses b hb
    exact hnone e (ReverseProxy.Routing.mem_configuredEndpoints.2 ⟨b, hb, he⟩)
  · intro hnone e he
    obtain ⟨b, hb, _⟩ := ReverseProxy.Routing.mem_configuredEndpoints.1 he
    exact hnone b hb

theorem Valid.oneDefault {c : Config} (h : c.Valid) :
    (c.pools.filter Pool.isDefault).length ≤ 1 := by
  unfold Valid findings poolsFindings at h
  simp only [List.append_eq_nil_iff, when_eq_nil] at h
  obtain ⟨⟨⟨⟨⟨⟨_, _, hone⟩, _⟩, _⟩, _⟩, _⟩, _⟩ := h
  simpa using hone

theorem mem_used {c : Config} (h : c.Valid) {p : Pool} : p ∈ choosy c.pools ++ [fallback c.pools] ↔
    (p ∈ c.pools ∧ (p.isDefault || p.enabled) = true) ∨
      (c.pools.find? Pool.isDefault = none ∧ p = {}) := by
  have hone := h.oneDefault
  have hfirst : c.pools.find? Pool.isDefault = (c.pools.filter Pool.isDefault).head? :=
    List.head?_filter.symm
  have hdefault : p ∈ c.pools ∧ p.isDefault = true ↔ p ∈ c.pools.filter Pool.isDefault :=
    List.mem_filter.symm
  have hchoosy : p ∈ choosy c.pools ↔ p ∈ c.pools ∧ p.isDefault = false ∧ p.enabled = true := by
    simp [choosy]
  rw [List.mem_append, List.mem_singleton, hchoosy, fallback, hfirst]
  match hall : c.pools.filter Pool.isDefault with
  | [] =>
    rw [hall] at hdefault
    cases hd : p.isDefault <;> simp_all
  | [d] =>
    rw [hall, List.mem_singleton] at hdefault
    cases hd : p.isDefault <;> simp_all
  | d :: d' :: ds =>
    rw [hall] at hone
    simp at hone

theorem Valid.slotsFit_iff {c : Config} (h : c.Valid) :
    slotsFit c.pools (ReverseProxy.Routing.configuredEndpoints c) = true ↔ c.SlotsFit := by
  have hadded : (Policy.ofConfig {}).fits = true := by decide
  have hpolicies : (activePolicies c.pools).all Policy.fits = true ↔
      ∀ p ∈ choosy c.pools ++ [fallback c.pools], (Policy.ofConfig p).fits = true := by
    rw [activePolicies_eq, List.all_map, List.all_eq_true]
    rfl
  unfold slotsFit SlotsFit
  rw [Bool.or_eq_true, List.isEmpty_iff, configuredEndpoints_eq_nil h.routable, hpolicies]
  refine or_congr_right ⟨fun hall p hp hused => ?_, fun hall p hp => ?_⟩
  · exact (fits_ofConfig p).1 (hall p ((mem_used h).2 (.inl ⟨hp, hused⟩)))
  · rcases (mem_used h).1 hp with ⟨hp, hused⟩ | ⟨_, rfl⟩
    · exact (fits_ofConfig p).2 (hall p hp hused)
    · exact hadded

theorem Valid.slotsFit_eq_false_iff {c : Config} (h : c.Valid) :
    slotsFit c.pools (ReverseProxy.Routing.configuredEndpoints c) = false ↔ ¬c.SlotsFit := by
  rw [← h.slotsFit_iff, Bool.not_eq_true]

end Config

namespace Server
open Pool

theorem build_of_valid {c : Config} (hc : c.Valid) (pages : Pages) (nowMs : Nat) :
    if c.SlotsFit ∧ c.ConnectionsFit then ∃ start, build c pages nowMs = .ok start
    else build c pages nowMs = .error .tooManySlots := by
  obtain ⟨mapper, hmapper, _⟩ := Routing.Mapper.exists_build hc.routable
  have hfindings : ¬c.findings ≠ [] := not_not.2 hc
  unfold build
  rw [if_neg hfindings, hmapper]
  dsimp only
  by_cases hslots : c.SlotsFit
  · rw [hc.slotsFit_iff.2 hslots]
    by_cases hconnections : c.ConnectionsFit
    · rw [if_pos ⟨hslots, hconnections⟩, if_neg (Nat.not_lt.2 hconnections)]
      exact ⟨_, rfl⟩
    · rw [if_neg fun h => hconnections h.2, if_pos (Nat.lt_of_not_le hconnections)]
      rfl
  · rw [hc.slotsFit_eq_false_iff.2 hslots, if_neg fun h => hslots h.1]
    rfl

/-- What a reload leaves that stops on its way: the mapper is that of the new configuration, the
pools are those of the old one. -/
structure BreaksOff (s : Server) (c : Config) (s' : Server) : Prop where
  mapper : Routing.Mapper.build c = .ok s'.proxy.mapper
  generation : s'.proxy.pools.registry.generation = s.proxy.pools.registry.generation
  pools : s'.proxy.pools.registry.pool? = s.proxy.pools.registry.pool?
  drains : s'.proxy.pools.drains = s.proxy.pools.drains

/-- A server starts with a valid configuration exactly if its limits can be counted, and takes it on
later exactly if those of its pools can. If they cannot, it stops between the mapper and the
pools. -/
theorem limits_of_valid {c : Config} (hc : c.Valid) (pages : Pages) (nowMs : Nat) (s : Server) :
    (if c.SlotsFit ∧ c.ConnectionsFit then ∃ start, build c pages nowMs = .ok start
      else build c pages nowMs = .error .tooManySlots) ∧
    if c.SlotsFit then ∃ drains, (s.reload c).1 = .ok drains
    else (s.reload c).1 = .error .tooManySlots ∧ s.BreaksOff c (s.reload c).2 := by
  refine ⟨build_of_valid hc pages nowMs, ?_⟩
  have h := s.reloads c
  generalize s.reload c = result at h ⊢
  cases h with
  | turnsAway hinvalid => exact absurd hc hinvalid
  | breaksOff _ hmapper _ hlimit =>
    rw [if_neg (hc.slotsFit_eq_false_iff.1 hlimit)]
    exact ⟨rfl, hmapper, rfl, funext (Registry.pool?_forgo _ c.pools), rfl⟩
  | takesOn _ _ _ hfit =>
    rw [if_pos (hc.slotsFit_iff.1 hfit)]
    exact ⟨_, rfl⟩

theorem limits_of_valid_hundred :
    let c : Config := {
      backends := [⟨"a", "web", "10.0.0.1:80"⟩]
      pools := [{ maxConnectionsPerEndpoint := 100 }]
      listener := { maxConnections := 100 } }
    c.Valid ∧ ∀ s : Server, (∃ start, build c .empty 0 = .ok start) ∧
      ∃ drains, (s.reload c).1 = .ok drains := by
  intro c
  have hvalid : c.Valid := by decide +kernel
  have hslots : c.SlotsFit := by decide +kernel
  have hconnections : c.ConnectionsFit := by decide +kernel
  refine ⟨hvalid, fun s => ?_⟩
  obtain ⟨hstarts, hreloads⟩ := limits_of_valid hvalid .empty 0 s
  rw [if_pos ⟨hslots, hconnections⟩] at hstarts
  rw [if_pos hslots] at hreloads
  exact ⟨hstarts, hreloads⟩

/-- Valid configurations with limits that cannot be counted: one that a server does not start with,
and one that leaves a server with the new pages and the old pools. -/
theorem valid_limits_stop_server :
    let many : UInt64 := 2305843009213693952
    let site (resource : String) : Config.Route :=
      { name := "site", action := .static, resource := some resource }
    let old : Config := {
      backends := [⟨"a", "web", "10.0.0.1:80"⟩]
      routes := [site "old"] }
    let new : Config := { old with
      routes := [site "new"]
      pools := [{ maxConnectionsPerEndpoint := many }] }
    let crowded : Config := { listener := { maxConnections := many } }
    let view : Routing.RequestView := ⟨"GET", ⟨none, none, "/", none⟩, .empty, false⟩
    old.Valid ∧ new.Valid ∧ crowded.Valid ∧
      (∃ start, build old .empty 0 = .ok start ∧
        let s := (start.reload new).2
        (start.reload new).1 = .error .tooManySlots ∧ s.proxy.pools.registry.generation = 1 ∧
          ((s.proxy.mapper.map view fun _ => true).1.bind (·.resource)) = some "new") ∧
      (build crowded .empty 0).toOption.isNone := by
  intro many site old new crowded view
  have hrun : (build old .empty 0).toOption.map (fun start =>
      let s := (start.reload new).2
      ((start.reload new).1, s.proxy.pools.registry.generation,
        (s.proxy.mapper.map view fun _ => true).1.bind (·.resource))) =
          some (.error .tooManySlots, 1, some "new") := by decide +kernel
  obtain ⟨start, hbuild, hrun⟩ := exists_ok_of_map hrun
  obtain ⟨hstops, hrest⟩ := Prod.mk.inj hrun
  obtain ⟨hgeneration, hresource⟩ := Prod.mk.inj hrest
  exact ⟨by decide +kernel, by decide +kernel, by decide +kernel,
    ⟨start, hbuild, hstops, hgeneration, hresource⟩, by decide +kernel⟩

structure Together (s : Server) (c : Config) : Prop where
  valid : c.Valid
  mapper : s.proxy.mapper.Of c
  governed : s.proxy.Governed c

variable {s : Server} {c : Config}

theorem Together.event (h : s.Together c) {e : Event}
    (hsame : ∀ m, .mapper m ∉ e.changes) (hnone : s.applied? e = none) :
    (s.step e).2.Together ((s.applied? e).getD c) where
  valid := by
    rw [hnone]
    exact h.valid
  mapper := by
    rw [proxy_step, hnone]
    exact Proxy.mapper_after (fun _ view available hof =>
      (Routing.Mapper.map_of h.valid.routable hof view available).1) h.mapper
      fun m hm => absurd hm (hsame m)
  governed := (governed_step h.governed e).1

theorem Together.reload (h : s.Together c) {c' : Config} (hfit : c'.Valid → c'.SlotsFit) :
    (s.step (.reload c')).2.Together ((s.applied? (.reload c')).getD c) := by
  have hgoverned := (governed_step h.governed (.reload c')).1
  have hcases := s.reloads c'
  simp only [Server.step, applied?] at hgoverned ⊢
  generalize s.reload c' = result at hcases hgoverned ⊢
  cases hcases with
  | turnsAway => exact h
  | breaksOff hvalid _ _ hlimit =>
    exact absurd (hfit hvalid) (hvalid.slotsFit_eq_false_iff.1 hlimit)
  | takesOn hvalid _ hof => exact ⟨hvalid, hof, hgoverned⟩

theorem Together.step (h : s.Together c) (e : Event)
    (hfit : ∀ c', e = .reload c' → c'.Valid → c'.SlotsFit) :
    (s.step e).2.Together ((s.applied? e).getD c) := by
  cases e with
  | reload c' => exact h.reload (hfit c' rfl)
  | request connection r fresh =>
    refine h.event ?_ rfl
    simp only [Event.changes]
    split <;> simp
  | forward | timePasses | clockSet | sweep => exact h.event (by simp [Event.changes]) rfl

theorem Together.run (h : s.Together c) {es : List Event}
    (hfit : ∀ c', .reload c' ∈ es → c'.Valid → c'.SlotsFit) :
    (s.run es).Together (s.inForce c es) := by
  induction es generalizing s c with
  | nil => exact h
  | cons e es ih =>
    rw [inForce_cons]
    refine ih (h.step e fun c' he => hfit c' (he ▸ List.mem_cons_self)) fun c' hmem => ?_
    exact hfit c' (List.mem_cons_of_mem e hmem)

/-- As long as the slots of every valid configuration that it is given can be counted, a server
decides and forwards by one and the same configuration. -/
theorem together_of_reloads {pages : Pages} {nowMs : Nat} {start : Server}
    (hbuild : build c pages nowMs = .ok start) (es : List Event)
    (hfit : ∀ c', .reload c' ∈ es → c'.Valid → c'.SlotsFit) :
    (start.run es).Together (start.inForce c es) := by
  obtain ⟨hvalid, mapper, hmapper, hstart⟩ := eq_of_build hbuild
  obtain ⟨_, hbuilt, hof⟩ := Routing.Mapper.exists_build hvalid.routable
  rw [hmapper] at hbuilt
  have hfirst : start.proxy.mapper.Of c := by
    rw [hstart, Except.ok.inj hbuilt]
    exact hof
  exact Together.run ⟨hvalid, hfirst, governed_build hbuild⟩ hfit

end Server
end ReverseProxy
