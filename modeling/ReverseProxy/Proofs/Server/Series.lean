import ReverseProxy.Proofs.Routing.Validated
import ReverseProxy.Proofs.Server.Reloads

set_option autoImplicit false

namespace ReverseProxy

namespace Config

/-- No pool is added to these, or the one that is has an id that no enabled one has. -/
def NamesApart (configs : List Pool) : Prop :=
  (∃ c ∈ configs, c.isDefault = true) ∨ ∀ c ∈ configs, c.enabled = true → c.id ≠ "default"

instance (configs : List Pool) : Decidable (NamesApart configs) :=
  inferInstanceAs (Decidable (_ ∨ _))

theorem Valid.poolIds {c : Config} (h : c.Valid) : (c.pools.map Pool.id).Nodup := by
  unfold Valid findings poolsFindings at h
  simp only [List.append_eq_nil_iff] at h
  obtain ⟨⟨⟨⟨⟨⟨_, hpools, _⟩, _⟩, _⟩, _⟩, _⟩, _⟩ := h
  unfold List.Nodup
  rw [List.pairwise_map, List.pairwise_iff_getElem]
  intro i j hi hj hlt heq
  have hfound := check_getElem hpools hj
  simp only [poolFindings, List.append_eq_nil_iff] at hfound
  obtain ⟨⟨⟨hid, _⟩, _⟩, _⟩ := hfound
  split at hid
  · cases hid
  · have hmem : c.pools[i] ∈ c.pools.take j := List.mem_take_iff_getElem.2 ⟨i, by omega, rfl⟩
    have hnone := when_eq_nil.1 hid
    rw [List.any_eq_false] at hnone
    exact hnone _ hmem (beq_iff_eq.2 heq)

end Config

namespace Pool

theorem nodup_activeIds {configs : List Config.Pool}
    (hd : (configs.map Config.Pool.id).Nodup) :
    ((activePolicies configs).map Policy.id).Nodup ↔ Config.NamesApart configs := by
  have hid : Policy.id ∘ Policy.ofConfig = Config.Pool.id := by
    funext c
    simp only [Function.comp_apply, Policy.ofConfig]
  have hsome : ((configs.filter fun c => !c.isDefault && c.enabled).map Config.Pool.id).Nodup :=
    hd.sublist (List.filter_sublist.map _)
  rw [Registry.activePolicies_eq, List.map_map, hid, List.map_append, List.nodup_append]
  unfold Registry.choosy Registry.fallback
  cases hfind : configs.find? Config.Pool.isDefault with
  | some d =>
    have hmem := List.mem_of_find?_eq_some hfind
    have hdefault := List.find?_some hfind
    refine iff_of_true ⟨hsome, List.nodup_singleton _, fun a ha b hb hab => ?_⟩
      (.inl ⟨d, hmem, hdefault⟩)
    obtain ⟨c, hc, rfl⟩ := List.mem_map.1 ha
    obtain ⟨hc, hplain⟩ := List.mem_filter.1 hc
    have hsame : c.id = d.id := hab.trans (List.mem_singleton.1 hb)
    rw [List.inj_on_of_nodup_map hd hc hmem hsame, hdefault] at hplain
    cases hplain
  | none =>
    have hplain : ∀ c ∈ configs, ¬c.isDefault = true := List.find?_eq_none.1 hfind
    constructor
    · rintro ⟨_, _, hapart⟩
      refine .inr fun c hc henabled heq => ?_
      refine hapart c.id (List.mem_map_of_mem (List.mem_filter.2 ⟨hc, ?_⟩)) "default"
        List.mem_cons_self heq
      rw [Bool.eq_false_iff.2 (hplain c hc), henabled]
      rfl
    · intro hapart
      refine ⟨hsome, List.nodup_singleton _, fun a ha b hb hab => ?_⟩
      obtain ⟨c, hc, rfl⟩ := List.mem_map.1 ha
      obtain ⟨hc, hkept⟩ := List.mem_filter.1 hc
      rcases hapart with ⟨d, hdmem, hdefault⟩ | hapart
      · exact hplain d hdmem hdefault
      · exact hapart c hc (Bool.and_eq_true_iff.1 hkept).2 (hab.trans (List.mem_singleton.1 hb))

namespace Registry

def Distinct (r : Registry) : Prop :=
  ∀ generation, ((r.pools generation).map ConnectionPool.id).Nodup

section
variable {r r' : Registry}

theorem ids_pools (r : Registry) (generation : Nat) :
    (r.pools generation).map ConnectionPool.id =
      ((r.pools generation).map ConnectionPool.policy).map Policy.id := by
  rw [List.map_map]
  rfl

theorem Distinct.later (h : r.Distinct) (ha : r.Ages r') (hk : r.Keeps r') : r'.Distinct := by
  intro generation
  rw [ids_pools, pools_later ha hk, ← ids_pools]
  exact h generation

theorem Distinct.install (h : r.Distinct) {configs : List Config.Pool}
    (hd : ((activePolicies configs).map Policy.id).Nodup) (endpoints : List Endpoint) :
    (r.install configs endpoints).Distinct := by
  obtain ⟨hgenerations, hcurrent⟩ := current_install r configs endpoints
  have hnew : ((r.install configs endpoints).current.map ConnectionPool.id).Nodup := by
    rw [hcurrent, List.map_map]
    exact hd
  intro generation
  have hold := h generation
  unfold pools at hold ⊢
  split
  · exact List.nodup_nil
  · next hzero =>
    rw [if_neg hzero] at hold
    rw [hgenerations]
    rcases Nat.lt_trichotomy (generation - 1) r.generations.length with hlt | heq | hgt
    · rw [List.getD_append _ _ _ _ hlt]
      exact hold
    · rw [List.getD_append_right _ _ _ _ (Nat.le_of_eq heq.symm), heq, Nat.sub_self]
      exact hnew
    · rw [List.getD_eq_default _ _ (by simp; omega)]
      exact List.nodup_nil

theorem Distinct.of_mem (h : r.Distinct) {ps : List ConnectionPool} (hps : ps ∈ r.generations) :
    (ps.map ConnectionPool.id).Nodup := by
  obtain ⟨i, hi, rfl⟩ := List.mem_iff_getElem.1 hps
  have hgeneration := h (i + 1)
  unfold pools at hgeneration
  rw [if_neg (Nat.succ_ne_zero i), Nat.add_sub_cancel, List.getD_eq_getElem _ _ hi] at hgeneration
  exact hgeneration

end

end Registry

end Pool

namespace Server
open Pool

section
variable {s : Server} {c : Config}

theorem distinct_after {p : Proxy} (h : p.Governed c) (hd : p.pools.registry.Distinct)
    {cs : List Proxy.Change} (hcs : ∀ change ∈ cs, change.Spares) :
    (p.after cs).pools.registry.Distinct := by
  induction cs generalizing p with
  | nil => exact hd
  | cons change cs ih =>
    have hc := hcs change List.mem_cons_self
    refine ih (h.change hc) ?_ fun d hmem => hcs d (List.mem_cons_of_mem change hmem)
    exact hd.later (h.held.ages_change h.orderly change) (h.held.keeps_change h.orderly hc.1)

theorem distinct_step (h : s.proxy.Governed c) (hd : s.proxy.pools.registry.Distinct) (e : Event)
    (happly : ∀ c', s.applied? e = some c' → Config.NamesApart c'.pools) :
    (s.step e).2.proxy.pools.registry.Distinct := by
  rw [proxy_step]
  rcases s.changes_cases e with ⟨c', mapper, happlied, hvalid, hchanges⟩ | ⟨_, hspares⟩
  · rw [hchanges]
    let installed : Schedule := { s.proxy.pools with
      registry := s.proxy.pools.registry.install c'.pools (Routing.configuredEndpoints c') }
    have hinstalled := hd.install ((nodup_activeIds hvalid.poolIds).2 (happly c' happlied))
      (Routing.configuredEndpoints c')
    exact hinstalled.later (installed.ages_disposeAll _) (installed.keeps_disposeAll _)
  · exact distinct_after h hd hspares

theorem distinct_run (h : s.proxy.Governed c) (hd : s.proxy.pools.registry.Distinct)
    {es : List Event} (happly : ∀ c' ∈ s.applied es, Config.NamesApart c'.pools) :
    (s.run es).proxy.pools.registry.Distinct := by
  induction es generalizing s c with
  | nil => exact hd
  | cons e es ih =>
    refine ih (governed_step h e).1 (distinct_step h hd e fun c' hc' => ?_) fun c' hc' => ?_
    · exact happly c' (List.mem_append_left _ (by rw [hc']; exact List.mem_cons_self))
    · exact happly c' (List.mem_append_right _ hc')

theorem valid_applied (hc : c.Valid) (es : List Event) : (s.inForce c es).Valid := by
  induction es generalizing s c with
  | nil => exact hc
  | cons e es ih =>
    rw [inForce_cons]
    refine ih ?_
    rcases s.changes_cases e with ⟨c', mapper, happlied, hvalid, _⟩ | ⟨hnone, _⟩
    · rw [happlied]
      exact hvalid
    · rw [hnone]
      exact hc

end

/-- The pools in use have ids of their own just if the configuration in force keeps them apart. An
open pool whose id no other pool of its generation has is registered and shows its own numbers. If
every configuration that was ever in force keeps the ids apart, so do all generations, and there are
as many series as pools that have not closed. -/
theorem series_of_pools {c : Config} {pages : Pages} {nowMs : Nat} {start : Server}
    (hbuild : build c pages nowMs = .ok start) (es : List Event) :
    let r := (start.run es).proxy.pools.registry
    ((r.current.map ConnectionPool.id).Nodup ↔ Config.NamesApart (start.inForce c es).pools) ∧
    (∀ ref p, r.pool? ref = some p → p.closed = false →
      ((r.pools ref.generation).map ConnectionPool.id).Nodup →
        (p.id, p.generation) ∈ r.live ∧
          r.gauge? (p.id, p.generation) = some ⟨p.inFlight, p.slots.length⟩) ∧
    ((∀ c' ∈ c :: start.applied es, Config.NamesApart c'.pools) →
      (∀ ps ∈ r.generations, (ps.map ConnectionPool.id).Nodup) ∧
        r.live.length = r.generations.flatten.countP fun p => !p.closed) := by
  intro r
  obtain ⟨hvalid, mapper, hproxy⟩ := proxy_build hbuild
  have hstart := governed_build hbuild
  have h := governed_run hstart es
  have hshows : r.Shows := h.orderly.shows
  have hnumbered : r.Numbered := h.orderly.numbered
  have hids : (r.current.map ConnectionPool.id).Nodup ↔
      Config.NamesApart (start.inForce c es).pools := by
    rw [← nodup_activeIds (valid_applied hvalid es).poolIds, ← h.serving.policies]
    exact iff_of_eq (congrArg List.Nodup (Registry.ids_pools _ _))
  refine ⟨hids, fun ref p hp hopen hd => hshows.own hnumbered hp hopen hd, fun hall => ?_⟩
  have hfirst : start.proxy.pools.registry.Distinct := by
    rw [hproxy]
    have hempty : Registry.empty.Distinct := fun generation => by
      unfold Registry.pools Registry.empty
      split <;> exact List.nodup_nil
    exact hempty.install ((nodup_activeIds hvalid.poolIds).2 (hall c List.mem_cons_self)) _
  have hdistinct : r.Distinct := distinct_run hstart hfirst fun c' hc' =>
    hall c' (List.mem_cons_of_mem c hc')
  have hmem (ps : List ConnectionPool) (hps : ps ∈ r.generations) := hdistinct.of_mem hps
  exact ⟨hmem, hshows.length_live hnumbered hmem⟩

theorem series_of_pools_reloaded :
    let api : Config.Pool := { id := "api", domain := "*.api.test" }
    let c' : Config := { pools := [api] }
    ∃ start, build {} .empty 0 = .ok start ∧
      let r := (start.run [.reload c']).proxy.pools.registry
      (∀ ps ∈ r.generations, (ps.map ConnectionPool.id).Nodup) ∧ r.live.length = 3 := by
  intro api c'
  have hrun : (build {} .empty 0).toOption.map (fun start =>
      (start.applied [.reload c'],
        (start.run [.reload c']).proxy.pools.registry.generations.flatten.countP fun p =>
          !p.closed)) = some ([c'], 3) := by decide +kernel
  cases hbuild : build {} .empty 0 with
  | error cause =>
    rw [hbuild] at hrun
    cases hrun
  | ok start =>
    rw [hbuild] at hrun
    obtain ⟨happlied, hopen⟩ := Prod.mk.inj (Option.some.inj hrun)
    obtain ⟨_, _, hseries⟩ := series_of_pools hbuild [.reload c']
    rw [happlied] at hseries
    obtain ⟨hids, hlive⟩ := hseries (by decide +kernel)
    exact ⟨start, rfl, hids, hlive.trans hopen⟩

/-- A pool with the id of the one that is added shares its series with it. -/
theorem added_pool_shares_series :
    let c : Config := { pools := [{ id := "default", domain := "api.local" }] }
    c.Valid ∧ ∃ start, build c .empty 0 = .ok start ∧
      let r := start.proxy.pools.registry
      r.current.map ConnectionPool.id = ["default", "default"] ∧ r.live = [("default", 1)] ∧
        (r.generations.flatten.countP fun p => !p.closed) = 2 := by
  intro c
  have hrun : (build c .empty 0).toOption.map (fun start =>
      (start.proxy.pools.registry.current.map ConnectionPool.id, start.proxy.pools.registry.live,
        start.proxy.pools.registry.generations.flatten.countP fun p => !p.closed)) =
          some (["default", "default"], [("default", 1)], 2) := by decide +kernel
  cases hbuild : build c .empty 0 with
  | error cause =>
    rw [hbuild] at hrun
    cases hrun
  | ok start =>
    rw [hbuild] at hrun
    obtain ⟨hids, hrest⟩ := Prod.mk.inj (Option.some.inj hrun)
    obtain ⟨hlive, hopen⟩ := Prod.mk.inj hrest
    exact ⟨by decide +kernel, start, rfl, hids, hlive, hopen⟩

end Server
end ReverseProxy
