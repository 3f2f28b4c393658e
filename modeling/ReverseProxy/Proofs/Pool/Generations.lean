import ReverseProxy.Proofs.Pool.Fares
import ReverseProxy.Proofs.Pool.Series

set_option autoImplicit false

namespace ReverseProxy.Pool

namespace Registry

/-- There are the same pools later, and the same generation is in use. -/
structure Keeps (r r' : Registry) : Prop where
  refs : ∀ ref, (r'.pool? ref).isSome = (r.pool? ref).isSome
  generation : r'.generation = r.generation

/-- The generation in use serves what was configured. -/
structure Serving (r : Registry) (configs : List Config.Pool) (endpoints : List Endpoint) :
    Prop where
  policies : r.current.map ConnectionPool.policy = activePolicies configs
  known : ∀ place p, r.pool? ⟨r.generation, place⟩ = some p → p.closed = false →
    ∀ e ∈ endpoints, (p.find? e).isSome

def choosy (configs : List Config.Pool) : List Config.Pool :=
  configs.filter fun c => !c.isDefault && c.enabled

def fallback (configs : List Config.Pool) : Config.Pool :=
  (configs.find? Config.Pool.isDefault).getD {}

/-- The policy for a host: that of the first enabled pool for some hosts that has it among them, or
else that of the first pool for all hosts, or else the default one. -/
def policyFor (configs : List Config.Pool) (host : String) : Config.Pool :=
  ((configs.find? fun c => !c.isDefault && c.enabled && (Domain.parse c.domain).serves host).or
    (configs.find? Config.Pool.isDefault)).getD {}

section
variable {r r' r'' : Registry} {ref : PoolRef} {p q : ConnectionPool}
  {configs : List Config.Pool} {endpoints : List Endpoint}

theorem keeps_refl (r : Registry) : r.Keeps r := ⟨fun _ => rfl, rfl⟩

theorem Keeps.trans (h : r.Keeps r') (h' : r'.Keeps r'') : r.Keeps r'' :=
  ⟨fun ref => (h'.refs ref).trans (h.refs ref), h'.generation.trans h.generation⟩

theorem Served.keeps (h : r.Served r') : r.Keeps r' := by
  refine ⟨fun ref => ?_, h.frame.1⟩
  cases hp : r.pool? ref with
  | some p =>
    obtain ⟨q, hq, _⟩ := h.pool? hp
    rw [hq]
    rfl
  | none =>
    cases hq : r'.pool? ref with
    | none => rfl
    | some q =>
      obtain ⟨p, hp', _⟩ := h.pool?_back hq
      rw [hp] at hp'
      cases hp'

theorem keeps_of_pool? (hp : r.pool? ref = some p)
    (hpool : ∀ other, r'.pool? other = if other = ref then some q else r.pool? other)
    (hg : r'.generation = r.generation) : r.Keeps r' := by
  refine ⟨fun other => ?_, hg⟩
  rw [hpool]
  split
  · next heq => rw [heq, hp]; rfl
  · rfl

theorem keeps_close (r : Registry) (ref : PoolRef) : r.Keeps (r.close ref) := by
  cases hp : r.pool? ref with
  | none =>
    unfold Registry.close
    rw [hp]
    exact r.keeps_refl
  | some p =>
    refine keeps_of_pool? hp (pool?_close hp) ?_
    unfold Registry.close
    rw [hp]
    rfl

theorem keeps_beginClosing (r : Registry) (ref : PoolRef) : r.Keeps (r.beginClosing ref).2 := by
  cases hp : r.pool? ref with
  | none =>
    unfold Registry.beginClosing
    rw [hp]
    exact r.keeps_refl
  | some p =>
    refine keeps_of_pool? hp (pool?_beginClosing hp) ?_
    unfold Registry.beginClosing
    rw [hp]
    rfl

theorem keeps_forgo (r : Registry) (configs : List Config.Pool) : r.Keeps (r.forgo configs) :=
  ⟨fun ref => by rw [pool?_forgo], rfl⟩

theorem generation_resolve (r : Registry) (host : String) :
    (r.resolve host).generation = r.generation := by
  unfold Registry.resolve
  split <;> rfl

theorem generation_install (r : Registry) (configs : List Config.Pool)
    (endpoints : List Endpoint) :
    (r.install configs endpoints).generation = r.generations.length + 1 :=
  (register_generations _ _).2

theorem Backs.generation_le {leases : List Lease} {waits : List (Ticket × Lease)}
    (h : r.Backs leases waits) : r.generation ≤ r.generations.length := by
  have hcurrent := h.current
  unfold Registry.current Registry.pools at hcurrent
  by_contra hgt
  rw [List.getD_eq_default _ _ (by omega), ite_self] at hcurrent
  exact hcurrent rfl

theorem pools_later (ha : r.Ages r') (hk : r.Keeps r') (generation : Nat) :
    (r'.pools generation).map ConnectionPool.policy =
      (r.pools generation).map ConnectionPool.policy := by
  refine List.ext_getElem? fun place => ?_
  rw [List.getElem?_map, List.getElem?_map]
  change (r'.pool? ⟨generation, place⟩).map _ = (r.pool? ⟨generation, place⟩).map _
  have hsome := hk.refs ⟨generation, place⟩
  cases hp : r.pool? ⟨generation, place⟩ with
  | none =>
    rw [hp, Option.isSome_none, Option.isSome_eq_false_iff, Option.isNone_iff_eq_none] at hsome
    rw [hsome]
  | some p =>
    obtain ⟨q, hq, hpq⟩ := ha _ p hp
    rw [hq, Option.map_some, Option.map_some, hpq.policy]

theorem Serving.later (h : r.Serving configs endpoints) (ha : r.Ages r') (hk : r.Keeps r') :
    r'.Serving configs endpoints := by
  refine ⟨?_, fun place q hq hopen e he => ?_⟩
  · unfold current
    rw [hk.generation, pools_later ha hk]
    exact h.policies
  · rw [hk.generation] at hq
    have hsome := hk.refs ⟨r.generation, place⟩
    rw [hq, Option.isSome_some] at hsome
    obtain ⟨p, hp⟩ := Option.isSome_iff_exists.1 hsome.symm
    obtain ⟨a, ha, hpa⟩ := ha _ p hp
    rw [hq] at ha
    cases ha
    have hbefore : p.closed = false := by
      by_contra hc
      rw [hpa.closed (Bool.eq_true_of_not_eq_false hc)] at hopen
      cases hopen
    have hknown := h.known place p hp hbefore e he
    rw [ConnectionPool.isSome_find?_iff] at hknown ⊢
    exact (hpa.known hopen).subset hknown

theorem serving_install (r : Registry) (configs : List Config.Pool) (endpoints : List Endpoint) :
    (r.install configs endpoints).Serving configs endpoints := by
  obtain ⟨_, hcurrent⟩ := current_install r configs endpoints
  refine ⟨?_, fun place p hp _ e he => ?_⟩
  · rw [hcurrent, List.map_map]
    exact List.map_id' _
  · have hmem : p ∈ (r.install configs endpoints).current := List.mem_of_getElem? hp
    rw [hcurrent] at hmem
    obtain ⟨policy, _, rfl⟩ := List.mem_map.1 hmem
    rw [ConnectionPool.isSome_find?_iff]
    simpa [ConnectionPool.new, ConnectionPool.slotsOf] using he

theorem toLower_eq_star {c : Char} : c.toLower = '*' ↔ c = '*' := by
  unfold Char.toLower
  split
  · next h =>
    have hne : c ≠ '*' := by
      rintro rfl
      exact absurd h (by decide)
    refine iff_of_false (fun heq => ?_) hne
    have hval : c.val + 32 = 42 := congrArg Char.val heq
    have hlow : (65 : UInt32) ≤ c.val := h.1
    have hhigh : c.val ≤ 90 := h.2
    have hnat := congrArg UInt32.toNat hval
    rw [UInt32.toNat_add] at hnat
    rw [UInt32.le_iff_toNat_le] at hlow hhigh
    simp only [UInt32.reduceToNat] at hnat hlow hhigh
    omega
  · rfl

theorem lower_eq_anyDomain {s : String} : Text.lower s = anyDomain ↔ s = anyDomain := by
  unfold Text.lower anyDomain Chars.lower
  rw [← String.toList_inj, String.toList_ofList, ← String.toList_inj]
  change s.toList.map Char.toLower = ['*'] ↔ s.toList = ['*']
  rw [List.map_eq_singleton_iff]
  refine ⟨?_, fun h => ⟨'*', h, rfl⟩⟩
  rintro ⟨c, h, hc⟩
  rw [h, toLower_eq_star.1 hc]

theorem parse_eq_any (pattern : String) :
    (Domain.parse pattern == .any) = (Text.trim pattern == anyDomain) := by
  rw [Bool.eq_iff_iff, beq_iff_eq, beq_iff_eq, ← lower_eq_anyDomain]
  unfold Domain.parse
  dsimp only
  split
  · next h => exact iff_of_true rfl h
  · next h =>
    refine iff_of_false (fun heq => ?_) h
    split at heq <;> cases heq

theorem domain_ofConfig (c : Config.Pool) :
    (Policy.ofConfig c).domain = Domain.parse c.domain := by simp only [Policy.ofConfig]

theorem enabled_ofConfig (c : Config.Pool) : (Policy.ofConfig c).enabled = c.enabled := by
  simp only [Policy.ofConfig]

theorem isDefault_ofConfig (c : Config.Pool) : (Policy.ofConfig c).isDefault = c.isDefault := by
  unfold Policy.isDefault Config.Pool.isDefault
  rw [domain_ofConfig, parse_eq_any]

theorem serves_ofConfig (c : Config.Pool) (host : String) :
    (Policy.ofConfig c).serves host = (Domain.parse c.domain).serves host := by
  unfold Policy.serves
  rw [domain_ofConfig]

theorem activePolicies_eq (configs : List Config.Pool) :
    activePolicies configs = (choosy configs ++ [fallback configs]).map Policy.ofConfig := by
  have hsome : (fun p : Policy => !p.isDefault && p.enabled) ∘ Policy.ofConfig =
      fun c : Config.Pool => !c.isDefault && c.enabled := by
    funext c
    rw [Function.comp_apply, isDefault_ofConfig, enabled_ofConfig]
  have hall : Policy.isDefault ∘ Policy.ofConfig = Config.Pool.isDefault := by
    funext c
    rw [Function.comp_apply, isDefault_ofConfig]
  unfold activePolicies choosy fallback
  dsimp only
  rw [List.find?_map, hall, List.filter_map, hsome, List.map_append, List.map_singleton]
  cases configs.find? Config.Pool.isDefault with
  | none => rw [Option.map_none, Option.getD_none, Option.getD_none]
  | some c => rw [Option.map_some, Option.getD_some, Option.getD_some]

theorem policyFor_eq (configs : List Config.Pool) (host : String) : policyFor configs host =
    ((choosy configs).find? fun c => (Domain.parse c.domain).serves host).getD
      (fallback configs) := by
  have hfirst : configs.find? (fun c => !c.isDefault && c.enabled &&
      (Domain.parse c.domain).serves host) =
        (choosy configs).find? fun c => (Domain.parse c.domain).serves host := by
    unfold choosy
    rw [List.find?_filter]
    congr 1
    funext c
    simp
  unfold policyFor
  rw [hfirst]
  cases (choosy configs).find? fun c => (Domain.parse c.domain).serves host <;> rfl

theorem Serving.resolve_eq (h : r.Serving configs endpoints) (host : String) : r.resolve host =
    ⟨r.generation, ((choosy configs).findIdx? fun c => (Domain.parse c.domain).serves host).getD
      (choosy configs).length⟩ := by
  have hcurrent := h.policies.trans (activePolicies_eq configs)
  have hlength : r.current.length = (choosy configs).length + 1 := by
    simpa using congrArg List.length hcurrent
  have hdrop : r.current.dropLast.map ConnectionPool.policy =
      (choosy configs).map Policy.ofConfig := by
    rw [List.map_dropLast, hcurrent, List.map_append, List.map_singleton, List.dropLast_concat]
  have hcomp : (fun p : ConnectionPool => p.policy.serves host) =
      (fun p : Policy => p.serves host) ∘ ConnectionPool.policy := rfl
  have hserves : (fun p : Policy => p.serves host) ∘ Policy.ofConfig =
      fun c : Config.Pool => (Domain.parse c.domain).serves host := by
    funext c
    rw [Function.comp_apply, serves_ofConfig]
  unfold Registry.resolve
  rw [hcomp, ← List.findIdx?_map, hdrop, List.findIdx?_map, hserves]
  cases (choosy configs).findIdx? fun c => (Domain.parse c.domain).serves host with
  | some place => rfl
  | none =>
    change (⟨r.generation, r.current.length - 1⟩ : PoolRef) = _
    rw [hlength]
    rfl

theorem Serving.resolve {leases : List Lease} {waits : List (Ticket × Lease)}
    (h : r.Serving configs endpoints) (hb : r.Backs leases waits) (host : String) :
    ∃ p, r.pool? (r.resolve host) = some p ∧ (r.resolve host).generation = r.generation ∧
      p.policy = Policy.ofConfig (policyFor configs host) := by
  obtain ⟨p, hp⟩ := hb.resolve host
  refine ⟨p, hp, r.generation_resolve host, ?_⟩
  rw [h.resolve_eq] at hp
  have hplace {place : Nat} (hp : r.pool? ⟨r.generation, place⟩ = some p) :
      some p.policy = ((choosy configs ++ [fallback configs])[place]?).map Policy.ofConfig := by
    rw [← List.getElem?_map, ← h.policies.trans (activePolicies_eq configs), List.getElem?_map]
    exact (congrArg (Option.map ConnectionPool.policy) hp).symm
  rw [policyFor_eq]
  cases hidx : (choosy configs).findIdx? fun c => (Domain.parse c.domain).serves host with
  | some place =>
    obtain ⟨hlt, hserves, hbefore⟩ := List.findIdx?_eq_some_iff_getElem.1 hidx
    have hget : (choosy configs).find? (fun c => (Domain.parse c.domain).serves host) =
        some (choosy configs)[place] :=
      List.find?_eq_some_iff_getElem.2 ⟨hserves, place, hlt, rfl, fun j hj => by
        simpa using hbefore j hj⟩
    rw [hidx, Option.getD_some] at hp
    have hpolicy := hplace hp
    rw [List.getElem?_append_left hlt, List.getElem?_eq_getElem hlt] at hpolicy
    rw [hget]
    exact Option.some.inj hpolicy
  | none =>
    have hnone : (choosy configs).find? (fun c => (Domain.parse c.domain).serves host) = none := by
      rw [List.find?_eq_none]
      intro c hc
      simpa using List.findIdx?_eq_none_iff.1 hidx c hc
    rw [hidx, Option.getD_none] at hp
    have hpolicy := hplace hp
    rw [List.getElem?_concat_length] at hpolicy
    rw [hnone]
    exact Option.some.inj hpolicy

theorem mem_refs {generation : Nat} :
    ref ∈ r.refs generation ↔ ref.generation = generation ∧ (r.pool? ref).isSome := by
  constructor
  · intro h
    obtain ⟨hgeneration, p, hp⟩ := pool?_of_mem_refs h
    exact ⟨hgeneration, hp ▸ rfl⟩
  · rintro ⟨rfl, hsome⟩
    obtain ⟨p, hp⟩ := Option.isSome_iff_exists.1 hsome
    obtain ⟨hlt, _⟩ := List.getElem?_eq_some_iff.1 hp
    exact List.mem_map.2 ⟨ref.place, List.mem_range.2 hlt, rfl⟩

theorem nodup_refs (r : Registry) (generation : Nat) : (r.refs generation).Nodup :=
  List.nodup_range.map fun _ _ heq => congrArg PoolRef.place heq

end

end Registry

namespace Schedule

def toldTo (s : Schedule) : List PoolRef := s.drains.map Drain.pool

def closesAt (s : Schedule) (ref : PoolRef) : Nat :=
  s.nowMs + ((s.registry.pool? ref).map (·.policy.disposeTimeout.millis)).getD 0

/-- All pools but the newest have been told to close once. -/
structure Relieved (s : Schedule) : Prop where
  newest : ∀ ref p, s.registry.pool? ref = some p → ref.generation ≤ s.registry.generation
  told : ∀ ref p, s.registry.pool? ref = some p →
    s.toldTo.count ref = if ref.generation = s.registry.generation then 0 else 1

/-- What holds of the pools at all times while only reloads tell them to close. -/
structure Orderly (s : Schedule) : Prop where
  timely : s.Timely
  drained : s.Drained
  relieved : s.Relieved
  attended : s.Attended
  patient : s.Patient
  shows : s.registry.Shows
  numbered : s.registry.Numbered

section
variable {s s' : Schedule} {hs : List Holding} {ref : PoolRef} {p : ConnectionPool}

theorem toldTo_eq (s : Schedule) : s.toldTo = s.orders.map Prod.fst := by
  unfold toldTo orders
  rw [List.map_map]
  rfl

theorem closesAt_eq (hp : s.registry.pool? ref = some p) :
    s.closesAt ref = s.nowMs + p.policy.disposeTimeout.millis := by
  unfold closesAt
  rw [hp]
  rfl

theorem orders_dispose (s : Schedule) (ref : PoolRef) :
    (s.dispose ref).orders = s.orders ++ [(ref, s.closesAt ref)] := by
  unfold orders
  exact List.map_append

theorem closesAt_dispose (s : Schedule) (ref other : PoolRef) :
    (s.dispose ref).closesAt other = s.closesAt other := by
  unfold closesAt
  change s.nowMs + (((s.registry.beginClosing ref).2.pool? other).map _).getD 0 = _
  cases hp : s.registry.pool? ref with
  | none =>
    unfold Registry.beginClosing
    rw [hp]
  | some p =>
    rw [Registry.pool?_beginClosing hp]
    by_cases heq : other = ref
    · rw [if_pos heq, heq, hp]
      rfl
    · rw [if_neg heq]

theorem orders_disposeAll (refs : List PoolRef) (s : Schedule) :
    (refs.foldl Schedule.dispose s).orders =
      s.orders ++ refs.map fun ref => (ref, s.closesAt ref) := by
  induction refs generalizing s with
  | nil => exact (List.append_nil _).symm
  | cons ref refs ih =>
    rw [List.foldl_cons, ih, orders_dispose, List.append_assoc]
    simp only [closesAt_dispose]
    rfl

theorem keeps_disposeAll (s : Schedule) (refs : List PoolRef) :
    s.registry.Keeps (refs.foldl Schedule.dispose s).registry := by
  induction refs generalizing s with
  | nil => exact s.registry.keeps_refl
  | cons ref refs ih => exact (s.registry.keeps_beginClosing ref).trans (ih (s.dispose ref))

theorem keeps_advance (hl : s.Ledger hs) (ht : s.Timely) (ms : Nat) :
    s.registry.Keeps (s.advance ms).registry := by
  refine advance_keeps (I := fun a => s.registry.Keeps a.registry) hl ht s.registry.keeps_refl
    (fun a _ h => h.trans a.serves_pickUpAll.registry.keeps)
    (fun a w _ _ h => h.trans (a.serves_giveUp w).registry.keeps)
    (fun a i d _ _ _ _ h => h.trans ?_) (fun _ _ _ h => h) ms
  unfold Schedule.look
  split
  · exact a.registry.keeps_close d.pool
  · exact a.registry.keeps_refl

theorem Relieved.congr (h : s.Relieved) (hk : s.registry.Keeps s'.registry)
    (ho : s'.orders = s.orders) : s'.Relieved := by
  have hback (ref : PoolRef) (q : ConnectionPool) (hq : s'.registry.pool? ref = some q) :
      ∃ p, s.registry.pool? ref = some p := by
    rw [← Option.isSome_iff_exists, ← hk.refs, hq]
    rfl
  refine ⟨fun ref q hq => ?_, fun ref q hq => ?_⟩
  · obtain ⟨p, hp⟩ := hback ref q hq
    rw [hk.generation]
    exact h.newest ref p hp
  · obtain ⟨p, hp⟩ := hback ref q hq
    rw [hk.generation, toldTo_eq, ho, ← toldTo_eq]
    exact h.told ref p hp

theorem Relieved.serves (h : s.Relieved) (hs : s.Serves s') : s'.Relieved := by
  refine h.congr hs.registry.keeps ?_
  unfold orders
  rw [hs.drains]

theorem Relieved.advance (h : s.Relieved) (hl : s.Ledger hs) (ht : s.Timely) (ms : Nat) :
    (s.advance ms).Relieved :=
  h.congr (keeps_advance hl ht ms) (orders_advance hl ht ms)

theorem Relieved.forgo (h : s.Relieved) (configs : List Config.Pool) :
    Relieved { s with registry := s.registry.forgo configs } :=
  h.congr (s.registry.keeps_forgo configs) rfl

theorem generation_reload (s : Schedule) (configs : List Config.Pool)
    (endpoints : List Endpoint) : (s.reload configs endpoints).2.registry.generation =
      s.registry.generations.length + 1 := by
  refine (keeps_disposeAll _ (s.registry.refs s.registry.generation)).generation.trans ?_
  exact s.registry.generation_install configs endpoints

theorem orders_reload (s : Schedule) (configs : List Config.Pool) (endpoints : List Endpoint) :
    (s.reload configs endpoints).2.orders = s.orders ++
      (s.registry.refs s.registry.generation).map fun ref => (ref, s.closesAt ref) := by
  refine (orders_disposeAll _ _).trans ?_
  congr 1
  refine List.map_congr_left fun ref href => ?_
  obtain ⟨p, hp⟩ := (Registry.pool?_of_mem_refs href).2
  have hp' : (s.registry.install configs endpoints).pool? ref = some p :=
    Registry.pool?_install_old configs endpoints hp
  rw [closesAt_eq hp]
  exact congrArg _ (closesAt_eq (s := { s with registry := _ }) hp')

theorem known_of_reload {configs : List Config.Pool} {endpoints : List Endpoint}
    (hp : (s.reload configs endpoints).2.registry.pool? ref = some p) :
    (∃ q, s.registry.pool? ref = some q) ∨
      ref.generation = (s.reload configs endpoints).2.registry.generation := by
  have hsome := (keeps_disposeAll { s with registry := s.registry.install configs endpoints }
    (s.registry.refs s.registry.generation)).refs ref
  change ((s.reload configs endpoints).2.registry.pool? ref).isSome =
    ((s.registry.install configs endpoints).pool? ref).isSome at hsome
  rw [hp, Option.isSome_some] at hsome
  obtain ⟨q, hq⟩ := Option.isSome_iff_exists.1 hsome.symm
  obtain ⟨hgenerations, _⟩ := Registry.current_install s.registry configs endpoints
  rcases Registry.pool?_append hgenerations hq with hq | ⟨hnew, _⟩
  · exact .inl ⟨q, hq⟩
  · exact .inr (hnew.trans (s.generation_reload configs endpoints).symm)

theorem Relieved.reload (h : s.Relieved) (hd : s.Drained) (hl : s.Ledger hs)
    (configs : List Config.Pool) (endpoints : List Endpoint) :
    (s.reload configs endpoints).2.Relieved := by
  have hused := hl.backs.generation_le
  have htold : (s.reload configs endpoints).2.toldTo =
      s.toldTo ++ s.registry.refs s.registry.generation := by
    rw [toldTo_eq, orders_reload, List.map_append, ← toldTo_eq, List.map_map]
    exact congrArg _ (List.map_id' _)
  have hcases (ref : PoolRef) (q : ConnectionPool)
      (hq : (s.reload configs endpoints).2.registry.pool? ref = some q) :
      (∃ p, s.registry.pool? ref = some p) ∨
        ref.generation = s.registry.generations.length + 1 :=
    s.generation_reload configs endpoints ▸ known_of_reload hq
  refine ⟨fun ref q hq => ?_, fun ref q hq => ?_⟩
  · rw [generation_reload]
    rcases hcases ref q hq with ⟨p, hp⟩ | hnew
    · exact Nat.le_succ_of_le (Registry.generation_le hp).2
    · exact Nat.le_of_eq hnew
  · rw [generation_reload, htold, List.count_append]
    rcases hcases ref q hq with ⟨p, hp⟩ | hnew
    · have hle := (Registry.generation_le hp).2
      rw [if_neg (by omega), h.told ref p hp]
      by_cases hlast : ref.generation = s.registry.generation
      · have hmem := Registry.mem_refs.2 ⟨hlast, Option.isSome_iff_exists.2 ⟨p, hp⟩⟩
        rw [if_pos hlast, List.count_eq_one_of_mem (s.registry.nodup_refs _) hmem]
      · have hmem : ref ∉ s.registry.refs s.registry.generation :=
          fun hmem => hlast (Registry.mem_refs.1 hmem).1
        rw [if_neg hlast, List.count_eq_zero_of_not_mem hmem]
    · -- No pool with so high a number was there to be told.
      have hold : ref ∉ s.toldTo := by
        intro hmem
        obtain ⟨d, hd', rfl⟩ := List.mem_map.1 hmem
        obtain ⟨p, hp⟩ := hd.known d hd'
        have hle := (Registry.generation_le hp).2
        omega
      have hmem : ref ∉ s.registry.refs s.registry.generation := by
        intro hmem
        have heq := (Registry.mem_refs.1 hmem).1
        omega
      rw [if_pos hnew, List.count_eq_zero_of_not_mem hold, List.count_eq_zero_of_not_mem hmem]

theorem deadline?_reload (h : s.Relieved) (configs : List Config.Pool) (endpoints : List Endpoint)
    (hp : s.registry.pool? ref = some p) : (s.reload configs endpoints).2.deadline? ref =
      if ref.generation = s.registry.generation then
        some (s.nowMs + p.policy.disposeTimeout.millis) else s.deadline? ref := by
  let told := (s.registry.refs s.registry.generation).map fun ref => (ref, s.closesAt ref)
  have hkeys : told.map Prod.fst = s.registry.refs s.registry.generation := by
    rw [List.map_map]
    exact List.map_id' _
  rw [deadline?_eq, orders_reload, List.find?_append]
  by_cases hlast : ref.generation = s.registry.generation
  · have hcount := h.told ref p hp
    rw [if_pos hlast, List.count_eq_zero, toldTo_eq] at hcount
    have hmem : (ref, s.closesAt ref) ∈ told :=
      List.mem_map_of_mem (Registry.mem_refs.2 ⟨hlast, Option.isSome_iff_exists.2 ⟨p, hp⟩⟩)
    have hfound : told.find? (·.1 == ref) = some (ref, s.closesAt ref) :=
      (Keyed.find?_eq_some_iff Prod.fst (hkeys ▸ s.registry.nodup_refs _)).2 ⟨hmem, rfl⟩
    rw [if_pos hlast, Keyed.find?_eq_none_iff.2 hcount, Option.none_or, hfound, ← closesAt_eq hp]
    rfl
  · have hnone : told.find? (·.1 == ref) = none := by
      rw [Keyed.find?_eq_none_iff, hkeys]
      exact fun hmem => hlast (Registry.mem_refs.1 hmem).1
    rw [if_neg hlast, hnone, Option.or_none, deadline?_eq]

theorem Relieved.current (h : s.Relieved) (hd : s.Drained) (hp : s.registry.pool? ref = some p)
    (hlast : ref.generation = s.registry.generation) : p.closing = false ∧ p.closed = false := by
  have hcount := h.told ref p hp
  rw [if_pos hlast, List.count_eq_zero] at hcount
  have hnone := drain?_eq_none.2 hcount
  rw [hd.closing ref p hp, hd.closed ref p hp, hnone]
  exact ⟨rfl, rfl⟩

theorem Relieved.old_of_closed (h : s.Relieved) (hd : s.Drained)
    (hp : s.registry.pool? ref = some p) (hc : p.closed = true) :
    ref.generation ≠ s.registry.generation := by
  intro hlast
  rw [(h.current hd hp hlast).2] at hc
  cases hc

theorem relieved_start (configs : List Config.Pool) (endpoints : List Endpoint) :
    Relieved { registry := .new configs endpoints } := by
  have hgeneration := Registry.generation_install .empty configs endpoints
  have hone (ref : PoolRef) (p : ConnectionPool)
      (hp : (Registry.new configs endpoints).pool? ref = some p) :
      ref.generation = (Registry.new configs endpoints).generation := by
    obtain ⟨hpos, hle⟩ := Registry.generation_le hp
    have hlength := congrArg List.length
      (Registry.current_install .empty configs endpoints).1
    rw [List.length_append, List.length_singleton] at hlength
    change (Registry.new configs endpoints).generations.length = 0 + 1 at hlength
    change (Registry.new configs endpoints).generation = 0 + 1 at hgeneration
    omega
  refine ⟨fun ref p hp => Nat.le_of_eq (hone ref p hp), fun ref p hp => ?_⟩
  rw [if_pos (hone ref p hp)]
  rfl

theorem Orderly.acts (h : s.Orderly) (as : List Act) : (s.acts as).Orderly where
  timely := h.timely.acts as
  drained := h.drained.acts as
  relieved := h.relieved.serves (s.serves_acts as)
  attended := h.attended.acts as
  patient := h.patient.acts as
  shows := h.shows.served (s.serves_acts as).registry
  numbered := h.numbered.served (s.serves_acts as).registry

theorem Orderly.advance (h : s.Orderly) (hl : s.Ledger hs) (ms : Nat) :
    (s.advance ms).Orderly where
  timely := h.timely.advance hl ms
  drained := h.drained.advance hl h.timely ms
  relieved := h.relieved.advance hl h.timely ms
  attended := h.attended.advance hl h.timely ms
  patient := h.patient.advance hl h.timely ms
  shows := shows_advance h.shows hl h.timely ms
  numbered := numbered_advance h.numbered hl h.timely ms

theorem Orderly.reload (h : s.Orderly) (hl : s.Ledger hs) (configs : List Config.Pool)
    (endpoints : List Endpoint) : (s.reload configs endpoints).2.Orderly where
  timely := h.timely.reload configs endpoints
  drained := h.drained.reload configs endpoints
  relieved := h.relieved.reload h.drained hl configs endpoints
  attended := h.attended.reload configs endpoints
  patient := h.patient.reload hl configs endpoints
  shows := (shows_reload h.shows h.numbered configs endpoints).1
  numbered := (shows_reload h.shows h.numbered configs endpoints).2

theorem Orderly.forgo (h : s.Orderly) (hl : s.Ledger hs) (configs : List Config.Pool) :
    Orderly { s with registry := s.registry.forgo configs } where
  timely := h.timely.registry _
  drained := h.drained.forgo configs
  relieved := h.relieved.forgo configs
  attended := h.attended.registry fun ref q hq =>
    .inr ⟨q, s.registry.pool?_forgo configs ref ▸ hq, rfl⟩
  patient := h.patient.later hl (s.registry.ages_forgo configs) (List.Subset.refl _) (Nat.le_refl _)
  shows := h.shows.forgo h.numbered configs
  numbered := h.numbered.forgo configs

theorem orderly_start (configs : List Config.Pool) (endpoints : List Endpoint) :
    Orderly { registry := .new configs endpoints } := by
  have hempty (ref : PoolRef) : Registry.empty.pool? ref = none := by
    cases hp : Registry.empty.pool? ref with
    | none => rfl
    | some p => exact absurd (Registry.generation_le hp) (by simp [Registry.empty]; omega)
  have hnumbered : Registry.empty.Numbered := fun ref p hp => by
    rw [hempty] at hp
    cases hp
  have hshows : Registry.empty.Shows := by
    refine ⟨List.nodup_nil, List.nodup_nil, fun k => ?_, fun ref p hp => ?_⟩
    · refine iff_of_false List.not_mem_nil ?_
      rintro ⟨⟨ref, p, hp, _⟩, _⟩
      rw [hempty] at hp
      cases hp
    · rw [hempty] at hp
      cases hp
  refine ⟨⟨fun w hw => (List.not_mem_nil hw).elim, fun d hd => (List.not_mem_nil hd).elim⟩,
    drained_start _ fun ref p hp => ?_, relieved_start configs endpoints,
    fun w hw => (List.not_mem_nil hw).elim, fun w hw => (List.not_mem_nil hw).elim,
    hshows.install hnumbered configs endpoints, hnumbered.install configs endpoints⟩
  obtain ⟨policy, _, rfl⟩ := Registry.pool?_install_new configs endpoints (hempty ref) hp
  exact ⟨rfl, rfl⟩

end

end Schedule
end ReverseProxy.Pool
