import Mathlib.Data.List.GetD
import ReverseProxy.Pool.Schedule
import ReverseProxy.Proofs.Pool.Slots

set_option autoImplicit false

namespace ReverseProxy.Pool

def lentBy (leases : List Lease) (ref : PoolRef) : List Endpoint :=
  (leases.filter (·.pool == ref)).map Lease.endpoint

def waitsAt (waits : List (Ticket × Lease)) (ref : PoolRef) : List (Ticket × Endpoint) :=
  (waits.filter (·.2.pool == ref)).map fun w => (w.1, w.2.endpoint)

theorem lentBy_cons_self (l : Lease) (leases : List Lease) :
    lentBy (l :: leases) l.pool = l.endpoint :: lentBy leases l.pool := by
  simp [lentBy]

theorem lentBy_cons_of_ne {l : Lease} {ref : PoolRef} (h : l.pool ≠ ref) (leases : List Lease) :
    lentBy (l :: leases) ref = lentBy leases ref := by
  simp [lentBy, h]

theorem waitsAt_cons_self (t : Ticket) (l : Lease) (waits : List (Ticket × Lease)) :
    waitsAt ((t, l) :: waits) l.pool = (t, l.endpoint) :: waitsAt waits l.pool := by
  simp [waitsAt]

theorem waitsAt_cons_of_ne (t : Ticket) {l : Lease} {ref : PoolRef} (h : l.pool ≠ ref)
    (waits : List (Ticket × Lease)) : waitsAt ((t, l) :: waits) ref = waitsAt waits ref := by
  simp [waitsAt, h]

theorem notMem_waitsAt {t : Ticket} {waits : List (Ticket × Lease)} (h : t ∉ waits.map Prod.fst)
    (ref : PoolRef) : t ∉ (waitsAt waits ref).map Prod.fst := by
  intro hmem
  obtain ⟨w, hw, rfl⟩ := List.mem_map.1 hmem
  obtain ⟨v, hv, rfl⟩ := List.mem_map.1 hw
  exact h (List.mem_map_of_mem (List.mem_of_mem_filter hv))

theorem lentBy_perm {a b : List Lease} (h : a.Perm b) (ref : PoolRef) :
    (lentBy a ref).Perm (lentBy b ref) := (h.filter _).map _

theorem waitsAt_perm {a b : List (Ticket × Lease)} (h : a.Perm b) (ref : PoolRef) :
    (waitsAt a ref).Perm (waitsAt b ref) := (h.filter _).map _

namespace Registry

/-- The pools that `on` holds of lend and let wait what names them. -/
structure BacksOn (r : Registry) (on : PoolRef → Prop) (leases : List Lease)
    (waits : List (Ticket × Lease)) : Prop where
  current : r.current ≠ []
  known : ∀ l ∈ leases ++ waits.map Prod.snd, on l.pool → ∃ p, r.pool? l.pool = some p
  pools : ∀ ref p, on ref → r.pool? ref = some p →
    p.Lends (lentBy leases ref) ∧ p.tickets.Perm (waitsAt waits ref)

abbrev Backs (r : Registry) : List Lease → List (Ticket × Lease) → Prop :=
  r.BacksOn fun _ => True

def Settles (r : Registry) (t : Ticket) (l : Lease) (leases : List Lease)
    (waits : List (Ticket × Lease)) : Asked → Prop
  | .granted => r.Backs (l :: leases) waits
  | .waits => r.Backs leases ((t, l) :: waits)
  | .refused _ => r.Backs leases waits

theorem pools_setPool (r : Registry) (ref : PoolRef) (p : ConnectionPool) (g : Nat) :
    (r.setPool ref p).pools g =
      if ref.generation - 1 = g - 1 then (r.pools g).set ref.place p else r.pools g := by
  unfold pools setPool
  simp only [List.getD_eq_getElem?_getD, List.getElem?_modify]
  by_cases hg : g = 0
  · simp [hg]
  · by_cases heq : ref.generation - 1 = g - 1
    · cases r.generations[g - 1]? with
      | none => simp [hg, heq]
      | some ps => simp [hg, heq]
    · simp [hg, heq]

theorem generation_ne_zero {r : Registry} {ref : PoolRef} {p : ConnectionPool}
    (h : r.pool? ref = some p) : ref.generation ≠ 0 := by
  intro hzero
  simp [pool?, pools, hzero] at h

theorem pool?_setPool {r : Registry} {ref : PoolRef} {p : ConnectionPool}
    (h : r.pool? ref = some p) (q : ConnectionPool) (other : PoolRef) :
    (r.setPool ref q).pool? other = if other = ref then some q else r.pool? other := by
  have hg := generation_ne_zero h
  unfold pool?
  rw [pools_setPool]
  by_cases ho : other = ref
  · subst ho
    have hlt : other.place < (r.pools other.generation).length := by
      obtain ⟨hlt, _⟩ := List.getElem?_eq_some_iff.1 h
      exact hlt
    simp [hlt]
  · rw [if_neg ho]
    by_cases heq : ref.generation - 1 = other.generation - 1
    · rw [if_pos heq]
      by_cases hzero : other.generation = 0
      · simp [pools, hzero]
      · have hgen : other.generation = ref.generation := by omega
        have hplace : ref.place ≠ other.place := by
          intro hp
          apply ho
          cases other
          cases ref
          simp_all
        rw [List.getElem?_set_ne hplace]
    · rw [if_neg heq]

theorem current_setPool (r : Registry) (ref : PoolRef) (p : ConnectionPool) :
    (r.setPool ref p).current.length = r.current.length := by
  change ((r.setPool ref p).pools r.generation).length = _
  rw [pools_setPool]
  split
  · exact List.length_set
  · rfl

section
variable {r r' : Registry} {on : PoolRef → Prop} {leases : List Lease}
  {waits : List (Ticket × Lease)} {ref : PoolRef} {p q : ConnectionPool} {l : Lease} {t : Ticket}

theorem BacksOn.congr (h : r.BacksOn on leases waits) (hg : r'.generations = r.generations)
    (hn : r'.generation = r.generation) : r'.BacksOn on leases waits := by
  have hpools : r'.pools = r.pools := by
    funext g
    unfold Registry.pools
    rw [hg]
  have hpool? : r'.pool? = r.pool? := by
    funext ref
    unfold pool?
    rw [hpools]
  refine ⟨?_, ?_, ?_⟩
  · rw [Registry.current, hpools, hn]
    exact h.current
  · rw [hpool?]
    exact h.known
  · rw [hpool?]
    exact h.pools

theorem BacksOn.perm {leases' : List Lease} {waits' : List (Ticket × Lease)}
    (h : r.BacksOn on leases waits) (hl : leases.Perm leases') (hw : waits.Perm waits') :
    r.BacksOn on leases' waits' where
  current := h.current
  known l hmem := h.known l ((hl.append (hw.map Prod.snd)).symm.subset hmem)
  pools ref p hon hp := by
    obtain ⟨hlends, htickets⟩ := h.pools ref p hon hp
    exact ⟨hlends.perm (lentBy_perm hl ref), htickets.trans (waitsAt_perm hw ref)⟩

theorem Backs.but (h : r.Backs leases waits) (ref : PoolRef) :
    r.BacksOn (· ≠ ref) leases waits :=
  ⟨h.current, fun l hl _ => h.known l hl trivial, fun ref p _ hp => h.pools ref p trivial hp⟩

theorem backsOn_lease : r.BacksOn (· ≠ l.pool) (l :: leases) waits ↔
    r.BacksOn (· ≠ l.pool) leases waits := by
  constructor
  · intro h
    refine ⟨h.current, fun a ha => h.known a (List.mem_cons_of_mem l ha), fun ref p hne hp => ?_⟩
    rw [← lentBy_cons_of_ne (Ne.symm hne)]
    exact h.pools ref p hne hp
  · intro h
    refine ⟨h.current, fun a ha hne => ?_, fun ref p hne hp => ?_⟩
    · rcases List.mem_cons.1 ha with rfl | ha
      · exact absurd rfl hne
      · exact h.known a ha hne
    · rw [lentBy_cons_of_ne (Ne.symm hne)]
      exact h.pools ref p hne hp

theorem backsOn_wait : r.BacksOn (· ≠ l.pool) leases ((t, l) :: waits) ↔
    r.BacksOn (· ≠ l.pool) leases waits := by
  constructor
  · intro h
    refine ⟨h.current, fun a ha => h.known a ?_, fun ref p hne hp => ?_⟩
    · rw [List.map_cons]
      exact List.perm_middle.symm.subset (List.mem_cons_of_mem l ha)
    · rw [← waitsAt_cons_of_ne t (Ne.symm hne)]
      exact h.pools ref p hne hp
  · intro h
    refine ⟨h.current, fun a ha hne => ?_, fun ref p hne hp => ?_⟩
    · rw [List.map_cons] at ha
      rcases List.mem_cons.1 (List.perm_middle.subset ha) with rfl | ha
      · exact absurd rfl hne
      · exact h.known a ha hne
    · rw [waitsAt_cons_of_ne t (Ne.symm hne)]
      exact h.pools ref p hne hp

theorem BacksOn.setPool (h : r.BacksOn (· ≠ ref) leases waits) (hp : r.pool? ref = some p)
    (hq : q.Lends (lentBy leases ref) ∧ q.tickets.Perm (waitsAt waits ref)) :
    (r.setPool ref q).Backs leases waits := by
  refine ⟨?_, fun l hl _ => ?_, fun other a _ ha => ?_⟩
  · rw [← List.length_pos_iff, current_setPool, List.length_pos_iff]
    exact h.current
  · rw [pool?_setPool hp]
    by_cases heq : l.pool = ref
    · exact ⟨q, if_pos heq⟩
    · rw [if_neg heq]
      exact h.known l hl heq
  · rw [pool?_setPool hp] at ha
    by_cases heq : other = ref
    · rw [if_pos heq] at ha
      cases ha
      exact heq ▸ hq
    · rw [if_neg heq] at ha
      exact h.pools other a heq ha

theorem BacksOn.update {f : ConnectionPool → ConnectionPool}
    (h : r.BacksOn (· ≠ ref) leases waits) (hp : r.pool? ref = some p)
    (hq : (f p).Lends (lentBy leases ref) ∧ (f p).tickets.Perm (waitsAt waits ref)) :
    (r.update ref f).Backs leases waits := by
  unfold Registry.update
  rw [hp]
  refine (h.setPool hp hq).congr ?_ ?_
  · simp only [publish]
    split <;> rfl
  · simp only [publish]
    split <;> rfl

theorem BacksOn.settles {f : ConnectionPool → ConnectionPool} {asked : Asked}
    (h : r.BacksOn (· ≠ l.pool) leases waits) (hp : r.pool? l.pool = some p)
    (hq : (f p).Settles t l.endpoint (lentBy leases l.pool) (waitsAt waits l.pool) asked) :
    (r.update l.pool f).Settles t l leases waits asked := by
  cases asked with
  | granted =>
    refine (backsOn_lease.2 h).update hp ?_
    rw [lentBy_cons_self]
    exact hq
  | waits =>
    refine (backsOn_wait.2 h).update hp ?_
    rw [waitsAt_cons_self]
    exact hq
  | refused why => exact h.update hp hq

theorem Backs.ask (h : r.Backs leases waits) (hp : r.pool? l.pool = some p) (t : Ticket) :
    (r.ask l.pool t l.endpoint).2.Settles t l leases waits (r.ask l.pool t l.endpoint).1 := by
  obtain ⟨hlends, htickets⟩ := h.pools l.pool p trivial hp
  unfold Registry.ask
  rw [hp]
  exact (h.but l.pool).settles hp ((hlends.ask t l.endpoint).perm htickets)

theorem Backs.waiting (h : r.Backs leases ((t, l) :: waits)) :
    ∃ p, r.pool? l.pool = some p ∧ p.Lends (lentBy leases l.pool) ∧
      p.tickets.Perm ((t, l.endpoint) :: waitsAt waits l.pool) := by
  obtain ⟨p, hp⟩ := h.known l (List.mem_append_right _ List.mem_cons_self) trivial
  obtain ⟨hlends, htickets⟩ := h.pools l.pool p trivial hp
  rw [waitsAt_cons_self] at htickets
  exact ⟨p, hp, hlends, htickets⟩

theorem Backs.pickUp (h : r.Backs leases ((t, l) :: waits)) (ht : t ∉ waits.map Prod.fst) :
    (r.pickUp l.pool t).2.Settles t l leases waits (r.pickUp l.pool t).1 := by
  obtain ⟨p, hp, hlends, htickets⟩ := h.waiting
  unfold Registry.pickUp
  rw [hp]
  exact (backsOn_wait.1 (h.but l.pool)).settles hp (hlends.pickUp htickets (notMem_waitsAt ht _))

theorem Backs.giveUp (h : r.Backs leases ((t, l) :: waits)) (ht : t ∉ waits.map Prod.fst) :
    (r.giveUp l.pool t l.endpoint).2.Settles t l leases waits
      (r.giveUp l.pool t l.endpoint).1 := by
  obtain ⟨p, hp, hlends, htickets⟩ := h.waiting
  unfold Registry.giveUp
  rw [hp]
  exact (backsOn_wait.1 (h.but l.pool)).settles hp (hlends.giveUp htickets (notMem_waitsAt ht _))

theorem Backs.abandon (h : r.Backs leases ((t, l) :: waits)) (ht : t ∉ waits.map Prod.fst) :
    (r.abandon l.pool t l.endpoint).Backs leases waits := by
  obtain ⟨p, hp, hlends, htickets⟩ := h.waiting
  exact (backsOn_wait.1 (h.but l.pool)).update hp (hlends.abandon htickets (notMem_waitsAt ht _))

theorem Backs.release (h : r.Backs (l :: leases) waits) :
    (r.release l.pool l.endpoint).Backs leases waits := by
  obtain ⟨p, hp⟩ := h.known l List.mem_cons_self trivial
  obtain ⟨hlends, htickets⟩ := h.pools l.pool p trivial hp
  rw [lentBy_cons_self] at hlends
  obtain ⟨hreleased, hsame⟩ := hlends.release
  exact (backsOn_lease.1 (h.but l.pool)).update hp ⟨hreleased, hsame.trans htickets⟩

theorem Backs.close (h : r.Backs leases waits) (ref : PoolRef) :
    (r.close ref).Backs leases waits := by
  unfold Registry.close
  cases hp : r.pool? ref with
  | none => exact h
  | some p =>
    obtain ⟨hlends, htickets⟩ := h.pools ref p trivial hp
    obtain ⟨hclosed, hsame⟩ := hlends.close
    exact ((h.but ref).setPool hp ⟨hclosed, hsame ▸ htickets⟩).congr rfl rfl

theorem Backs.beginClosing (h : r.Backs leases waits) (ref : PoolRef) :
    (r.beginClosing ref).2.Backs leases waits := by
  unfold Registry.beginClosing
  cases hp : r.pool? ref with
  | none => exact h
  | some p =>
    obtain ⟨hlends, htickets⟩ := h.pools ref p trivial hp
    refine (h.but ref).setPool hp ⟨?_, htickets⟩
    exact ⟨⟨hlends.distinct, hlends.slots, hlends.known, hlends.closed⟩, hlends.inFlight⟩

theorem pool?_append_old {made : List ConnectionPool}
    (hg : r'.generations = r.generations ++ [made]) (hp : r.pool? ref = some p) :
    r'.pool? ref = some p := by
  have hzero := generation_ne_zero hp
  unfold pool? pools at hp ⊢
  rw [if_neg hzero] at hp ⊢
  have hlt : ref.generation - 1 < r.generations.length := by
    by_contra hge
    rw [List.getD_eq_default _ _ (by omega)] at hp
    cases hp
  rw [hg, List.getD_append _ _ _ _ hlt]
  exact hp

theorem pool?_append_new {made : List ConnectionPool}
    (hg : r'.generations = r.generations ++ [made]) (hr : r.pool? ref = none)
    (hp : r'.pool? ref = some p) : p ∈ made := by
  have hzero := generation_ne_zero hp
  unfold pool? pools at hr hp
  rw [if_neg hzero] at hr hp
  rw [hg] at hp
  by_cases hlt : ref.generation - 1 < r.generations.length
  · rw [List.getD_append _ _ _ _ hlt] at hp
    rw [hr] at hp
    cases hp
  · rw [List.getD_append_right _ _ _ _ (by omega)] at hp
    cases hn : ref.generation - 1 - r.generations.length with
    | zero =>
      rw [hn] at hp
      exact List.mem_of_getElem? hp
    | succ n =>
      rw [hn] at hp
      cases hp

theorem pool?_forgo (r : Registry) (configs : List Config.Pool) (ref : PoolRef) :
    (r.forgo configs).pool? ref = r.pool? ref := by
  have hempty : (r.forgo configs).generations = r.generations ++ [[]] := rfl
  cases hr : r.pool? ref with
  | some p => exact pool?_append_old hempty hr
  | none =>
    rw [Option.eq_none_iff_forall_ne_some]
    exact fun p hp => List.not_mem_nil (pool?_append_new hempty hr hp)

theorem Backs.append (h : r.Backs leases waits) {made : List ConnectionPool}
    (hg : r'.generations = r.generations ++ [made])
    (hmade : ∀ p ∈ made, p.Lends [] ∧ p.tickets = []) (hcurrent : r'.current ≠ []) :
    r'.Backs leases waits := by
  refine ⟨hcurrent, fun l hl _ => ?_, fun ref p _ hp => ?_⟩
  · obtain ⟨p, hp⟩ := h.known l hl trivial
    exact ⟨p, pool?_append_old hg hp⟩
  · cases hr : r.pool? ref with
    | some q =>
      rw [pool?_append_old hg hr] at hp
      cases hp
      exact h.pools ref _ trivial hr
    | none =>
      -- Nothing names a pool that there was not.
      have hunnamed (l : Lease) (hl : l ∈ leases ++ waits.map Prod.snd) : l.pool ≠ ref := by
        intro heq
        obtain ⟨q, hq⟩ := h.known l hl trivial
        rw [heq, hr] at hq
        cases hq
      have hleases : lentBy leases ref = [] := by
        rw [lentBy, List.map_eq_nil_iff, List.filter_eq_nil_iff]
        intro l hl
        simpa using hunnamed l (List.mem_append_left _ hl)
      have hwaits : waitsAt waits ref = [] := by
        rw [waitsAt, List.map_eq_nil_iff, List.filter_eq_nil_iff]
        intro w hw
        simpa using hunnamed w.2 (List.mem_append_right _ (List.mem_map_of_mem hw))
      obtain ⟨hlends, htickets⟩ := hmade p (pool?_append_new hg hr hp)
      rw [hleases, hwaits, htickets]
      exact ⟨hlends, .refl _⟩

theorem register_generations (r : Registry) (ps : List ConnectionPool) :
    (ps.foldl register r).generations = r.generations ∧
      (ps.foldl register r).generation = r.generation := by
  induction ps generalizing r with
  | nil => exact ⟨rfl, rfl⟩
  | cons p ps ih => exact ih (r.register p)

theorem activePolicies_ne_nil (configs : List Config.Pool) : activePolicies configs ≠ [] := by
  simp [activePolicies]

theorem current_install (r : Registry) (configs : List Config.Pool) (endpoints : List Endpoint) :
    (r.install configs endpoints).generations =
        r.generations ++ [(r.install configs endpoints).current] ∧
      (r.install configs endpoints).current = (activePolicies configs).map fun p =>
        ConnectionPool.new p (r.generations.length + 1) endpoints := by
  obtain ⟨hgenerations, hgeneration⟩ := register_generations
    { r with
      generations := r.generations ++ [(activePolicies configs).map fun p =>
        ConnectionPool.new p (r.generations.length + 1) endpoints]
      generation := r.generations.length + 1 }
    ((activePolicies configs).map fun p =>
      ConnectionPool.new p (r.generations.length + 1) endpoints)
  have hcurrent : (r.install configs endpoints).current = (activePolicies configs).map fun p =>
      ConnectionPool.new p (r.generations.length + 1) endpoints := by
    unfold Registry.current Registry.pools install
    rw [hgenerations, hgeneration]
    simp
  exact ⟨hcurrent ▸ hgenerations, hcurrent⟩

theorem Backs.install (h : r.Backs leases waits) (configs : List Config.Pool)
    (endpoints : List Endpoint) : (r.install configs endpoints).Backs leases waits := by
  obtain ⟨hgenerations, hcurrent⟩ := current_install r configs endpoints
  refine h.append hgenerations (fun p hp => ?_) ?_
  · rw [hcurrent] at hp
    obtain ⟨policy, _, rfl⟩ := List.mem_map.1 hp
    exact ConnectionPool.lends_new policy _ endpoints
  · rw [hcurrent, ne_eq, List.map_eq_nil_iff]
    exact activePolicies_ne_nil configs

theorem Backs.forgo (h : r.Backs leases waits) (configs : List Config.Pool) :
    (r.forgo configs).Backs leases waits := by
  have hnone : ∀ p ∈ ([] : List ConnectionPool), p.Lends [] ∧ p.tickets = [] :=
    fun p hp => (List.not_mem_nil hp).elim
  refine h.append rfl hnone ?_
  have hcurrent := h.current
  unfold Registry.current Registry.pools at hcurrent ⊢
  change (if r.generation = 0 then [] else (r.generations ++ [[]]).getD (r.generation - 1) []) ≠ []
  by_cases hzero : r.generation = 0
  · simp [hzero] at hcurrent
  · rw [if_neg hzero] at hcurrent ⊢
    have hlt : r.generation - 1 < r.generations.length := by
      by_contra hge
      rw [List.getD_eq_default _ _ (by omega)] at hcurrent
      exact hcurrent rfl
    rw [List.getD_append _ _ _ _ hlt]
    exact hcurrent

end

theorem backs_new (configs : List Config.Pool) (endpoints : List Endpoint) :
    (new configs endpoints).Backs [] [] := by
  obtain ⟨hgenerations, hcurrent⟩ := current_install empty configs endpoints
  refine ⟨?_, fun l hl => (List.not_mem_nil hl).elim, fun ref p _ hp => ?_⟩
  · change (empty.install configs endpoints).current ≠ []
    rw [hcurrent, ne_eq, List.map_eq_nil_iff]
    exact activePolicies_ne_nil configs
  · have hzero := generation_ne_zero hp
    have hmem : p ∈ (empty.install configs endpoints).current := by
      unfold pool? pools new at hp
      rw [if_neg hzero, hgenerations] at hp
      cases hn : ref.generation - 1 with
      | zero =>
        rw [hn] at hp
        exact List.mem_of_getElem? hp
      | succ n =>
        rw [hn] at hp
        cases hp
    rw [hcurrent] at hmem
    obtain ⟨policy, _, rfl⟩ := List.mem_map.1 hmem
    obtain ⟨hlends, htickets⟩ := ConnectionPool.lends_new policy _ endpoints
    exact ⟨hlends, htickets ▸ .refl _⟩

theorem Backs.resolve {r : Registry} {leases : List Lease} {waits : List (Ticket × Lease)}
    (h : r.Backs leases waits) (host : String) : ∃ p, r.pool? (r.resolve host) = some p := by
  have hpos := List.length_pos_iff.2 h.current
  unfold Registry.resolve
  cases hfind : r.current.dropLast.findIdx? fun p => p.policy.serves host with
  | none =>
    have hlt : (r.pools r.generation).length - 1 < (r.pools r.generation).length := by
      have hpos' : 0 < (r.pools r.generation).length := hpos
      omega
    exact ⟨_, List.getElem?_eq_getElem hlt⟩
  | some place =>
    obtain ⟨hlt, _⟩ := List.findIdx?_eq_some_iff_getElem.1 hfind
    rw [List.length_dropLast] at hlt
    have hlt' : place < (r.pools r.generation).length := by
      change place < r.current.length - 1 at hlt
      change place < r.current.length
      omega
    exact ⟨_, List.getElem?_eq_getElem hlt'⟩

end Registry
end ReverseProxy.Pool
