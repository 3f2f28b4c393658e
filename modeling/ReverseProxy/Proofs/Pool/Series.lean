import ReverseProxy.Proofs.Pool.Waking

set_option autoImplicit false

namespace ReverseProxy.Pool

namespace Registry

def shown? (gs : List (SeriesKey × Gauges)) (k : SeriesKey) : Option Gauges :=
  (gs.find? (·.1 == k)).map Prod.snd

def gauge? (r : Registry) (k : SeriesKey) : Option Gauges := shown? r.gauges k

def Alone (r : Registry) (ref : PoolRef) (p : ConnectionPool) : Prop :=
  ∀ other q, r.pool? other = some q → key q = key p → other = ref

def Unclosed (r : Registry) (k : SeriesKey) : Prop :=
  (∃ ref p, r.pool? ref = some p ∧ key p = k) ∧
    ∀ ref p, r.pool? ref = some p → key p = k → p.closed = false

structure Shows (r : Registry) : Prop where
  live : r.live.Nodup
  gauges : (r.gauges.map Prod.fst).Nodup
  registered : ∀ k, k ∈ r.live ↔ r.Unclosed k
  shown : ∀ ref p, r.pool? ref = some p → p.closed = false → r.Alone ref p →
    r.gauge? (key p) = some ⟨p.inFlight, p.slots.length⟩

def Numbered (r : Registry) : Prop := ∀ ref p, r.pool? ref = some p → p.generation = ref.generation

/-- The pools have the same keys later, and the same ones of them have closed. -/
def Rekeys (r r' : Registry) : Prop :=
  (∀ ref p, r.pool? ref = some p → ∃ q, r'.pool? ref = some q ∧ key q = key p ∧
    q.closed = p.closed) ∧
  ∀ ref q, r'.pool? ref = some q → ∃ p, r.pool? ref = some p ∧ key q = key p ∧ q.closed = p.closed

section
variable {r r' : Registry} {ref : PoolRef} {p q : ConnectionPool} {k : SeriesKey}
  {gs : List (SeriesKey × Gauges)}

theorem shown?_eq_none : shown? gs k = none ↔ k ∉ gs.map Prod.fst := by
  rw [shown?, Option.map_eq_none_iff, List.find?_eq_none, List.mem_map, not_exists]
  refine forall_congr' fun g => ?_
  rw [beq_iff_eq, not_and]

theorem shown?_setGauges (gs : List (SeriesKey × Gauges)) (k : SeriesKey) (f : Gauges → Gauges)
    (other : SeriesKey) : shown? (setGauges gs k f) other =
      if other = k then some (f ((shown? gs k).getD {})) else shown? gs other := by
  unfold setGauges
  split
  · next hany =>
    have hmap (gs : List (SeriesKey × Gauges)) :
        shown? (gs.map fun g => if g.1 == k then (k, f g.2) else g) other =
          if other = k then (shown? gs k).map f else shown? gs other := by
      induction gs with
      | nil => simp [shown?]
      | cons g gs ih =>
        unfold shown? at ih ⊢
        by_cases hg : g.1 = k
        · by_cases ho : other = k
          · simp [hg, ho]
          · have ho' : ¬k = other := fun h => ho h.symm
            simpa [hg, ho, ho'] using ih
        · by_cases ho : other = k
          · simpa [hg, ho] using ih
          · by_cases hgo : g.1 = other
            · simp [hgo, ho]
            · simpa [hg, hgo, ho] using ih
    rw [hmap]
    have hmem : k ∈ gs.map Prod.fst := by simpa using hany
    split
    · cases hs : shown? gs k with
      | none => exact absurd hmem (shown?_eq_none.1 hs)
      | some g => rfl
    · rfl
  · next hnone =>
    have hnew : shown? gs k = none := shown?_eq_none.2 (by simpa using hnone)
    unfold shown? at hnew ⊢
    rw [List.find?_append]
    by_cases ho : other = k
    · rw [ho, if_pos rfl, Option.map_eq_none_iff.1 hnew]
      simp
    · have ho' : ¬k = other := fun h => ho h.symm
      rw [if_neg ho]
      simp [ho']

theorem keys_setGauges (h : (gs.map Prod.fst).Nodup) (k : SeriesKey) (f : Gauges → Gauges) :
    ((setGauges gs k f).map Prod.fst).Nodup := by
  unfold setGauges
  split
  · have hsame : (gs.map fun g => if g.1 == k then (k, f g.2) else g).map Prod.fst =
        gs.map Prod.fst := by
      rw [List.map_map]
      refine List.map_congr_left fun g _ => ?_
      by_cases hg : g.1 = k
      · simp [hg]
      · simp [hg]
    rw [hsame]
    exact h
  · next hnone =>
    rw [List.map_append, List.nodup_append]
    refine ⟨h, List.nodup_singleton _, fun a ha b hb hab => hnone ?_⟩
    rw [List.mem_singleton.1 hb] at hab
    simpa [hab] using ha

theorem Rekeys.unclosed (h : r.Rekeys r') (k : SeriesKey) : r'.Unclosed k ↔ r.Unclosed k := by
  unfold Unclosed
  refine and_congr ⟨?_, ?_⟩ ⟨fun hall ref p hp hk => ?_, fun hall ref q hq hk => ?_⟩
  · rintro ⟨ref, q, hq, rfl⟩
    obtain ⟨p, hp, hkey, _⟩ := h.2 ref q hq
    exact ⟨ref, p, hp, hkey.symm⟩
  · rintro ⟨ref, p, hp, rfl⟩
    obtain ⟨q, hq, hkey, _⟩ := h.1 ref p hp
    exact ⟨ref, q, hq, hkey⟩
  · obtain ⟨q, hq, hkey, hclosed⟩ := h.1 ref p hp
    rw [← hclosed]
    exact hall ref q hq (hkey.trans hk)
  · obtain ⟨p, hp, hkey, hclosed⟩ := h.2 ref q hq
    rw [hclosed]
    exact hall ref p hp (hkey.symm.trans hk)

theorem Rekeys.alone (h : r.Rekeys r') (hkey : key q = key p) (ha : r'.Alone ref q) :
    r.Alone ref p := by
  intro other a hother hk
  obtain ⟨b, hb, hab, _⟩ := h.1 other a hother
  exact ha other b hb (hab.trans (hk.trans hkey.symm))

theorem key_of_serves (h : p.Serves q) : key q = key p := by
  unfold key ConnectionPool.id
  rw [h.policy, h.generation]

theorem Served.rekeys (h : r.Served r') : r.Rekeys r' := by
  refine ⟨fun ref p hp => ?_, fun ref q hq => ?_⟩
  · obtain ⟨q, hq, hserves⟩ := h.pool? hp
    exact ⟨q, hq, key_of_serves hserves, hserves.closed⟩
  · obtain ⟨p, hp, hserves⟩ := h.pool?_back hq
    exact ⟨p, hp, key_of_serves hserves, hserves.closed⟩

theorem gauges_update (hp : r.pool? ref = some p) (f : ConnectionPool → ConnectionPool) :
    (r.update ref f).gauges = if (f p).closed then r.gauges else
      setGauges r.gauges (key (f p)) fun g => {
        inFlight := if p.inFlight = (f p).inFlight then g.inFlight else (f p).inFlight
        endpoints :=
          if p.slots.length = (f p).slots.length then g.endpoints else (f p).slots.length } := by
  unfold Registry.update
  rw [hp]
  dsimp only [publish]
  split <;> rfl

theorem Shows.update (h : r.Shows) (ref : PoolRef) {f : ConnectionPool → ConnectionPool}
    (hf : ∀ p : ConnectionPool, p.Serves (f p)) : (r.update ref f).Shows := by
  have hrekeys := (r.served_update ref hf).rekeys
  cases hp : r.pool? ref with
  | none => rwa [update_of_none hp]
  | some p =>
    have hgauges := gauges_update hp f
    have hkey := key_of_serves (hf p)
    refine ⟨?_, ?_, fun k => ?_, fun other q hq hopen halone => ?_⟩
    · rw [(frame_update r ref f).2.1]
      exact h.live
    · rw [hgauges]
      split
      · exact h.gauges
      · exact keys_setGauges h.gauges _ _
    · rw [(frame_update r ref f).2.1, h.registered, hrekeys.unclosed]
    · unfold gauge?
      rw [hgauges]
      rw [pool?_update hp] at hq
      by_cases heq : other = ref
      · rw [if_pos heq] at hq
        cases hq
        have hopen' : p.closed = false := (hf p).closed.symm.trans hopen
        have hbefore := h.shown ref p hp hopen' (hrekeys.alone hkey (heq ▸ halone))
        rw [if_neg (by simp [hopen]), shown?_setGauges, if_pos rfl, hkey]
        unfold gauge? at hbefore
        rw [hbefore]
        -- A number that has not changed is not written again.
        congr 1
        dsimp only [Option.getD_some]
        congr 1
        · split
          · assumption
          · rfl
        · split
          · assumption
          · rfl
      · rw [if_neg heq] at hq
        have hne : key q ≠ key (f p) := fun hk =>
          heq (halone ref (f p) (by rw [pool?_update hp, if_pos rfl]) hk.symm).symm
        have hbefore := h.shown other q hq hopen (hrekeys.alone rfl halone)
        split
        · exact hbefore
        · rw [shown?_setGauges, if_neg hne]
          exact hbefore

theorem Shows.served (h : r.Shows) (hs : r.Served r') : r'.Shows := by
  induction hs with
  | same => exact h
  | update ref f hf _ ih => exact ih.update ref hf

theorem Shows.close (h : r.Shows) (ref : PoolRef) : (r.close ref).Shows := by
  cases hp : r.pool? ref with
  | none =>
    unfold Registry.close
    rwa [hp]
  | some p =>
    have hpool := pool?_close hp
    have hlive : (r.close ref).live = r.live.filter (· != key p) := by
      unfold Registry.close
      rw [hp]
      rfl
    have hgauges : (r.close ref).gauges = setGauges r.gauges (key p) fun _ => {} := by
      unfold Registry.close
      rw [hp]
      rfl
    have hself : (r.close ref).pool? ref = some p.close := by rw [hpool, if_pos rfl]
    -- A pool with another key is not the one that closes.
    have hother {other : PoolRef} {q : ConnectionPool} (hk : key q ≠ key p) :
        (r.close ref).pool? other = some q ↔ r.pool? other = some q := by
      rw [hpool]
      by_cases heq : other = ref
      · rw [if_pos heq, heq, hp]
        refine ⟨fun hq => ?_, fun hq => ?_⟩
        · cases hq
          exact absurd rfl hk
        · cases hq
          exact absurd rfl hk
      · rw [if_neg heq]
    refine ⟨hlive ▸ h.live.filter _, ?_, fun k => ?_, fun other q hq hopen halone => ?_⟩
    · rw [hgauges]
      exact keys_setGauges h.gauges _ _
    · rw [hlive, List.mem_filter, h.registered, bne_iff_ne]
      refine ⟨fun ⟨⟨⟨other, q, hq, hk⟩, hall⟩, hne⟩ => ⟨⟨other, q, ?_, hk⟩, fun a b hb hkb => ?_⟩,
        fun ⟨⟨other, q, hq, hk⟩, hall⟩ => ?_⟩
      · exact (hother (hk ▸ hne)).2 hq
      · exact hall a b ((hother (hkb ▸ hne)).1 hb) hkb
      · have hne : k ≠ key p := by
          rintro rfl
          have hclosed : p.close.closed = false := hall ref p.close hself rfl
          cases hclosed
        refine ⟨⟨⟨other, q, (hother (hk ▸ hne)).1 hq, hk⟩, fun a b hb hkb => ?_⟩, hne⟩
        exact hall a b ((hother (hkb ▸ hne)).2 hb) hkb
    · have hne : key q ≠ key p := by
        intro hk
        have heq : ref = other := halone ref p.close hself hk.symm
        rw [← heq, hself] at hq
        cases hq
        cases hopen
      unfold gauge?
      rw [hgauges, shown?_setGauges, if_neg hne]
      refine h.shown other q ((hother hne).1 hq) hopen fun a b hb hkb => ?_
      exact halone a b ((hother (hkb ▸ hne)).2 hb) hkb

theorem Shows.beginClosing (h : r.Shows) (ref : PoolRef) : (r.beginClosing ref).2.Shows := by
  cases hp : r.pool? ref with
  | none =>
    unfold Registry.beginClosing
    rwa [hp]
  | some p =>
    have hpool := pool?_beginClosing hp
    have hframe : (r.beginClosing ref).2.live = r.live ∧
        (r.beginClosing ref).2.gauges = r.gauges := by
      unfold Registry.beginClosing
      rw [hp]
      exact ⟨rfl, rfl⟩
    have hrekeys : r.Rekeys (r.beginClosing ref).2 := by
      refine ⟨fun other a ha => ?_, fun other a ha => ?_⟩
      · rw [hpool]
        by_cases heq : other = ref
        · rw [heq, hp] at ha
          cases ha
          exact ⟨_, if_pos heq, rfl, rfl⟩
        · exact ⟨a, by rw [if_neg heq, ha], rfl, rfl⟩
      · rw [hpool] at ha
        by_cases heq : other = ref
        · rw [if_pos heq] at ha
          cases ha
          exact ⟨p, heq ▸ hp, rfl, rfl⟩
        · rw [if_neg heq] at ha
          exact ⟨a, ha, rfl, rfl⟩
    refine ⟨hframe.1 ▸ h.live, hframe.2 ▸ h.gauges, fun k => ?_, fun other q hq hopen halone => ?_⟩
    · rw [hframe.1, h.registered, hrekeys.unclosed]
    · unfold gauge?
      rw [hframe.2]
      rw [hpool] at hq
      by_cases heq : other = ref
      · rw [if_pos heq] at hq
        cases hq
        exact h.shown ref p hp hopen (@Rekeys.alone _ _ _ p _ hrekeys rfl (heq ▸ halone))
      · rw [if_neg heq] at hq
        exact h.shown other q hq hopen (hrekeys.alone rfl halone)

theorem foldl_register (ps : List ConnectionPool) {n : Nat} (hn : ∀ p ∈ ps, p.slots.length = n)
    (r : Registry) :
    (r.live.Nodup → (ps.foldl register r).live.Nodup) ∧
    ((r.gauges.map Prod.fst).Nodup → ((ps.foldl register r).gauges.map Prod.fst).Nodup) ∧
    (∀ k, k ∈ (ps.foldl register r).live ↔ k ∈ r.live ∨ k ∈ ps.map key) ∧
    ∀ k, (ps.foldl register r).gauge? k =
      if k ∈ ps.map key then some ⟨0, n⟩ else r.gauge? k := by
  induction ps generalizing r with
  | nil => simp
  | cons p ps ih =>
    obtain ⟨hlive, hgauges, hmem, hshown⟩ :=
      ih (fun q hq => hn q (List.mem_cons_of_mem p hq)) (r.register p)
    have hp := hn p List.mem_cons_self
    rw [List.foldl_cons]
    refine ⟨fun hd => hlive ?_, fun hd => hgauges ?_, fun k => ?_, fun k => ?_⟩
    · unfold register isRegistered
      dsimp only
      split
      · exact hd
      · next hnew =>
        rw [List.nodup_append]
        refine ⟨hd, List.nodup_singleton _, fun a ha b hb hab => hnew ?_⟩
        rw [List.mem_singleton.1 hb] at hab
        simpa [hab] using ha
    · exact keys_setGauges hd (key p) fun _ => ⟨0, p.slots.length⟩
    · rw [hmem, List.map_cons, List.mem_cons, ← or_assoc]
      refine or_congr_left ?_
      unfold register isRegistered
      dsimp only
      split
      · next hold =>
        refine ⟨.inl, fun h => h.elim id ?_⟩
        rintro rfl
        simpa using hold
      · rw [List.mem_append, List.mem_singleton]
    · rw [hshown, List.map_cons]
      by_cases hk : k ∈ ps.map key
      · rw [if_pos hk, if_pos (List.mem_cons_of_mem _ hk)]
      · rw [if_neg hk]
        unfold gauge? register
        rw [shown?_setGauges, hp]
        by_cases heq : k = key p
        · rw [if_pos heq, if_pos (heq ▸ List.mem_cons_self)]
        · rw [if_neg heq, if_neg (List.not_mem_cons_of_ne_of_not_mem heq hk)]

theorem generation_le (hp : r.pool? ref = some p) :
    1 ≤ ref.generation ∧ ref.generation ≤ r.generations.length := by
  have hzero := generation_ne_zero hp
  unfold pool? pools at hp
  rw [if_neg hzero] at hp
  have hlt : ref.generation - 1 < r.generations.length := by
    by_contra hge
    rw [List.getD_eq_default _ _ (by omega)] at hp
    cases hp
  omega

theorem pool?_append {made : List ConnectionPool} (hg : r'.generations = r.generations ++ [made])
    (hp : r'.pool? ref = some p) : r.pool? ref = some p ∨
      (ref.generation = r.generations.length + 1 ∧ p ∈ made) := by
  cases hr : r.pool? ref with
  | some q =>
    rw [pool?_append_old hg hr] at hp
    exact .inl hp
  | none =>
    refine .inr ⟨?_, pool?_append_new hg hr hp⟩
    have hle := generation_le hp
    rw [hg, List.length_append, List.length_singleton] at hle
    by_contra hne
    have hlt : ref.generation - 1 < r.generations.length := by omega
    unfold pool? pools at hr hp
    rw [if_neg (by omega)] at hr hp
    rw [hg, List.getD_append _ _ _ _ hlt, hr] at hp
    cases hp

theorem pool?_iff : r.pool? ref = some p ↔ 1 ≤ ref.generation ∧
    ∃ ps, r.generations[ref.generation - 1]? = some ps ∧ ps[ref.place]? = some p := by
  unfold pool? pools
  by_cases hzero : ref.generation = 0
  · simp [hzero]
  · rw [if_neg hzero, List.getD_eq_getElem?_getD]
    have hpos : 1 ≤ ref.generation := Nat.one_le_iff_ne_zero.2 hzero
    cases r.generations[ref.generation - 1]? with
    | none => simp
    | some ps => simp [hpos]

theorem mem_flatten : p ∈ r.generations.flatten ↔ ∃ ref, r.pool? ref = some p := by
  rw [List.mem_flatten]
  constructor
  · rintro ⟨ps, hps, hp⟩
    obtain ⟨i, hi⟩ := List.mem_iff_getElem?.1 hps
    obtain ⟨place, hplace⟩ := List.mem_iff_getElem?.1 hp
    exact ⟨⟨i + 1, place⟩, pool?_iff.2 ⟨Nat.le_add_left 1 i, ps, hi, hplace⟩⟩
  · rintro ⟨ref, hp⟩
    obtain ⟨_, ps, hps, hplace⟩ := pool?_iff.1 hp
    exact ⟨ps, List.mem_of_getElem? hps, List.mem_of_getElem? hplace⟩

theorem Numbered.append (h : r.Numbered) {made : List ConnectionPool}
    (hg : r'.generations = r.generations ++ [made])
    (hmade : ∀ p ∈ made, p.generation = r.generations.length + 1) : r'.Numbered := by
  intro ref p hp
  rcases pool?_append hg hp with hold | ⟨hnew, hmem⟩
  · exact h ref p hold
  · exact (hmade p hmem).trans hnew.symm

theorem Numbered.install (h : r.Numbered) (configs : List Config.Pool)
    (endpoints : List Endpoint) : (r.install configs endpoints).Numbered := by
  obtain ⟨hgenerations, hcurrent⟩ := current_install r configs endpoints
  refine h.append hgenerations fun p hp => ?_
  rw [hcurrent] at hp
  obtain ⟨policy, _, rfl⟩ := List.mem_map.1 hp
  rfl

theorem Numbered.forgo (h : r.Numbered) (configs : List Config.Pool) :
    (r.forgo configs).Numbered := by
  intro ref p hp
  rw [pool?_forgo] at hp
  exact h ref p hp

theorem Numbered.served (h : r.Numbered) (hs : r.Served r') : r'.Numbered := by
  intro ref q hq
  obtain ⟨p, hp, hserves⟩ := hs.pool?_back hq
  exact hserves.generation.trans (h ref p hp)

theorem Numbered.replace (h : r.Numbered) (hp : r.pool? ref = some p)
    (hq : q.generation = p.generation)
    (hpool : ∀ other, r'.pool? other = if other = ref then some q else r.pool? other) :
    r'.Numbered := by
  intro other a ha
  rw [hpool] at ha
  by_cases heq : other = ref
  · rw [if_pos heq] at ha
    cases ha
    rw [hq, h ref p hp, heq]
  · rw [if_neg heq] at ha
    exact h other a ha

theorem Numbered.close (h : r.Numbered) (ref : PoolRef) : (r.close ref).Numbered := by
  cases hp : r.pool? ref with
  | none =>
    unfold Registry.close
    rwa [hp]
  | some p => exact @Numbered.replace _ _ _ _ p.close h hp rfl (pool?_close hp)

theorem Numbered.beginClosing (h : r.Numbered) (ref : PoolRef) :
    (r.beginClosing ref).2.Numbered := by
  cases hp : r.pool? ref with
  | none =>
    unfold Registry.beginClosing
    rwa [hp]
  | some p =>
    exact @Numbered.replace _ _ _ _ { p with closing := true } h hp rfl (pool?_beginClosing hp)

theorem Shows.append (h : r.Shows) (hn : r.Numbered) {made : List ConnectionPool} {n : Nat}
    (hg : r'.generations = r.generations ++ [made])
    (hmade : ∀ p ∈ made, p.generation = r.generations.length + 1 ∧ p.closed = false ∧
      p.inFlight = 0 ∧ p.slots.length = n)
    (hlive : r'.live.Nodup) (hgauges : (r'.gauges.map Prod.fst).Nodup)
    (hmem : ∀ k, k ∈ r'.live ↔ k ∈ r.live ∨ k ∈ made.map key)
    (hold : ∀ k : SeriesKey, k.2 ≤ r.generations.length → r'.gauge? k = r.gauge? k)
    (hnew : ∀ k ∈ made.map key, r'.gauge? k = some ⟨0, n⟩) : r'.Shows := by
  have hkey {ref : PoolRef} {p : ConnectionPool} (hp : r.pool? ref = some p) :
      (key p).2 ≤ r.generations.length := by
    change p.generation ≤ _
    rw [hn ref p hp]
    exact (generation_le hp).2
  have hfresh {p : ConnectionPool} (hp : p ∈ made) : (key p).2 = r.generations.length + 1 :=
    (hmade p hp).1
  refine ⟨hlive, hgauges, fun k => ?_, fun ref p hp hopen halone => ?_⟩
  · rw [hmem, h.registered]
    refine ⟨?_, fun ⟨⟨ref, p, hp, hk⟩, hall⟩ => ?_⟩
    · rintro (⟨⟨ref, p, hp, rfl⟩, hall⟩ | hk)
      · refine ⟨⟨ref, p, pool?_append_old hg hp, rfl⟩, fun other q hq hk => ?_⟩
        rcases pool?_append hg hq with hq | ⟨_, hq⟩
        · exact hall other q hq hk
        · exact (hmade q hq).2.1
      · obtain ⟨p, hp, rfl⟩ := List.mem_map.1 hk
        refine ⟨?_, fun other q hq hk => ?_⟩
        · have hflat : p ∈ r'.generations.flatten := by
            rw [hg]
            simp [hp]
          obtain ⟨ref, href⟩ := mem_flatten.1 hflat
          exact ⟨ref, p, href, rfl⟩
        · rcases pool?_append hg hq with hq | ⟨_, hq⟩
          · have hle := hkey hq
            rw [hk, hfresh hp] at hle
            omega
          · exact (hmade q hq).2.1
    · rcases pool?_append hg hp with hp | ⟨_, hp⟩
      · refine .inl ⟨⟨ref, p, hp, hk⟩, fun other q hq hk => ?_⟩
        exact hall other q (pool?_append_old hg hq) hk
      · exact .inr (List.mem_map.2 ⟨p, hp, hk⟩)
  · rcases pool?_append hg hp with hp' | ⟨_, hp'⟩
    · rw [hold _ (hkey hp')]
      refine h.shown ref p hp' hopen fun other q hq hk => ?_
      exact halone other q (pool?_append_old hg hq) hk
    · obtain ⟨_, _, hflight, hlength⟩ := hmade p hp'
      rw [hnew _ (List.mem_map_of_mem hp'), hflight, hlength]

theorem Shows.install (h : r.Shows) (hn : r.Numbered) (configs : List Config.Pool)
    (endpoints : List Endpoint) : (r.install configs endpoints).Shows := by
  obtain ⟨hgenerations, hcurrent⟩ := current_install r configs endpoints
  rw [hcurrent] at hgenerations
  let made := (activePolicies configs).map fun p =>
    ConnectionPool.new p (r.generations.length + 1) endpoints
  have hmade : ∀ p ∈ made, p.generation = r.generations.length + 1 ∧ p.closed = false ∧
      p.inFlight = 0 ∧ p.slots.length = endpoints.eraseDups.length := by
    intro p hp
    obtain ⟨policy, _, rfl⟩ := List.mem_map.1 hp
    exact ⟨rfl, rfl, rfl, List.length_map _⟩
  obtain ⟨hlive, hgauges, hmem, hshown⟩ := foldl_register made (fun p hp => (hmade p hp).2.2.2)
    { r with
      generations := r.generations ++ [made]
      generation := r.generations.length + 1 }
  refine h.append hn hgenerations hmade (hlive h.live) (hgauges h.gauges) hmem
    (fun k hk => ?_) fun k hk => (hshown k).trans (if_pos hk)
  refine (hshown k).trans (if_neg fun hmem => ?_)
  obtain ⟨p, hp, rfl⟩ := List.mem_map.1 hmem
  have hle : p.generation ≤ r.generations.length := hk
  rw [(hmade p hp).1] at hle
  omega

theorem Shows.forgo (h : r.Shows) (hn : r.Numbered) (configs : List Config.Pool) :
    (r.forgo configs).Shows := by
  have hempty : (r.forgo configs).generations = r.generations ++ [[]] := rfl
  have hfold (policies : List Policy) (gs : List (SeriesKey × Gauges)) (number : Nat) :
      ((gs.map Prod.fst).Nodup → ((policies.foldl (fun gs p =>
        setGauges gs (p.id, number) fun _ => {}) gs).map Prod.fst).Nodup) ∧
      ∀ k : SeriesKey, k.2 < number → shown? (policies.foldl (fun gs p =>
        setGauges gs (p.id, number) fun _ => {}) gs) k = shown? gs k := by
    induction policies generalizing gs with
    | nil => exact ⟨fun hd => hd, fun _ _ => rfl⟩
    | cons p policies ih =>
      obtain ⟨hnodup, hsame⟩ := ih (setGauges gs (p.id, number) fun _ => {})
      refine ⟨fun hd => hnodup (keys_setGauges hd (p.id, number) fun _ => {}), fun k hk => ?_⟩
      have hne : k ≠ (p.id, number) := by
        rintro rfl
        exact Nat.lt_irrefl _ hk
      rw [List.foldl_cons, hsame k hk, shown?_setGauges, if_neg hne]
  obtain ⟨hnodup, hsame⟩ := hfold ((activePolicies configs).takeWhile Policy.fits) r.gauges
    (r.generations.length + 1)
  have hmem (k : SeriesKey) : k ∈ (r.forgo configs).live ↔
      k ∈ r.live ∨ k ∈ ([] : List ConnectionPool).map key := by
    rw [List.map_nil, or_iff_left List.not_mem_nil]
    rfl
  exact h.append (n := 0) hn hempty (fun p hp => (List.not_mem_nil hp).elim) h.live
    (hnodup h.gauges) hmem (fun k hk => hsame k (Nat.lt_succ_of_le hk))
    fun k hk => (List.not_mem_nil hk).elim

theorem alone_of_nodup (hn : r.Numbered) (hp : r.pool? ref = some p)
    (hd : ((r.pools ref.generation).map ConnectionPool.id).Nodup) : r.Alone ref p := by
  intro other q hq hk
  obtain ⟨hid, hgeneration⟩ := Prod.mk.inj hk
  have hsame : other.generation = ref.generation := by
    rw [← hn other q hq, ← hn ref p hp]
    exact hgeneration
  have hplaces (a : PoolRef) (b : ConnectionPool) (hb : r.pool? a = some b) :
      ((r.pools a.generation).map ConnectionPool.id)[a.place]? = some b.id := by
    rw [List.getElem?_map]
    exact congrArg _ hb
  have hp' := hplaces ref p hp
  have hq' := hplaces other q hq
  rw [hsame, hid] at hq'
  obtain ⟨hlt, hget⟩ := List.getElem?_eq_some_iff.1 hp'
  obtain ⟨hlt', hget'⟩ := List.getElem?_eq_some_iff.1 hq'
  have hplace : other.place = ref.place := hd.getElem_inj_iff.1 (hget'.trans hget.symm)
  cases other
  cases ref
  exact PoolRef.mk.injEq .. ▸ ⟨hsame, hplace⟩

theorem Shows.own (h : r.Shows) (hn : r.Numbered) (hp : r.pool? ref = some p)
    (hopen : p.closed = false) (hd : ((r.pools ref.generation).map ConnectionPool.id).Nodup) :
    key p ∈ r.live ∧ r.gauge? (key p) = some ⟨p.inFlight, p.slots.length⟩ := by
  have halone := alone_of_nodup hn hp hd
  refine ⟨(h.registered _).2 ⟨⟨ref, p, hp, rfl⟩, fun other q hq hk => ?_⟩,
    h.shown ref p hp hopen halone⟩
  rw [halone other q hq hk, hp] at hq
  cases hq
  exact hopen

theorem Shows.length_live (h : r.Shows) (hn : r.Numbered)
    (hd : ∀ ps ∈ r.generations, (ps.map ConnectionPool.id).Nodup) :
    r.live.length = r.generations.flatten.countP fun p => !p.closed := by
  have hnumber {i : Nat} {ps : List ConnectionPool} (hi : r.generations[i]? = some ps)
      {p : ConnectionPool} (hp : p ∈ ps) : p.generation = i + 1 := by
    obtain ⟨place, hplace⟩ := List.mem_iff_getElem?.1 hp
    exact hn ⟨i + 1, place⟩ p (pool?_iff.2 ⟨Nat.le_add_left 1 i, ps, hi, hplace⟩)
  have hkeys : (r.generations.flatten.map key).Nodup := by
    rw [List.map_flatten, List.nodup_flatten]
    refine ⟨fun ks hks => ?_, ?_⟩
    · obtain ⟨ps, hps, rfl⟩ := List.mem_map.1 hks
      refine List.Nodup.of_map Prod.fst ?_
      rw [List.map_map]
      exact hd ps hps
    · rw [List.pairwise_map, List.pairwise_iff_getElem]
      intro i j hi hj hlt k hk hk'
      obtain ⟨p, hp, rfl⟩ := List.mem_map.1 hk
      obtain ⟨q, hq, hqp⟩ := List.mem_map.1 hk'
      have hpi := hnumber (List.getElem?_eq_getElem hi) hp
      have hqj := hnumber (List.getElem?_eq_getElem hj) hq
      have hsame : q.generation = p.generation := congrArg Prod.snd hqp
      omega
  have hperm : r.live.Perm ((r.generations.flatten.filter fun p => !p.closed).map key) := by
    rw [List.perm_ext_iff_of_nodup h.live (hkeys.sublist (List.filter_sublist.map key))]
    intro k
    rw [h.registered, List.mem_map]
    constructor
    · rintro ⟨⟨ref, p, hp, rfl⟩, hall⟩
      have hopen := hall ref p hp rfl
      exact ⟨p, List.mem_filter.2 ⟨mem_flatten.2 ⟨ref, hp⟩, by simp [hopen]⟩, rfl⟩
    · rintro ⟨p, hp, rfl⟩
      obtain ⟨hmem, hopen⟩ := List.mem_filter.1 hp
      obtain ⟨ref, href⟩ := mem_flatten.1 hmem
      refine ⟨⟨ref, p, href, rfl⟩, fun other q hq hk => ?_⟩
      have heq : q = p := List.inj_on_of_nodup_map hkeys (mem_flatten.2 ⟨other, hq⟩) hmem hk
      rw [heq]
      simpa using hopen
  rw [hperm.length_eq, List.length_map, List.countP_eq_length_filter]

end

end Registry

namespace Schedule

section
variable {s : Schedule} {hs : List Holding}

theorem shows_look (h : s.registry.Shows) (i : Nat) (d : Drain) : (s.look i d).registry.Shows := by
  unfold Schedule.look
  split
  · exact h.close d.pool
  · exact h

theorem shows_advance (h : s.registry.Shows) (hl : s.Ledger hs) (ht : s.Timely) (ms : Nat) :
    (s.advance ms).registry.Shows :=
  advance_keeps (I := fun s => s.registry.Shows) hl ht h
    (fun s _ h => h.served s.serves_pickUpAll.registry)
    (fun s w _ _ h => h.served (s.serves_giveUp w).registry)
    (fun _ i d _ _ _ _ h => shows_look h i d) (fun _ _ _ h => h) ms

theorem numbered_advance (h : s.registry.Numbered) (hl : s.Ledger hs) (ht : s.Timely) (ms : Nat) :
    (s.advance ms).registry.Numbered := by
  refine advance_keeps (I := fun s => s.registry.Numbered) hl ht h
    (fun s _ h => h.served s.serves_pickUpAll.registry)
    (fun s w _ _ h => h.served (s.serves_giveUp w).registry)
    (fun s i d _ _ _ _ h => ?_) (fun _ _ _ h => h) ms
  unfold Schedule.look
  split
  · exact h.close d.pool
  · exact h

theorem shows_reload (h : s.registry.Shows) (hn : s.registry.Numbered)
    (configs : List Config.Pool) (endpoints : List Endpoint) :
    (s.reload configs endpoints).2.registry.Shows ∧
      (s.reload configs endpoints).2.registry.Numbered := by
  have hfold (refs : List PoolRef) (s : Schedule)
      (h : s.registry.Shows ∧ s.registry.Numbered) :
      (refs.foldl Schedule.dispose s).registry.Shows ∧
        (refs.foldl Schedule.dispose s).registry.Numbered := by
    induction refs generalizing s with
    | nil => exact h
    | cons ref refs ih => exact ih (s.dispose ref) ⟨h.1.beginClosing ref, h.2.beginClosing ref⟩
  exact hfold (s.registry.refs s.registry.generation)
    { s with registry := s.registry.install configs endpoints }
    ⟨h.install hn configs endpoints, hn.install configs endpoints⟩

end

end Schedule
end ReverseProxy.Pool
