import Mathlib.Data.List.Count
import ReverseProxy.Pool.ConnectionPool
import ReverseProxy.Proofs.Keyed

set_option autoImplicit false

namespace ReverseProxy.Pool.ConnectionPool

def queued (slots : List Slots) : List (Ticket × Endpoint) :=
  slots.flatMap fun s => s.queue.map fun t => (t, s.endpoint)

def tickets (p : ConnectionPool) : List (Ticket × Endpoint) := p.ready ++ queued p.slots

/-- The slots of an endpoint that are lent or kept ready, where the endpoints in `out` are lent. -/
def load (p : ConnectionPool) (out : List Endpoint) (e : Endpoint) : Nat :=
  out.count e + (p.ready.map Prod.snd).count e

/-- The slots are all there while the endpoints in `out` are lent. -/
structure Fits (p : ConnectionPool) (out : List Endpoint) : Prop where
  distinct : (p.slots.map Slots.endpoint).Nodup
  slots : ∀ s ∈ p.slots, s.free + p.load out s.endpoint = p.policy.maxConnectionsPerEndpoint
  known : p.closed = false → ∀ e, p.load out e ≠ 0 → ∃ s ∈ p.slots, s.endpoint = e
  closed : p.closed = true → p.slots = []

/-- The pool lends the endpoints in `out` and counts them. -/
structure Lends (p : ConnectionPool) (out : List Endpoint) : Prop extends p.Fits out where
  inFlight : p.inFlight = out.length

def Settles (q : ConnectionPool) (t : Ticket) (e : Endpoint) (out : List Endpoint)
    (others : List (Ticket × Endpoint)) : Asked → Prop
  | .granted => q.Lends (e :: out) ∧ q.tickets.Perm others
  | .waits => q.Lends out ∧ q.tickets.Perm ((t, e) :: others)
  | .refused _ => q.Lends out ∧ q.tickets.Perm others

section
variable {p q : ConnectionPool} {out out' : List Endpoint} {e : Endpoint} {t : Ticket}
  {others : List (Ticket × Endpoint)}

theorem load_perm (h : out.Perm out') (e : Endpoint) : p.load out e = p.load out' e := by
  unfold load
  rw [h.count_eq]

theorem Fits.perm (h : p.Fits out) (hp : out.Perm out') : p.Fits out' where
  distinct := h.distinct
  slots s hs := by rw [← load_perm hp]; exact h.slots s hs
  known hc e he := h.known hc e (by rwa [load_perm hp])
  closed := h.closed

theorem Lends.perm (h : p.Lends out) (hp : out.Perm out') : p.Lends out' :=
  ⟨h.toFits.perm hp, h.inFlight.trans hp.length_eq⟩

theorem Settles.perm {others' : List (Ticket × Endpoint)} {asked : Asked}
    (h : q.Settles t e out others asked) (hp : others.Perm others') :
    q.Settles t e out others' asked := by
  cases asked with
  | granted => exact ⟨h.1, h.2.trans hp⟩
  | waits => exact ⟨h.1, h.2.trans (hp.cons _)⟩
  | refused why => exact ⟨h.1, h.2.trans hp⟩

theorem queued_cons (s : Slots) (slots : List Slots) :
    queued (s :: slots) = (s.queue.map fun t => (t, s.endpoint)) ++ queued slots := rfl

theorem queued_perm {a b : List Slots} (h : a.Perm b) : (queued a).Perm (queued b) :=
  h.flatMap_right _

theorem find?_eq_none_iff : p.find? e = none ↔ ∀ s ∈ p.slots, s.endpoint ≠ e := by
  simp [find?]

theorem find?_some {s : Slots} (h : p.find? e = some s) : s ∈ p.slots ∧ s.endpoint = e := by
  refine ⟨List.mem_of_find?_eq_some h, ?_⟩
  simpa using List.find?_some h

theorem setSlots_perm (h : (p.slots.map Slots.endpoint).Nodup) {s : Slots} (hs : s ∈ p.slots)
    (s' : Slots) (he : s'.endpoint = s.endpoint) :
    ∃ rest, p.slots.Perm (s :: rest) ∧ (p.setSlots s').slots.Perm (s' :: rest) := by
  obtain ⟨before, after, hsplit⟩ := List.append_of_mem hs
  have hset (l : List Slots) (hl : s.endpoint ∉ l.map Slots.endpoint) :
      (l.map fun a => if a.endpoint == s'.endpoint then s' else a) = l := by
    refine (List.map_congr_left fun a ha => ?_).trans (List.map_id l)
    have hne : a.endpoint ≠ s'.endpoint := by
      rw [he]
      exact fun heq => hl (heq ▸ List.mem_map_of_mem ha)
    simp [hne]
  rw [hsplit, List.map_append, List.map_cons, List.nodup_middle, List.nodup_cons] at h
  obtain ⟨hbefore, hafter⟩ := not_or.1 fun hor => h.1 (List.mem_append.2 hor)
  refine ⟨before ++ after, hsplit ▸ List.perm_middle, ?_⟩
  have hnew : (p.setSlots s').slots = before ++ s' :: after := by
    change (p.slots.map _) = _
    rw [hsplit, List.map_append, List.map_cons, hset before hbefore, hset after hafter]
    simp [he]
  rw [hnew]
  exact List.perm_middle

theorem mem_setSlots {s a : Slots} (h : a ∈ (p.setSlots s).slots) :
    a = s ∨ (a ∈ p.slots ∧ a.endpoint ≠ s.endpoint) := by
  obtain ⟨b, hb, hba⟩ := List.mem_map.1 h
  by_cases hbs : b.endpoint = s.endpoint
  · left
    simpa [hbs] using hba.symm
  · right
    have hab : b = a := by simpa [hbs] using hba
    exact ⟨hab ▸ hb, hab ▸ hbs⟩

theorem endpoints_setSlots (s : Slots) :
    (p.setSlots s).slots.map Slots.endpoint = p.slots.map Slots.endpoint := by
  simp only [setSlots, List.map_map]
  apply List.map_congr_left
  intro a _
  by_cases h : a.endpoint = s.endpoint
  · simp [h]
  · simp [h]

theorem Fits.change (h : p.Fits out) {s : Slots} (hs : s ∈ p.slots) (s' : Slots)
    (he : s'.endpoint = s.endpoint) (hslots : q.slots = (p.setSlots s').slots)
    (hpolicy : q.policy = p.policy) (hclosed : q.closed = p.closed)
    (hfree : s'.free + q.load out' s.endpoint = s.free + p.load out s.endpoint)
    (hload : ∀ e, e ≠ s.endpoint → q.load out' e = p.load out e) : q.Fits out' where
  distinct := by
    rw [hslots, endpoints_setSlots]
    exact h.distinct
  slots a ha := by
    rw [hslots] at ha
    rw [hpolicy]
    rcases mem_setSlots ha with rfl | ⟨ha, hne⟩
    · rw [he, hfree]
      exact h.slots s hs
    · rw [he] at hne
      rw [hload a.endpoint hne]
      exact h.slots a ha
  known hc e hne := by
    have hmem : e ∈ p.slots.map Slots.endpoint := by
      by_cases hes : e = s.endpoint
      · exact hes ▸ List.mem_map_of_mem hs
      · rw [hload e hes] at hne
        exact List.mem_map.2 (h.known (hclosed ▸ hc) e hne)
    rw [← endpoints_setSlots s', ← hslots] at hmem
    exact List.mem_map.1 hmem
  closed hc := by
    rw [h.closed (hclosed ▸ hc)] at hs
    cases hs

theorem Fits.provision (h : p.Fits out) (hc : p.closed = false) (e : Endpoint) :
    (p.provision e).Fits out ∧ (p.provision e).tickets = p.tickets ∧
      ∃ s, (p.provision e).find? e = some s := by
  unfold ConnectionPool.provision
  split
  · next hsome => exact ⟨h, rfl, Option.isSome_iff_exists.1 hsome⟩
  · next hnone =>
    have hnew : ∀ s ∈ p.slots, s.endpoint ≠ e :=
      find?_eq_none_iff.1 (Option.not_isSome_iff_eq_none.1 hnone)
    have hzero : p.load out e = 0 := by
      by_contra hne
      obtain ⟨s, hs, hse⟩ := h.known hc e hne
      exact hnew s hs hse
    refine ⟨⟨?_, ?_, ?_, ?_⟩, ?_, slotsOf p.policy e, ?_⟩
    · rw [List.map_append, List.nodup_append]
      refine ⟨h.distinct, List.nodup_singleton e, ?_⟩
      intro a ha b hb hab
      obtain ⟨s, hs, rfl⟩ := List.mem_map.1 ha
      exact hnew s hs (hab.trans (List.mem_singleton.1 hb))
    · intro s hs
      rcases List.mem_append.1 hs with hs | hs
      · exact h.slots s hs
      · rw [List.mem_singleton.1 hs]
        change p.policy.maxConnectionsPerEndpoint + p.load out e = _
        rw [hzero]
        rfl
    · intro _ a ha
      obtain ⟨s, hs, hsa⟩ := h.known hc a ha
      exact ⟨s, List.mem_append_left _ hs, hsa⟩
    · intro hclosed
      have hopen : p.closed = true := hclosed
      rw [hc] at hopen
      cases hopen
    · simp [ConnectionPool.tickets, queued, slotsOf]
    · have hp : p.slots.find? (·.endpoint == e) = none := Option.not_isSome_iff_eq_none.1 hnone
      simp [ConnectionPool.find?, hp, slotsOf]

theorem Lends.ask (h : p.Lends out) (t : Ticket) (e : Endpoint) :
    (p.ask t e).2.Settles t e out p.tickets (p.ask t e).1 := by
  unfold ConnectionPool.ask
  split
  · exact ⟨h, .refl _⟩
  split
  · exact ⟨h, .refl _⟩
  next hopen _ =>
    obtain ⟨hfits, htickets, s, hs⟩ := h.toFits.provision (Bool.eq_false_iff.2 hopen) e
    have hflight : (p.provision e).inFlight = out.length := by
      rw [← h.inFlight]
      unfold ConnectionPool.provision
      split <;> rfl
    obtain ⟨hmem, rfl⟩ := find?_some hs
    simp only [hs, Option.getD_some]
    split
    · next hfree =>
      obtain ⟨rest, hrest, hset⟩ := setSlots_perm hfits.distinct hmem
        { s with free := s.free - 1 } rfl
      refine ⟨⟨hfits.change hmem { s with free := s.free - 1 } rfl rfl rfl rfl ?_ ?_,
        by rw [hflight]; rfl⟩, ?_⟩
      · simp only [load, List.count_cons_self]
        change s.free - 1 + (_ + 1 + ((p.provision s.endpoint).ready.map Prod.snd).count _) = _
        omega
      · intro a ha
        have hne : ¬s.endpoint = a := fun heq => ha heq.symm
        simp only [load]
        rw [List.count_cons_of_ne hne]
        rfl
      · rw [← htickets]
        exact (List.Perm.refl _).append ((queued_perm hset).trans (queued_perm hrest).symm)
    · obtain ⟨rest, hrest, hset⟩ := setSlots_perm hfits.distinct hmem
        { s with queue := s.queue ++ [t] } rfl
      refine ⟨⟨hfits.change hmem { s with queue := s.queue ++ [t] } rfl rfl rfl rfl rfl
        fun _ _ => rfl, hflight⟩, ?_⟩
      -- The new ticket is the last of its queue.
      rw [← htickets]
      have hqueue : (queued ({ s with queue := s.queue ++ [t] } :: rest)).Perm
          ((t, s.endpoint) :: queued (s :: rest)) := by
        rw [queued_cons, queued_cons, List.map_append, List.append_assoc]
        exact List.perm_middle
      have hslots := (queued_perm hset).trans (hqueue.trans ((queued_perm hrest).symm.cons _))
      exact ((List.Perm.refl _).append hslots).trans List.perm_middle

theorem tickets_promote {s : Slots} {queue : List Ticket} {slots rest : List Slots}
    (hqueue : s.queue = t :: queue) (hrest : p.slots.Perm (s :: rest))
    (hset : slots.Perm ({ s with queue } :: rest)) :
    ((p.ready ++ [(t, s.endpoint)]) ++ queued slots).Perm p.tickets := by
  -- The head of the queue becomes the last of the ready ones.
  have hold : (queued p.slots).Perm ((t, s.endpoint) :: queued ({ s with queue } :: rest)) := by
    refine (queued_perm hrest).trans ?_
    rw [queued_cons, queued_cons, hqueue]
    exact .refl _
  have hnew := (List.Perm.refl (p.ready ++ [(t, s.endpoint)])).append (queued_perm hset)
  refine hnew.trans (.trans ?_ ((List.Perm.refl p.ready).append hold).symm)
  rw [List.append_assoc]
  exact .refl _

theorem Fits.passOn (h : p.Fits (e :: out)) :
    (p.passOn e).Fits out ∧ (p.passOn e).tickets.Perm p.tickets := by
  have hone : p.load (e :: out) e = p.load out e + 1 := by
    simp only [load, List.count_cons_self]
    omega
  have hother (a : Endpoint) (ha : a ≠ e) : p.load (e :: out) a = p.load out a := by
    simp only [load]
    rw [List.count_cons_of_ne fun heq => ha heq.symm]
  unfold ConnectionPool.passOn
  cases hfind : p.find? e with
  | none =>
    -- Only a closed pool has forgotten the slots of what it lends.
    have hc : p.closed = true := by
      by_contra hopen
      obtain ⟨s, hs, hse⟩ := h.known (Bool.eq_false_iff.2 hopen) e (by omega)
      exact find?_eq_none_iff.1 hfind s hs hse
    have hnil := h.closed hc
    refine ⟨⟨h.distinct, ?_, fun hopen => ?_, h.closed⟩, .refl _⟩
    · intro s hs
      rw [hnil] at hs
      cases hs
    · rw [hc] at hopen
      cases hopen
  | some s =>
    obtain ⟨hmem, rfl⟩ := find?_some hfind
    cases hqueue : s.queue with
    | nil =>
      obtain ⟨rest, hrest, hset⟩ := setSlots_perm h.distinct hmem
        ⟨s.endpoint, s.free + 1, []⟩ rfl
      simp only [hqueue]
      refine ⟨h.change hmem ⟨s.endpoint, s.free + 1, []⟩ rfl rfl rfl rfl ?_
        fun a ha => (hother a ha).symm, ?_⟩
      · rw [hone]
        change s.free + 1 + p.load out s.endpoint = _
        omega
      · have hsame : queued (⟨s.endpoint, s.free + 1, []⟩ :: rest) = queued (s :: rest) := by
          rw [queued_cons, queued_cons, hqueue]
        have hslots := (queued_perm hset).trans (hsame ▸ (queued_perm hrest).symm)
        exact (List.Perm.refl _).append hslots
    | cons t queue =>
      obtain ⟨rest, hrest, hset⟩ := setSlots_perm h.distinct hmem { s with queue } rfl
      simp only [hqueue]
      have hready (a : Endpoint) : ((p.ready ++ [(t, s.endpoint)]).map Prod.snd).count a =
          (p.ready.map Prod.snd).count a + [s.endpoint].count a := by
        rw [List.map_append, List.count_append]
        rfl
      refine ⟨h.change hmem { s with queue } rfl rfl rfl rfl ?_ fun a ha => ?_, ?_⟩
      · simp only [load, hready, List.count_cons_self, List.count_nil]
        omega
      · have hzero : [s.endpoint].count a = 0 := by
          rw [List.count_cons_of_ne fun heq => ha heq.symm]
          rfl
        rw [hother a ha]
        simp only [load, hready, hzero]
        omega
      · exact tickets_promote hqueue hrest hset

theorem inFlight_passOn (e : Endpoint) : (p.passOn e).inFlight = p.inFlight := by
  unfold ConnectionPool.passOn
  split
  · rfl
  · split <;> rfl

theorem Lends.release (h : p.Lends (e :: out)) :
    (p.release e).Lends out ∧ (p.release e).tickets.Perm p.tickets := by
  have hfits : ({ p with inFlight := p.inFlight - 1 } : ConnectionPool).Fits (e :: out) :=
    ⟨h.distinct, h.slots, h.known, h.closed⟩
  refine ⟨⟨hfits.passOn.1, ?_⟩, hfits.passOn.2⟩
  refine (inFlight_passOn e).trans ?_
  change p.inFlight - 1 = _
  rw [h.inFlight]
  rfl

theorem fits_of_closed (hc : q.closed = true) (hs : q.slots = []) : q.Fits out where
  distinct := by
    rw [hs]
    exact List.nodup_nil
  slots s hmem := by
    rw [hs] at hmem
    cases hmem
  known hopen := by
    rw [hc] at hopen
    cases hopen
  closed _ := hs

theorem Fits.keep (h : p.Fits out)
    (hslots : q.slots.map (fun s => (s.endpoint, s.free)) =
      p.slots.map fun s => (s.endpoint, s.free))
    (hpolicy : q.policy = p.policy) (hclosed : q.closed = p.closed)
    (hload : ∀ e, q.load out' e = p.load out e) : q.Fits out' := by
  have hendpoints : q.slots.map Slots.endpoint = p.slots.map Slots.endpoint := by
    have hfst := congrArg (List.map Prod.fst) hslots
    simpa only [List.map_map, Function.comp_def] using hfst
  refine ⟨hendpoints ▸ h.distinct, fun s hs => ?_, fun hc e hne => ?_, fun hc => ?_⟩
  · have hmem : (s.endpoint, s.free) ∈ p.slots.map fun s => (s.endpoint, s.free) :=
      hslots ▸ List.mem_map_of_mem hs
    obtain ⟨a, ha, heq⟩ := List.mem_map.1 hmem
    obtain ⟨hae, haf⟩ := Prod.mk.inj heq
    rw [hload, hpolicy, ← hae, ← haf]
    exact h.slots a ha
  · rw [hload] at hne
    have hmem := List.mem_map.2 (h.known (hclosed ▸ hc) e hne)
    exact List.mem_map.1 (hendpoints ▸ hmem)
  · have hnil := h.closed (hclosed ▸ hc)
    rw [hnil] at hslots
    exact List.map_eq_nil_iff.1 hslots

theorem isReady_iff : p.isReady t = true ↔ t ∈ p.ready.map Prod.fst := by
  simp [isReady]

theorem unready_perm (h : p.tickets.Perm ((t, e) :: others)) (ht : t ∉ others.map Prod.fst)
    (hr : p.isReady t = true) :
    p.ready.Perm ((t, e) :: (p.unready t).ready) ∧ (p.unready t).tickets.Perm others := by
  obtain ⟨a, ha, rfl⟩ := List.mem_map.1 (isReady_iff.1 hr)
  have hae : a = (a.1, e) := by
    have hmem : a ∈ (a.1, e) :: others := h.subset (List.mem_append_left _ ha)
    rcases List.mem_cons.1 hmem with heq | hmem
    · exact heq
    · exact absurd (List.mem_map_of_mem hmem) ht
  obtain ⟨before, after, hsplit⟩ := List.append_of_mem ha
  have hrest : (before ++ after ++ queued p.slots).Perm others := by
    rw [← hae, tickets, hsplit] at h
    exact ((List.perm_middle.symm.append (.refl _)).trans h).cons_inv
  have hfresh : a.1 ∉ (before ++ after).map Prod.fst := fun hmem =>
    ht ((hrest.map Prod.fst).subset (by
      rw [List.map_append]
      exact List.mem_append_left _ hmem))
  have hready : (p.unready a.1).ready = before ++ after := by
    change p.ready.filter _ = _
    rw [hsplit, List.filter_append, List.filter_cons_of_neg (by simp), ← List.filter_append,
      Keyed.filter_of_notMem _ hfresh]
  refine ⟨?_, ?_⟩
  · rw [hready, hsplit, ← hae]
    exact List.perm_middle
  · rw [tickets, hready]
    exact hrest

theorem queued_leaveQueue :
    queued (p.leaveQueue t).slots = (queued p.slots).filter (·.1 != t) := by
  change queued (p.slots.map fun s => { s with queue := s.queue.filter (· != t) }) = _
  induction p.slots with
  | nil => rfl
  | cons s slots ih =>
    rw [List.map_cons, queued_cons, queued_cons, ih, List.filter_append, List.filter_map]
    rfl

theorem leaveQueue_perm (h : p.tickets.Perm ((t, e) :: others)) (ht : t ∉ others.map Prod.fst)
    (hr : p.isReady t = false) : (p.leaveQueue t).tickets.Perm others := by
  have hready : t ∉ p.ready.map Prod.fst := by
    rw [← isReady_iff, hr]
    exact Bool.false_ne_true
  have hleft : (p.leaveQueue t).tickets = p.tickets.filter (·.1 != t) := by
    rw [tickets, queued_leaveQueue, tickets, List.filter_append, Keyed.filter_of_notMem _ hready]
    rfl
  have hothers : ((t, e) :: others).filter (·.1 != t) = others := by
    rw [List.filter_cons_of_neg (by simp), Keyed.filter_of_notMem _ ht]
  rw [hleft, ← hothers]
  exact h.filter _

theorem Fits.leaveQueue (h : p.Fits out) : (p.leaveQueue t).Fits out := by
  refine h.keep ?_ rfl rfl fun _ => rfl
  simp [ConnectionPool.leaveQueue]

theorem Fits.unready (h : p.Fits out) (hready : p.ready.Perm ((t, e) :: (p.unready t).ready)) :
    (p.unready t).Fits (e :: out) := by
  refine h.keep rfl rfl rfl fun a => ?_
  have hcount := (hready.map Prod.snd).count_eq a
  simp only [List.map_cons, List.count_cons] at hcount
  simp only [load, List.count_cons]
  omega

theorem Lends.pickUp (h : p.Lends out) (htickets : p.tickets.Perm ((t, e) :: others))
    (ht : t ∉ others.map Prod.fst) : (p.pickUp t).2.Settles t e out others (p.pickUp t).1 := by
  unfold ConnectionPool.pickUp
  split
  · exact ⟨h, htickets⟩
  next hr =>
    have hready : p.isReady t = true := by simpa using hr
    obtain ⟨hsplit, hothers⟩ := unready_perm htickets ht hready
    split
    · next hc => exact ⟨⟨fits_of_closed hc (h.closed hc), h.inFlight⟩, hothers⟩
    · have hfits := h.toFits.unready hsplit
      refine ⟨⟨⟨hfits.distinct, hfits.slots, hfits.known, hfits.closed⟩, ?_⟩, hothers⟩
      change p.inFlight + 1 = _
      rw [h.inFlight]
      rfl

theorem Lends.giveUp (h : p.Lends out) (htickets : p.tickets.Perm ((t, e) :: others))
    (ht : t ∉ others.map Prod.fst) :
    (p.giveUp t e).2.Settles t e out others (p.giveUp t e).1 := by
  unfold ConnectionPool.giveUp
  split
  · exact h.pickUp htickets ht
  next hr =>
    have hwaits := Bool.eq_false_iff.2 hr
    exact ⟨⟨h.toFits.leaveQueue, h.inFlight⟩, leaveQueue_perm htickets ht hwaits⟩

theorem Lends.abandon (h : p.Lends out) (htickets : p.tickets.Perm ((t, e) :: others))
    (ht : t ∉ others.map Prod.fst) :
    (p.abandon t e).Lends out ∧ (p.abandon t e).tickets.Perm others := by
  unfold ConnectionPool.abandon
  split
  · next hready =>
    obtain ⟨hsplit, hothers⟩ := unready_perm htickets ht hready
    obtain ⟨hfits, hpassed⟩ := (h.toFits.unready hsplit).passOn
    exact ⟨⟨hfits, (inFlight_passOn e).trans h.inFlight⟩, hpassed.trans hothers⟩
  · next hr =>
    have hwaits := Bool.eq_false_iff.2 hr
    exact ⟨⟨h.toFits.leaveQueue, h.inFlight⟩, leaveQueue_perm htickets ht hwaits⟩

theorem Lends.close (h : p.Lends out) : p.close.Lends out ∧ p.close.tickets = p.tickets :=
  ⟨⟨fits_of_closed rfl rfl, h.inFlight⟩, List.append_nil _⟩

theorem nodup_eraseDups (es : List Endpoint) : es.eraseDups.Nodup := by
  induction hn : es.length using Nat.strongRecOn generalizing es with
  | ind n ih =>
    cases es with
    | nil => exact List.nodup_nil
    | cons e es =>
      have hle : (es.filter fun b => !b == e).length ≤ es.length := List.length_filter_le _ _
      rw [List.eraseDups_cons, List.nodup_cons, List.mem_eraseDups]
      refine ⟨by simp, ih _ ?_ _ rfl⟩
      rw [← hn, List.length_cons]
      omega

theorem lends_new (policy : Policy) (generation : Nat) (endpoints : List Endpoint) :
    (new policy generation endpoints).Lends [] ∧
      (new policy generation endpoints).tickets = [] := by
  have hslots : (new policy generation endpoints).slots =
      endpoints.eraseDups.map (slotsOf policy) := rfl
  refine ⟨⟨⟨?_, fun s hs => ?_, fun _ e hne => absurd rfl hne, fun hc => by cases hc⟩, rfl⟩, ?_⟩
  · rw [hslots, List.map_map]
    exact (List.map_id _).symm ▸ nodup_eraseDups endpoints
  · rw [hslots] at hs
    obtain ⟨e, _, rfl⟩ := List.mem_map.1 hs
    rfl
  · rw [tickets, hslots]
    induction endpoints.eraseDups with
    | nil => rfl
    | cons e es ih => exact ih

end

end ReverseProxy.Pool.ConnectionPool
