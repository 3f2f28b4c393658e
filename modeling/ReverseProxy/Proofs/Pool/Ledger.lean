import ReverseProxy.Proofs.Pool.Backing

set_option autoImplicit false

/-!
# Who holds what of the pools

A forward holds nothing, a ticket or a lease, and a ticket that was answered with a lease stands for
it. The holdings taken together account for all that the pools lend and for everyone who waits,
whatever is asked for, given back or given up, and however much time passes.
-/
namespace ReverseProxy.Pool

inductive Holding where
  | nothing
  | ticket (t : Ticket)
  | lease (l : Lease)
deriving DecidableEq, Repr

def Holding.ticket? : Holding → Option Ticket
  | .ticket t => some t
  | _ => none

namespace Schedule

def leaseOf? (s : Schedule) : Holding → Option Lease
  | .nothing => none
  | .ticket t => (s.answer? t).bind Except.toOption
  | .lease l => some l

def leases (s : Schedule) (hs : List Holding) : List Lease := hs.filterMap s.leaseOf?

def waits (ws : List Waiter) : List (Ticket × Lease) := ws.map fun w => (w.ticket, w.lease)

/-- Tickets are given out once, and who waits holds a ticket that has no answer. -/
structure Tidy (s : Schedule) (hs : List Holding) : Prop where
  waiting : (s.waiters.map Waiter.ticket).Nodup
  owned : ∀ w ∈ s.waiters, .ticket w.ticket ∈ hs
  unanswered : ∀ w ∈ s.waiters, s.answer? w.ticket = none
  held : (hs.filterMap Holding.ticket?).Nodup
  fresh : ∀ t, .ticket t ∈ hs ∨ s.answer? t ≠ none → t < s.nextTicket

/-- The holdings account for what the pools lend and for all who wait. -/
structure Ledger (s : Schedule) (hs : List Holding) : Prop extends s.Tidy hs where
  backs : s.registry.Backs (s.leases hs) (waits s.waiters)

structure Fresh (s : Schedule) : Prop where
  waiters : ∀ w ∈ s.waiters, w.ticket < s.nextTicket
  answers : ∀ a ∈ s.answers, a.1 < s.nextTicket

section
variable {s s' : Schedule} {hs rest : List Holding} {h h' : Holding} {t : Ticket} {l : Lease}
  {w : Waiter}

theorem Tidy.perm {hs' : List Holding} (ht : s.Tidy hs) (hp : hs.Perm hs') : s.Tidy hs' where
  waiting := ht.waiting
  owned w hw := hp.subset (ht.owned w hw)
  unanswered := ht.unanswered
  held := (hp.filterMap _).nodup_iff.1 ht.held
  fresh t ht' := ht.fresh t (ht'.imp_left fun hmem => hp.symm.subset hmem)

theorem Ledger.perm {hs' : List Holding} (hl : s.Ledger hs) (hp : hs.Perm hs') : s.Ledger hs' :=
  ⟨hl.toTidy.perm hp, hl.backs.perm (hp.filterMap _) (.refl _)⟩

theorem Ledger.congr (hl : s.Ledger hs) (hr : s'.registry = s.registry)
    (hw : s'.waiters = s.waiters) (ha : s'.answers = s.answers)
    (hn : s'.nextTicket = s.nextTicket) : s'.Ledger hs := by
  cases s
  cases s'
  subst hr hw ha hn
  exact ⟨⟨hl.waiting, hl.owned, hl.unanswered, hl.held, hl.fresh⟩, hl.backs⟩

def answered (s : Schedule) (t : Ticket) (a : Answer) : Schedule :=
  { s with answers := s.answers ++ [(t, a)], waiters := s.waiters.filter (·.ticket != t) }

theorem answer?_answered (hnone : s.answer? t = none) (a : Answer) (other : Ticket) :
    (s.answered t a).answer? other = if other = t then some a else s.answer? other := by
  have hfind : (s.answered t a).answer? other =
      ((s.answers.find? (·.1 == other)).or (if t = other then some (t, a) else none)).map
        Prod.snd := by
    rw [answer?, answered, List.find?_append]
    by_cases ho : t = other
    · simp [ho]
    · simp [ho]
  rw [hfind]
  by_cases ho : other = t
  · subst ho
    have hempty : s.answers.find? (·.1 == other) = none := Option.map_eq_none_iff.1 hnone
    rw [hempty]
    simp
  · have ho' : ¬t = other := fun heq => ho heq.symm
    rw [if_neg ho, if_neg ho', Option.or_none]
    rfl

theorem Tidy.answered (ht : s.Tidy hs) (hmem : .ticket t ∈ hs) (hnone : s.answer? t = none)
    (a : Answer) : (s.answered t a).Tidy hs where
  waiting := ht.waiting.sublist (List.filter_sublist.map _)
  owned w hw := ht.owned w (List.mem_of_mem_filter hw)
  unanswered w hw := by
    have hne : w.ticket ≠ t := bne_iff_ne.1 (List.mem_filter.1 hw).2
    rw [answer?_answered hnone, if_neg hne]
    exact ht.unanswered w (List.mem_of_mem_filter hw)
  held := ht.held
  fresh other ho := by
    by_cases heq : other = t
    · exact heq ▸ ht.fresh t (.inl hmem)
    · rw [answer?_answered hnone, if_neg heq] at ho
      exact ht.fresh other ho

theorem leases_answered (ht : s.Tidy hs) (hmem : .ticket t ∈ hs) (hnone : s.answer? t = none)
    (a : Answer) : ((s.answered t a).leases hs).Perm (a.toOption.toList ++ s.leases hs) := by
  obtain ⟨before, after, rfl⟩ := List.append_of_mem hmem
  have hperm : (before ++ .ticket t :: after).Perm (.ticket t :: (before ++ after)) :=
    List.perm_middle
  have hheld := ((hperm.filterMap Holding.ticket?).nodup_iff.1 ht.held)
  rw [List.filterMap_cons_some (f := Holding.ticket?) (b := t) rfl, List.nodup_cons] at hheld
  have hrest : (s.answered t a).leases (before ++ after) = s.leases (before ++ after) := by
    apply List.filterMap_congr
    intro h hh
    cases h with
    | nothing | lease l => rfl
    | ticket other =>
      have hne : other ≠ t := by
        rintro rfl
        exact hheld.1 (List.mem_filterMap.2 ⟨_, hh, rfl⟩)
      simp only [leaseOf?]
      rw [answer?_answered hnone, if_neg hne]
  have hnow : (s.answered t a).leaseOf? (.ticket t) = a.toOption := by
    simp only [leaseOf?]
    rw [answer?_answered hnone, if_pos rfl]
    rfl
  have hthen : s.leaseOf? (.ticket t) = none := by
    simp only [leaseOf?]
    rw [hnone]
    rfl
  have hold : (s.leases (before ++ .ticket t :: after)).Perm (s.leases (before ++ after)) := by
    have hp := hperm.filterMap s.leaseOf?
    rw [List.filterMap_cons_none hthen] at hp
    exact hp
  have hnew := (hperm.filterMap (s.answered t a).leaseOf?)
  rw [List.filterMap_cons, hnow] at hnew
  have hstill := hrest ▸ hold.symm
  cases a with
  | error why => exact hnew.trans hstill
  | ok l => exact hnew.trans (hstill.cons l)

theorem waits_perm {ws ws' : List Waiter} (h : ws.Perm ws') : (waits ws).Perm (waits ws') := h.map _

theorem Tidy.record (ht : s.Tidy hs) (hw : w ∈ s.waiters) {r : Registry} {asked : Asked}
    (hr : r.Settles w.ticket w.lease (s.leases hs)
      (waits (s.waiters.filter (·.ticket != w.ticket))) asked) :
    ({ s with registry := r }.record w.ticket w.lease asked).Ledger hs := by
  have hmem := ht.owned w hw
  have hnone := ht.unanswered w hw
  let told (a : Answer) : Schedule := { s with registry := r }.answered w.ticket a
  have htold (a : Answer) : (told a).Tidy hs ∧
      ((told a).leases hs).Perm (a.toOption.toList ++ s.leases hs) := by
    have htidy : Tidy { s with registry := r } hs :=
      ⟨ht.waiting, ht.owned, ht.unanswered, ht.held, ht.fresh⟩
    exact ⟨htidy.answered hmem hnone a, leases_answered htidy hmem hnone a⟩
  cases asked with
  | granted =>
    obtain ⟨htidy, hleases⟩ := htold (.ok w.lease)
    exact ⟨htidy, Registry.BacksOn.perm hr hleases.symm (.refl _)⟩
  | waits =>
    have hperm := waits_perm (Keyed.perm_cons_filter _ ht.waiting hw)
    exact ⟨⟨ht.waiting, ht.owned, ht.unanswered, ht.held, ht.fresh⟩,
      Registry.BacksOn.perm hr (.refl _) hperm.symm⟩
  | refused why =>
    obtain ⟨htidy, hleases⟩ := htold (.error why)
    exact ⟨htidy, Registry.BacksOn.perm hr hleases.symm (.refl _)⟩

theorem fst_waits (ws : List Waiter) : (waits ws).map Prod.fst = ws.map Waiter.ticket := by
  simp [waits]

theorem Ledger.split (hl : s.Ledger hs) (hw : w ∈ s.waiters) :
    s.registry.Backs (s.leases hs)
        ((w.ticket, w.lease) :: waits (s.waiters.filter (·.ticket != w.ticket))) ∧
      w.ticket ∉ (waits (s.waiters.filter (·.ticket != w.ticket))).map Prod.fst := by
  refine ⟨hl.backs.perm (.refl _) (waits_perm (Keyed.perm_cons_filter _ hl.waiting hw)), ?_⟩
  rw [fst_waits]
  exact Keyed.notMem_filter _ w.ticket

def pickUp (s : Schedule) (w : Waiter) : Schedule :=
  { s with registry := (s.registry.pickUp w.lease.pool w.ticket).2 }.record w.ticket w.lease
    (s.registry.pickUp w.lease.pool w.ticket).1

theorem pickUpAll_eq (s : Schedule) : s.pickUpAll = s.waiters.foldl pickUp s := rfl

theorem Ledger.pickUp (hl : s.Ledger hs) (hw : w ∈ s.waiters) : (s.pickUp w).Ledger hs := by
  obtain ⟨hbacks, hnew⟩ := hl.split hw
  exact hl.toTidy.record hw (hbacks.pickUp hnew)

theorem mem_waiters_pickUp {v : Waiter} (hv : v ∈ s.waiters) (hne : v.ticket ≠ w.ticket) :
    v ∈ (s.pickUp w).waiters := by
  unfold Schedule.pickUp
  cases (s.registry.pickUp w.lease.pool w.ticket).1 with
  | waits => exact hv
  | granted | refused why => exact List.mem_filter.2 ⟨hv, bne_iff_ne.2 hne⟩

theorem pickUpAll_induction {I : Schedule → Prop} (hl : s.Ledger hs) (hi : I s)
    (hstep : ∀ s w, s.Ledger hs → w ∈ s.waiters → I s → I (s.pickUp w)) :
    s.pickUpAll.Ledger hs ∧ I s.pickUpAll := by
  rw [pickUpAll_eq]
  -- Each waiter still waits when its turn comes, as the others have tickets of their own.
  have hturns (ws : List Waiter) (s : Schedule) (hl : s.Ledger hs) (hi : I s)
      (hd : (ws.map Waiter.ticket).Nodup) (hws : ∀ w ∈ ws, w ∈ s.waiters) :
      (ws.foldl Schedule.pickUp s).Ledger hs ∧ I (ws.foldl Schedule.pickUp s) := by
    induction ws generalizing s with
    | nil => exact ⟨hl, hi⟩
    | cons w ws ih =>
      rw [List.map_cons, List.nodup_cons] at hd
      have hw := hws w List.mem_cons_self
      refine ih (s.pickUp w) (hl.pickUp hw) (hstep s w hl hw hi) hd.2 fun v hv => ?_
      refine mem_waiters_pickUp (hws v (List.mem_cons_of_mem w hv)) fun heq => hd.1 ?_
      exact heq ▸ List.mem_map_of_mem hv
  exact hturns s.waiters s hl hi hl.waiting fun w hw => hw

theorem Ledger.pickUpAll (hl : s.Ledger hs) : s.pickUpAll.Ledger hs :=
  (pickUpAll_induction (I := fun _ => True) hl trivial fun _ _ _ _ _ => trivial).1

theorem Ledger.giveUp (hl : s.Ledger hs) (hw : w ∈ s.waiters) : (s.giveUp w).Ledger hs := by
  obtain ⟨hbacks, hnew⟩ := hl.split hw
  exact hl.toTidy.record hw (hbacks.giveUp hnew)

theorem Ledger.registry (hl : s.Ledger hs) {r : Registry}
    (hr : r.Backs (s.leases hs) (waits s.waiters)) : Ledger { s with registry := r } hs :=
  ⟨⟨hl.waiting, hl.owned, hl.unanswered, hl.held, hl.fresh⟩, hr⟩

theorem Ledger.look (hl : s.Ledger hs) (i : Nat) (d : Drain) : (s.look i d).Ledger hs := by
  unfold Schedule.look
  split
  · exact (hl.registry (hl.backs.close d.pool)).congr rfl rfl rfl rfl
  · exact hl.congr rfl rfl rfl rfl

theorem Ledger.dispose (hl : s.Ledger hs) (ref : PoolRef) : (s.dispose ref).Ledger hs :=
  (hl.registry (hl.backs.beginClosing ref)).congr rfl rfl rfl rfl

theorem Ledger.reload (hl : s.Ledger hs) (configs : List Config.Pool)
    (endpoints : List Endpoint) : (s.reload configs endpoints).2.Ledger hs := by
  have hinstalled := hl.registry (hl.backs.install configs endpoints)
  unfold Schedule.reload
  dsimp only
  revert hinstalled
  generalize Schedule.mk (s.registry.install configs endpoints) _ _ _ _ _ = s'
  intro hl'
  induction s.registry.refs s.registry.generation generalizing s' with
  | nil => exact hl'
  | cons ref refs ih => exact ih (s'.dispose ref) (hl'.dispose ref)

theorem mem_of_foldl {α : Type} {pick : Option α → α → Option α}
    (hpick : ∀ best a, pick best a = best ∨ pick best a = some a) {es : List α} {best : Option α}
    {e : α} (h : es.foldl pick best = some e) : best = some e ∨ e ∈ es := by
  induction es generalizing best with
  | nil => exact .inl h
  | cons a es ih =>
    rcases ih h with hbest | hmem
    · rcases hpick best a with heq | heq
      · exact .inl (heq.symm.trans hbest)
      · rw [heq] at hbest
        cases hbest
        exact .inr List.mem_cons_self
    · exact .inr (List.mem_cons_of_mem a hmem)

theorem mem_events_of_nextEvent? {e : Event} (he : s.nextEvent? = some e) : e ∈ s.events := by
  unfold nextEvent? at he
  refine (mem_of_foldl (fun best a => ?_) he).resolve_left (by simp)
  cases best with
  | none => exact .inr rfl
  | some b =>
    dsimp only
    split
    · exact .inl rfl
    · exact .inr rfl

theorem Ledger.happen (hl : s.Ledger hs) {e : Event} (he : e ∈ s.events) :
    (s.happen e).Ledger hs := by
  have hlater : Ledger { s with nowMs := max s.nowMs e.time.1 } hs := hl.congr rfl rfl rfl rfl
  unfold Schedule.happen
  cases e with
  | patienceEnds w =>
    have hw : w ∈ s.waiters := by
      rcases List.mem_append.1 he with he | he
      · obtain ⟨v, hv, heq⟩ := List.mem_map.1 he
        cases heq
        exact hv
      · obtain ⟨d, _, heq⟩ := List.mem_map.1 he
        cases heq
    exact (hlater.giveUp hw).pickUpAll
  | drainLooks i d => exact (hlater.look i d).pickUpAll

theorem Ledger.runWithFuel (hl : s.Ledger hs) (stop : Schedule → Bool) (untilMs fuel : Nat) :
    (runWithFuel stop untilMs fuel s).Ledger hs := by
  fun_induction Schedule.runWithFuel stop untilMs fuel s with
  | case1 s => exact hl
  | case2 s fuel hstop => exact hl
  | case3 s fuel hstop e he hle ih => exact ih (hl.happen (mem_events_of_nextEvent? he))
  | case4 s fuel hstop e he hle => exact hl
  | case5 s fuel hstop he => exact hl

theorem Ledger.advance (hl : s.Ledger hs) (ms : Nat) : (s.advance ms).Ledger hs := by
  have hsettled : s.settle.Ledger hs := hl.pickUpAll.runWithFuel _ _ _
  exact (hsettled.runWithFuel _ _ _).congr rfl rfl rfl rfl

/-- What one forward does with the pools while all others hold what they hold. -/
def Deals (s : Schedule) (h : Holding) (s' : Schedule) (h' : Holding) : Prop :=
  ∀ rest, s.Ledger (h :: rest) → s'.Ledger (h' :: rest)

theorem Deals.refl (s : Schedule) (h : Holding) : Deals s h s h := fun _ hl => hl

theorem Deals.trans {s'' : Schedule} {h'' : Holding} (hd : Deals s h s' h')
    (hd' : Deals s' h' s'' h'') : Deals s h s'' h'' := fun rest hl => hd' rest (hd rest hl)

theorem Ledger.nothing (hl : s.Ledger rest) : s.Ledger (.nothing :: rest) := by
  refine ⟨⟨hl.waiting, fun w hw => ?_, hl.unanswered, hl.held, fun t ht => ?_⟩, hl.backs⟩
  · exact List.mem_cons_of_mem _ (hl.owned w hw)
  · refine hl.fresh t (ht.imp_left fun hmem => ?_)
    rcases List.mem_cons.1 hmem with heq | hmem
    · cases heq
    · exact hmem

theorem Ledger.of_nothing (hl : s.Ledger (.nothing :: rest)) : s.Ledger rest := by
  refine ⟨⟨hl.waiting, fun w hw => ?_, hl.unanswered, hl.held, fun t ht => ?_⟩, hl.backs⟩
  · rcases List.mem_cons.1 (hl.owned w hw) with heq | hmem
    · cases heq
    · exact hmem
  · exact hl.fresh t (ht.imp_left fun hmem => List.mem_cons_of_mem _ hmem)

theorem Ledger.swap (hl : s.Ledger (h :: rest)) (hsame : s.leaseOf? h' = s.leaseOf? h)
    (hticket : h'.ticket? = none) (hwaits : ∀ w ∈ s.waiters, h ≠ .ticket w.ticket) :
    s.Ledger (h' :: rest) := by
  have hheld : (rest.filterMap Holding.ticket?).Sublist ((h :: rest).filterMap Holding.ticket?) :=
    (List.sublist_cons_self h rest).filterMap _
  refine ⟨⟨hl.waiting, fun w hw => ?_, hl.unanswered, ?_, fun t ht => ?_⟩, ?_⟩
  · rcases List.mem_cons.1 (hl.owned w hw) with heq | hmem
    · exact absurd heq.symm (hwaits w hw)
    · exact List.mem_cons_of_mem h' hmem
  · rw [List.filterMap_cons_none hticket]
    exact hl.held.sublist hheld
  · refine hl.fresh t (ht.imp_left fun hmem => ?_)
    rcases List.mem_cons.1 hmem with heq | hmem
    · rw [← heq] at hticket
      cases hticket
    · exact List.mem_cons_of_mem h hmem
  · have hleases : s.leases (h' :: rest) = s.leases (h :: rest) := by
      unfold leases
      rw [List.filterMap_cons, List.filterMap_cons, hsame]
    rw [hleases]
    exact hl.backs

theorem Ledger.no_waiter {a : Answer} (hl : s.Ledger hs) (ha : s.answer? t = some a) :
    ∀ w ∈ s.waiters, Holding.ticket t ≠ .ticket w.ticket := by
  intro w hw heq
  cases heq
  rw [hl.unanswered w hw] at ha
  cases ha

theorem deals_take (ha : s.answer? t = some (.ok l)) : Deals s (.ticket t) s (.lease l) := by
  intro rest hl
  refine hl.swap ?_ rfl (hl.no_waiter ha)
  simp only [leaseOf?, ha]
  rfl

theorem deals_forget {why : Refusal} (ha : s.answer? t = some (.error why)) :
    Deals s (.ticket t) s .nothing := by
  intro rest hl
  refine hl.swap ?_ rfl (hl.no_waiter ha)
  simp only [leaseOf?, ha]
  rfl

theorem deals_release (s : Schedule) (l : Lease) : Deals s (.lease l) (s.release l) .nothing := by
  intro rest hl
  have hback : Registry.Backs (s.registry.release l.pool l.endpoint) (s.leases rest)
      (waits s.waiters) := Registry.Backs.release hl.backs
  refine ⟨⟨hl.waiting, fun w hw => ?_, hl.unanswered, hl.held, fun t ht => ?_⟩, hback⟩
  · rcases List.mem_cons.1 (hl.owned w hw) with heq | hmem
    · cases heq
    · exact List.mem_cons_of_mem _ hmem
  · refine hl.fresh t (ht.imp_left fun hmem => ?_)
    rcases List.mem_cons.1 hmem with heq | hmem
    · cases heq
    · exact List.mem_cons_of_mem _ hmem

theorem deals_abandon (hw : w ∈ s.waiters) :
    Deals s (.ticket w.ticket) (s.abandon w.ticket w.lease) .nothing := by
  intro rest hl
  obtain ⟨hbacks, hnew⟩ := hl.split hw
  have hnone : s.leaseOf? (.ticket w.ticket) = none := by
    simp only [leaseOf?]
    rw [hl.unanswered w hw]
    rfl
  have hleft := hbacks.abandon hnew
  unfold leases at hleft
  rw [List.filterMap_cons_none hnone] at hleft
  let others : Schedule := { s with
    registry := s.registry.abandon w.lease.pool w.ticket w.lease.endpoint
    waiters := s.waiters.filter (·.ticket != w.ticket) }
  have hl' : others.Ledger (.ticket w.ticket :: rest) := by
    refine ⟨⟨hl.waiting.sublist (List.filter_sublist.map _), ?_, ?_, hl.held, hl.fresh⟩, ?_⟩
    · exact fun v hv => hl.owned v (List.mem_of_mem_filter hv)
    · exact fun v hv => hl.unanswered v (List.mem_of_mem_filter hv)
    · change others.registry.Backs ((_ :: rest).filterMap s.leaseOf?) _
      rw [List.filterMap_cons_none hnone]
      exact hleft
  have hleases : others.leaseOf? .nothing = others.leaseOf? (.ticket w.ticket) := hnone.symm
  refine hl'.swap hleases rfl fun v hv heq => ?_
  exact bne_iff_ne.1 (List.mem_filter.1 hv).2 (Holding.ticket.inj heq).symm

theorem deals_discard (s : Schedule) (t : Ticket) :
    Deals s (.ticket t) (s.discard t) .nothing := by
  unfold discard
  cases ha : s.answer? t with
  | some a =>
    cases a with
    | ok l => exact (deals_take ha).trans (deals_release s l)
    | error why => exact deals_forget ha
  | none =>
    cases hw : s.waiters.find? (·.ticket == t) with
    | some w =>
      have hmem := List.mem_of_find?_eq_some hw
      have hticket : w.ticket = t := by simpa using List.find?_some hw
      exact hticket ▸ deals_abandon hmem
    | none =>
      intro rest hl
      refine hl.swap ?_ rfl fun w hw' heq => ?_
      · simp only [leaseOf?, ha]
        rfl
      · cases heq
        exact Keyed.find?_eq_none_iff.1 hw (List.mem_map_of_mem hw')

theorem Ledger.fresh_tickets (hl : s.Ledger hs) : s.Fresh := by
  refine ⟨fun w hw => hl.fresh _ (.inl (hl.owned w hw)),
    fun a ha => hl.fresh _ (.inr fun hnone => ?_)⟩
  exact List.find?_eq_none.1 (Option.map_eq_none_iff.1 hnone) a ha (beq_self_eq_true a.1)

theorem Fresh.unanswered (hf : s.Fresh) : s.answer? s.nextTicket = none := by
  refine Option.map_eq_none_iff.2 (List.find?_eq_none.2 fun a ha heq => ?_)
  exact Nat.ne_of_lt (hf.answers a ha) (beq_iff_eq.1 heq)

theorem Fresh.unused (hf : s.Fresh) (w : Waiter) (hw : w ∈ s.waiters) : w.ticket ≠ s.nextTicket :=
  Nat.ne_of_lt (hf.waiters w hw)

def enqueue (s : Schedule) (w : Waiter) : Schedule :=
  { s with nextTicket := s.nextTicket + 1, waiters := s.waiters ++ [w] }

def newWaiter (s : Schedule) (ref : PoolRef) (e : Endpoint) : Waiter :=
  ⟨s.nextTicket, ⟨ref, e⟩, s.nowMs,
    ((s.registry.pool? ref).map (·.policy.borrowTimeout.millis)).getD 0⟩

theorem filter_enqueue (hfresh : ∀ w ∈ s.waiters, w.ticket ≠ s.nextTicket) (ref : PoolRef)
    (e : Endpoint) : (s.enqueue (s.newWaiter ref e)).waiters.filter (·.ticket != s.nextTicket) =
      s.waiters := by
  have hnew : s.nextTicket ∉ s.waiters.map Waiter.ticket := by
    intro hmem
    obtain ⟨w, hw, heq⟩ := List.mem_map.1 hmem
    exact hfresh w hw heq
  change (s.waiters ++ [s.newWaiter ref e]).filter _ = _
  rw [List.filter_append, Keyed.filter_of_notMem _ hnew,
    List.filter_cons_of_neg (by simp [newWaiter]), List.filter_nil, List.append_nil]

theorem ask_eq (hfresh : ∀ w ∈ s.waiters, w.ticket ≠ s.nextTicket) (ref : PoolRef) (e : Endpoint) :
    (s.ask ref e).2 = { s.enqueue (s.newWaiter ref e) with
      registry := (s.registry.ask ref s.nextTicket e).2 }.record s.nextTicket ⟨ref, e⟩
        (s.registry.ask ref s.nextTicket e).1 := by
  have hsame := filter_enqueue hfresh ref e
  have hold : s.waiters.filter (·.ticket != s.nextTicket) = s.waiters := by
    rw [List.filter_eq_self]
    exact fun w hw => bne_iff_ne.2 (hfresh w hw)
  unfold Schedule.ask
  dsimp only
  cases (s.registry.ask ref s.nextTicket e).1 with
  | waits => rfl
  | granted | refused why =>
    simp only [record]
    rw [hold, hsame]
    rfl

theorem Tidy.enqueue (ht : s.Tidy rest) (hnone : s.answer? s.nextTicket = none)
    (hw : w.ticket = s.nextTicket) : (s.enqueue w).Tidy (.ticket s.nextTicket :: rest) := by
  have hrest (t : Ticket) (hmem : .ticket t ∈ rest) : t < s.nextTicket := ht.fresh t (.inl hmem)
  refine ⟨?_, fun v hv => ?_, fun v hv => ?_, ?_, fun t hgiven => ?_⟩
  · change ((s.waiters ++ [w]).map Waiter.ticket).Nodup
    rw [List.map_append, List.nodup_append]
    refine ⟨ht.waiting, List.nodup_singleton _, fun a ha b hb hab => ?_⟩
    obtain ⟨v, hv, rfl⟩ := List.mem_map.1 ha
    have hlt := hrest _ (ht.owned v hv)
    rw [hab, List.mem_singleton.1 hb, hw] at hlt
    exact Nat.lt_irrefl _ hlt
  · rcases List.mem_append.1 hv with hv | hv
    · exact List.mem_cons_of_mem _ (ht.owned v hv)
    · rw [List.mem_singleton.1 hv, hw]
      exact List.mem_cons_self
  · rcases List.mem_append.1 hv with hv | hv
    · exact ht.unanswered v hv
    · rw [List.mem_singleton.1 hv, hw]
      exact hnone
  · rw [List.filterMap_cons_some (f := Holding.ticket?) (b := s.nextTicket) rfl, List.nodup_cons]
    refine ⟨fun hmem => ?_, ht.held⟩
    obtain ⟨h, hh, heq⟩ := List.mem_filterMap.1 hmem
    cases h with
    | nothing | lease l => cases heq
    | ticket t =>
      cases heq
      exact Nat.lt_irrefl _ (hrest _ hh)
  · change t < s.nextTicket + 1
    rcases hgiven with hmem | hanswer
    · rcases List.mem_cons.1 hmem with heq | hmem
      · cases heq
        exact Nat.lt_succ_self _
      · exact Nat.lt_succ_of_lt (hrest t hmem)
    · exact Nat.lt_succ_of_lt (ht.fresh t (.inr hanswer))

theorem leases_enqueue (hnone : s.answer? s.nextTicket = none) (w : Waiter)
    (rest : List Holding) :
    (s.enqueue w).leases (.ticket s.nextTicket :: rest) = s.leases rest := by
  have hopen : (s.enqueue w).leaseOf? (.ticket s.nextTicket) = none := by
    change (s.answer? s.nextTicket).bind _ = none
    rw [hnone]
    rfl
  unfold leases
  rw [List.filterMap_cons_none hopen]
  rfl

theorem deals_ask {p : ConnectionPool} (ref : PoolRef) (e : Endpoint)
    (hp : s.registry.pool? ref = some p) :
    Deals s .nothing (s.ask ref e).2 (.ticket s.nextTicket) := by
  intro rest hnothing
  have hl := hnothing.of_nothing
  have hfresh := hl.fresh_tickets.unused
  have hnone := hl.fresh_tickets.unanswered
  have htidy := hl.toTidy.enqueue (w := s.newWaiter ref e) hnone rfl
  rw [ask_eq hfresh]
  refine htidy.record (w := s.newWaiter ref e) (List.mem_append_right _ List.mem_cons_self) ?_
  rw [leases_enqueue hnone]
  change Registry.Settles _ _ _ _
    (waits ((s.enqueue (s.newWaiter ref e)).waiters.filter (·.ticket != s.nextTicket))) _
  rw [filter_enqueue hfresh]
  exact Registry.Backs.ask (l := ⟨ref, e⟩) hl.backs hp s.nextTicket

end

theorem ledger_start (configs : List Config.Pool) (endpoints : List Endpoint) :
    Ledger { registry := .new configs endpoints } [] where
  waiting := List.nodup_nil
  owned w hw := (List.not_mem_nil hw).elim
  unanswered w hw := (List.not_mem_nil hw).elim
  held := List.nodup_nil
  fresh t ht := by
    rcases ht with ht | ht
    · exact (List.not_mem_nil ht).elim
    · exact absurd rfl ht
  backs := Registry.backs_new configs endpoints

end Schedule
end ReverseProxy.Pool
