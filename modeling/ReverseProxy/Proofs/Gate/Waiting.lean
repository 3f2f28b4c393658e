import Mathlib.Data.List.Nodup
import ReverseProxy.Proofs.Gate.History

set_option autoImplicit false

namespace ReverseProxy.Gate
open Request

def ended? (m : Moment) : Option Nat := (m.1.move m.2).ends?.map (·.number)

/-- The moments at which the wait of a request ends. -/
def exits (H : List Moment) (number : Nat) : List Moment := H.filter (ended? · == some number)

structure Orderly (g : Gate) : Prop where
  apart : (g.waiting.map (·.number)).Nodup
  given : ∀ v ∈ g.waiting, v.number < g.nextNumber

/-- Where a request is after a history: it waits still, or one moment has ended its wait. -/
inductive Whereabouts (H : List Moment) (g : Gate) (v : Visit) : Prop where
  | waits (there : v ∈ g.waiting) (stays : exits H v.number = [])
  | gone (m : Moment) (once : exits H v.number = [m]) (how : (m.1.move m.2).ends? = some v)
      (absent : v.number ∉ g.waiting.map (·.number))

structure Tracked (H : List Moment) (g : Gate) : Prop where
  orderly : g.Orderly
  exits : ∀ m ∈ H, ∀ v, (m.1.move m.2).ends? = some v → v.number < g.nextNumber
  arrivals : ∀ m ∈ H, ∀ v ∈ m.1.newcomers m.2, v.number < g.nextNumber ∧ Whereabouts H g v

/-- Whoever holds a place is not answered yet. -/
def Settled (g : Gate) : Prop :=
  ∀ x ∈ g.inside, ∃ f, g.server.proxy.forward? x.2 = some f ∧ f.context.headersSent = false

section
variable {g : Gate} {e : Event} {v w : Visit} {number : Nat} {H : List Moment}

theorem newcomers_cases (g : Gate) (e : Event) :
    g.newcomers e = [] ∨ ∃ v, g.newcomers e = [v] ∧ v.number = g.nextNumber := by
  unfold newcomers
  split
  · exact .inr ⟨_, rfl, rfl⟩
  · exact .inl rfl

theorem number_of_newcomer (h : v ∈ g.newcomers e) : v.number = g.nextNumber := by
  rcases g.newcomers_cases e with hnobody | ⟨w, hw, hnumber⟩
  · rw [hnobody] at h
    exact (List.not_mem_nil h).elim
  · rw [hw, List.mem_singleton] at h
    rw [h, hnumber]

theorem Orderly.join (h : g.Orderly) (e : Event) : (g.join e).Orderly := by
  rcases g.newcomers_cases e with hnobody | ⟨v, hv, hnumber⟩
  · have hsame : g.join e = g := by
      unfold Gate.join
      rw [hnobody, List.append_nil]
      rfl
    rwa [hsame]
  · refine ⟨?_, fun w hw => ?_⟩
    · change ((g.waiting ++ g.newcomers e).map (·.number)).Nodup
      rw [hv, List.map_append, List.nodup_append]
      refine ⟨h.apart, List.nodup_singleton _, fun a ha b hb => ?_⟩
      obtain ⟨w, hw, rfl⟩ := List.mem_map.1 ha
      cases List.mem_singleton.1 hb
      exact (hnumber ▸ Nat.ne_of_lt (h.given w hw) : w.number ≠ v.number)
    · change w ∈ g.waiting ++ g.newcomers e at hw
      change w.number < g.nextNumber + (g.newcomers e).length
      rw [hv] at hw ⊢
      rcases List.mem_append.1 hw with hw | hw
      · exact Nat.lt_succ_of_lt (h.given w hw)
      · rw [List.mem_singleton.1 hw, hnumber]
        exact Nat.lt_succ_self _

theorem Orderly.eq_of_number (h : g.Orderly) (hv : v ∈ g.waiting) (hw : w ∈ g.waiting)
    (heq : v.number = w.number) : v = w := List.inj_on_of_nodup_map h.apart hv hw heq

theorem Orderly.frame {m : Move} {after : Gate} (h : g.Orderly) (hf : g.Frame m after) :
    after.Orderly where
  apart := by
    rw [hf.waiting]
    exact h.apart.sublist (List.filter_sublist.map _)
  given v hv := by
    rw [hf.waiting] at hv
    rw [hf.nextNumber]
    exact h.given v (List.mem_of_mem_filter hv)

theorem Orderly.step (h : g.Orderly) (e : Event) : (g.step e).2.Orderly :=
  (h.join e).frame (g.frame_step e)

theorem mem_of_unanswered? (h : g.unanswered? number = some (v, none)) : v ∈ g.waiting := by
  have hmem := List.mem_of_find?_eq_some h
  rw [List.mem_append, List.mem_map, List.mem_map] at hmem
  rcases hmem with ⟨_, _, heq⟩ | ⟨w, hw, heq⟩
  · cases heq
  · cases heq
    exact hw

theorem mem_of_ends? (h : (g.move e).ends? = some v) : v ∈ (g.join e).waiting := by
  have hmoves := g.moves_move e
  generalize g.move e = m at h hmoves
  cases hmoves with
  | comes w hcame =>
    cases h
    exact List.mem_append_right _ (hcame ▸ List.mem_singleton_self _)
  | turns pattern? w hnext =>
    cases h
    exact List.mem_append_left _ (List.mem_of_find?_eq_some hnext)
  | expires number w id? hopen | leaves number w id? hopen =>
    cases id? with
    | none =>
      cases h
      exact List.mem_append_left _ (mem_of_unanswered? hopen)
    | some id => cases h
  | passes | stays => cases h

theorem exits_concat (H : List Moment) (m : Moment) (number : Nat) :
    exits (H ++ [m]) number = exits H number ++ if ended? m = some number then [m] else [] := by
  unfold exits
  rw [List.filter_append]
  by_cases h : ended? m = some number <;> simp [h]

theorem whereabouts_of_waiting (ho : (g.join e).Orderly) (hv : v ∈ (g.join e).waiting)
    (hnone : exits H v.number = []) : Whereabouts (H ++ [(g, e)]) (g.step e).2 v := by
  have hwaiting := (g.frame_step e).waiting
  have hexits := exits_concat H (g, e) v.number
  unfold ended? at hexits
  rw [hnone, List.nil_append] at hexits
  cases hends : (g.move e).ends? with
  | none =>
    rw [hends] at hwaiting hexits
    exact .waits (hwaiting ▸ List.mem_filter.2 ⟨hv, rfl⟩) hexits
  | some w =>
    rw [hends] at hwaiting hexits
    by_cases heq : w.number = v.number
    · have hsame := ho.eq_of_number (mem_of_ends? hends) hv heq
      subst hsame
      refine .gone (g, e) ?_ hends ?_
      · rw [hexits]
        exact if_pos rfl
      · rw [hwaiting, List.mem_map]
        rintro ⟨x, hx, hnumber⟩
        simp [hnumber] at hx
    · refine .waits (hwaiting ▸ List.mem_filter.2 ⟨hv, ?_⟩) ?_
      · simpa using fun h : v.number = w.number => heq h.symm
      · rw [hexits]
        exact if_neg (by simpa using heq)

theorem Whereabouts.step (h : Whereabouts H g v) (ho : g.Orderly) (hv : v.number < g.nextNumber) :
    Whereabouts (H ++ [(g, e)]) (g.step e).2 v := by
  have hjoin := ho.join e
  cases h with
  | waits there stays => exact whereabouts_of_waiting hjoin (List.mem_append_left _ there) stays
  | gone m once how absent =>
    have hgone : v.number ∉ (g.join e).waiting.map (·.number) := by
      change v.number ∉ (g.waiting ++ g.newcomers e).map (·.number)
      rw [List.map_append, List.mem_append]
      rintro (hmem | hmem)
      · exact absent hmem
      · obtain ⟨w, hw, hnumber⟩ := List.mem_map.1 hmem
        rw [← hnumber, number_of_newcomer hw] at hv
        exact Nat.lt_irrefl _ hv
    have hother : ended? (g, e) ≠ some v.number := by
      intro hended
      obtain ⟨w, hends, hnumber⟩ := Option.map_eq_some_iff.1 hended
      exact hgone (List.mem_map.2 ⟨w, mem_of_ends? hends, hnumber⟩)
    refine .gone m ?_ how ?_
    · rw [exits_concat, if_neg hother, List.append_nil, once]
    · rw [(g.frame_step e).waiting]
      exact fun hmem => hgone ((List.filter_sublist.map _).subset hmem)

theorem nextNumber_step (g : Gate) (e : Event) : g.nextNumber ≤ (g.step e).2.nextNumber :=
  (g.frame_step e).nextNumber ▸ Nat.le_add_right _ _

theorem Tracked.exits_eq_nil (h : Tracked H g) (hv : v ∈ g.newcomers e) :
    Gate.exits H v.number = [] := by
  refine List.filter_eq_nil_iff.2 fun m hm hended => ?_
  obtain ⟨w, hends, hw⟩ := Option.map_eq_some_iff.1 (beq_iff_eq.1 hended)
  exact Nat.ne_of_lt (h.exits m hm w hends) (hw.trans (number_of_newcomer hv))

theorem Tracked.step (h : Tracked H g) (e : Event) : Tracked (H ++ [(g, e)]) (g.step e).2 := by
  have hjoin := h.orderly.join e
  have hgiven (v : Visit) (hv : v ∈ (g.join e).waiting) : v.number < (g.step e).2.nextNumber :=
    (g.frame_step e).nextNumber ▸ hjoin.given v hv
  have hmore := g.nextNumber_step e
  refine ⟨h.orderly.step e, fun m hm v hends => ?_, fun m hm v hv => ?_⟩
  · rcases List.mem_append.1 hm with hm | hm
    · exact (h.exits m hm v hends).trans_le hmore
    · cases List.mem_singleton.1 hm
      exact hgiven v (mem_of_ends? hends)
  · rcases List.mem_append.1 hm with hm | hm
    · obtain ⟨hless, hfate⟩ := h.arrivals m hm v hv
      exact ⟨hless.trans_le hmore, hfate.step h.orderly hless⟩
    · cases List.mem_singleton.1 hm
      have hthere : v ∈ (g.join e).waiting := List.mem_append_right _ hv
      exact ⟨hgiven v hthere, whereabouts_of_waiting hjoin hthere (h.exits_eq_nil hv)⟩

theorem tracked_run (h : Tracked H g) (es : List Event) :
    Tracked (H ++ g.history es) (g.run es) := by
  induction es generalizing g H with
  | nil => rwa [history, List.append_nil]
  | cons e es ih =>
    have hrest := ih (h.step e)
    rw [List.append_assoc] at hrest
    exact hrest

theorem settled_step (g : Gate) (e : Event) : (g.step e).2.Settled := by
  intro x hx
  have hopen := (List.mem_filter.1 hx).2
  obtain ⟨f, hf, hunsent⟩ := (Option.any_eq_true _ _).1 hopen
  exact ⟨f, hf, by simpa using hunsent⟩

theorem Settled.run (h : g.Settled) (es : List Event) : (g.run es).Settled := by
  induction es generalizing g with
  | nil => exact h
  | cons e es ih => exact ih (g.settled_step e)

/-- A request waits because all places are taken, or the first one that waits like it is next. -/
theorem next_of_waiting (h : v ∈ g.waiting) : ∃ w, g.next? v.pattern? = some w ∧
    (g.places ≤ g.inside.countP (·.1.pattern? == v.pattern?) ∨
      g.move (.turn v.pattern?) = .enter w) := by
  have hsome : (g.next? v.pattern?).isSome := by
    unfold next?
    rw [List.find?_isSome]
    exact ⟨v, h, beq_self_eq_true _⟩
  obtain ⟨w, hw⟩ := Option.isSome_iff_exists.1 hsome
  refine ⟨w, hw, ?_⟩
  cases hplace : g.hasPlace v.pattern? with
  | true => exact .inr (by simp [move, hw, hplace])
  | false => exact .inl (Nat.not_lt.1 (of_decide_eq_false hplace))

end
end ReverseProxy.Gate
