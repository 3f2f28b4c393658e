import ReverseProxy.Proofs.Proxy.Moves

set_option autoImplicit false

/-!
# Where forwards come from

A forward that is under way goes back to a request of the history, and once its body is on its way
also to a head that arrived and was sent on. What its pump has taken since is what the frames of the
history say, so the capture behind the pump has been shown that head and those frames.
-/
namespace ReverseProxy
open Request

def Request.Context.key (c : Context) : Cache.Key :=
  .ofRequest c.head.method c.head.uri c.head.headers c.isSecure

namespace Proxy

structure Opened (H : List Moment) (c : Context) (k : Cache.Capture) : Prop where
  key : k.key = c.key
  awaits : k.state = .awaitingHead
  enabled : ∃ m ∈ H, m.1.cache.policy.enabled = true

/-- A head arrived for a forward with the context `c` and was sent on to the client; `shown` is what
became of the capture. -/
structure Heads (H : List Moment) (c : Context) (status : Http.Status) (headers : Http.Headers)
    (shown : Option Cache.Capture) : Prop where
  arrived : ∃ u, (u, .event (.forward c.id (.headArrives status headers))) ∈ H ∧
    (u.change (.event (.forward c.id (.headArrives status headers)))).1 = .streaming status
      (Routing.applyMutations (clientHeaders shown headers.stripHopByHop) c.decision.headers)
  shows : ∀ k, shown = some k →
    ∃ k₀, Opened H c k₀ ∧ k₀.onHead? status headers.stripHopByHop = some k

/-- What a forward goes back to in a history. -/
structure Stems (H : List Moment) (f : Forward) : Prop where
  request : ∀ s connection r, (s, .event (.request connection r)) ∈ H →
    s.nextId = f.context.id → (s.contextFor connection r).Resumes f.context
  unsent : (∀ l pump, f.stage ≠ .streaming l pump) → frames f.context.id H = [] ∧
    ∀ k, f.capture = some k → Opened H f.context k
  sent : ∀ l pump, f.stage = .streaming l pump → ∃ status headers shown passed,
    Heads H f.context status headers shown ∧
      pump.Relays (shown.filter (·.isActive)) (frames f.context.id H) passed

/-- What the forwards of a proxy go back to, and that nothing is known of later ones. -/
structure Recalled (H : List Moment) (p : Proxy) : Prop where
  forwards : ∀ f ∈ p.forwards, Stems H f
  given : ∀ s connection r, (s, .event (.request connection r)) ∈ H → s.nextId < p.nextId
  unborn : ∀ id, p.nextId ≤ id → frames id H = []

section
variable {p q : Proxy} {H : List Moment} {f g : Forward} {c c' : Context} {m : Moment} {id : Nat}

theorem resumes_trans {c₁ c₂ c₃ : Context} (h : c₁.Resumes c₂) (h' : c₂.Resumes c₃) :
    c₁.Resumes c₃ :=
  ⟨h'.id.trans h.id, h'.connection.trans h.connection, h'.head.trans h.head,
    h'.decision.trans h.decision⟩

theorem key_of_resumes (h : c.Resumes c') : c'.key = c.key := by
  unfold Context.key Context.isSecure
  rw [h.head, h.connection]

theorem Next.resumes {e : Forward.Event} {o : Outcome} (h : p.Next f e o g) :
    f.context.Resumes g.context := by
  cases h with
  | waits => exact resumes_refl _
  | leased => exact ⟨rfl, rfl, rfl, rfl⟩
  | streams => exact ⟨rfl, rfl, rfl, rfl⟩
  | pumps _ l pump pe context stage event resumes => exact resumes

theorem Opened.later {k : Cache.Capture} (h : Opened H c k) (hc : c.Resumes c') (m : Moment) :
    Opened (H ++ [m]) c' k := by
  obtain ⟨m', hm', henabled⟩ := h.enabled
  exact ⟨h.key.trans (key_of_resumes hc).symm, h.awaits, m', List.mem_append_left _ hm', henabled⟩

theorem Heads.later {status : Http.Status} {headers : Http.Headers} {shown : Option Cache.Capture}
    (h : Heads H c status headers shown) (hc : c.Resumes c') (m : Moment) :
    Heads (H ++ [m]) c' status headers shown := by
  obtain ⟨⟨u, hu, hsent⟩, hshows⟩ := h
  refine ⟨⟨u, ?_, ?_⟩, fun k hk => ?_⟩
  · rw [hc.id]
    exact List.mem_append_left _ hu
  · rw [hc.id, hc.decision]
    exact hsent
  · obtain ⟨k₀, hopened, hhead⟩ := hshows k hk
    exact ⟨k₀, hopened.later hc m, hhead⟩

theorem frames_concat (id : Nat) (H : List Moment) (m : Moment) :
    frames id (H ++ [m]) = frames id H ++ frame id m := by
  simp [frames]

theorem frame_of_unsent {change : Change} (h : p.pump? id = none) : frame id (p, change) = [] := by
  unfold frame
  rw [h]

theorem Held.pump?_of_mem (hp : p.Held) (hf : f ∈ p.forwards)
    (hunsent : ∀ l pump, f.stage ≠ .streaming l pump) : p.pump? f.context.id = none := by
  rw [Option.eq_none_iff_forall_ne_some]
  rintro ⟨l, pump⟩ hpump
  obtain ⟨f', hf', hstage⟩ := pump?_eq_some_iff.1 hpump
  have hsame := hp.forward?_iff.2 ⟨hf, rfl⟩
  rw [hsame, Option.some.injEq] at hf'
  exact hunsent l pump (hf' ▸ hstage)

theorem Recalled.carries (h : Recalled H p) (hp : p.Held) {change : Change} {l : Pool.Lease}
    {pump : Forward.Pump} (hf : f ∈ p.forwards) (hstage : f.stage = .streaming l pump)
    (hg : g ∈ (p.change change).2.forwards) (hresumes : f.context.Resumes g.context) :
    ∃ pump', g.stage = .streaming l pump' ∧ ∃ status headers shown passed,
      Heads (H ++ [(p, change)]) g.context status headers shown ∧
        pump'.Relays (shown.filter (·.isActive)) (frames g.context.id (H ++ [(p, change)]))
          passed := by
  have hpump : p.pump? f.context.id = some (l, pump) :=
    pump?_eq_some_iff.2 ⟨f, hp.forward?_iff.2 ⟨hf, rfl⟩, hstage⟩
  have hfound : (p.change change).2.forward? f.context.id = some g :=
    (hp.change change).forward?_iff.2 ⟨hg, hresumes.id⟩
  rcases hp.pump?_change hpump change with hnone | hmoved
  · rw [hfound] at hnone
    cases hnone
  obtain ⟨g', hg', hstage'⟩ := pump?_eq_some_iff.1 hmoved
  rw [hfound, Option.some.injEq] at hg'
  obtain ⟨status, headers, shown, passed, hheads, hrelays⟩ := (h.forwards f hf).sent l pump hstage
  obtain ⟨passed', hrelays'⟩ := hrelays.run (pumpEvents f.context.id l (p, change))
  refine ⟨_, hg' ▸ hstage', status, headers, shown, passed', hheads.later hresumes _, ?_⟩
  rw [hresumes.id, frames_concat, frame_of_pump hpump]
  exact hrelays'

theorem Stems.request_later (h : Stems H f) (hp : p.Held) (hf : f ∈ p.forwards)
    (hresumes : f.context.Resumes g.context) {change : Change} {s : Proxy} {connection : Connection}
    {r : Incoming} (hs : (s, .event (.request connection r)) ∈ H ++ [(p, change)])
    (hid : s.nextId = g.context.id) : (s.contextFor connection r).Resumes g.context := by
  rw [hresumes.id] at hid
  rcases List.mem_append.1 hs with hs | hs
  · exact resumes_trans (h.request s connection r hs hid) hresumes
  · -- A request that comes in now has a number that no forward has.
    obtain ⟨rfl, _⟩ := Prod.mk.inj (List.mem_singleton.1 hs)
    exact absurd hid (Nat.ne_of_gt (hp.fresh f hf))

theorem Stems.unsent_later (h : Stems H f) (hp : p.Held) (hf : f ∈ p.forwards)
    (hunsent : ∀ l pump, f.stage ≠ .streaming l pump) (hresumes : f.context.Resumes g.context)
    (hcapture : g.capture = f.capture) (change : Change) :
    frames g.context.id (H ++ [(p, change)]) = [] ∧
      ∀ k, g.capture = some k → Opened (H ++ [(p, change)]) g.context k := by
  obtain ⟨hframes, hopened⟩ := h.unsent hunsent
  refine ⟨?_, fun k hk => ?_⟩
  · rw [hresumes.id, frames_concat, hframes, frame_of_unsent (hp.pump?_of_mem hf hunsent)]
    rfl
  · rw [hcapture] at hk
    exact (hopened k hk).later hresumes _

theorem Recalled.stems_left (h : Recalled H p) (hp : p.Held) {change : Change}
    (hf : f ∈ p.forwards) (hf' : f ∈ (p.change change).2.forwards) :
    Stems (H ++ [(p, change)]) f where
  request s connection r hs hid :=
    (h.forwards f hf).request_later hp hf (resumes_refl _) hs hid
  unsent hunsent := (h.forwards f hf).unsent_later hp hf hunsent (resumes_refl _) rfl change
  sent l pump hstage := by
    obtain ⟨pump', hstage', hcarried⟩ := h.carries hp hf hstage hf' (resumes_refl _)
    rw [hstage, Forward.Stage.streaming.injEq] at hstage'
    obtain ⟨_, rfl⟩ := hstage'
    exact hcarried

theorem Recalled.stems_next (h : Recalled H p) (hp : p.Held) {e : Forward.Event} {change : Change}
    (hf : f ∈ p.forwards) (hchange : change = .event (.forward f.context.id e))
    (hnext : p.Next f e (p.change change).1 g) (hg : g ∈ (p.change change).2.forwards) :
    Stems (H ++ [(p, change)]) g := by
  have hresumes := hnext.resumes
  have hstems := h.forwards f hf
  refine ⟨fun s connection r hs hid => hstems.request_later hp hf hresumes hs hid, ?_, ?_⟩
  all_goals generalize ho : (p.change change).1 = o at hnext
  · intro hunsent_later
    cases hnext with
    | waits t t' ref ref' retries retries' stage =>
      exact hstems.unsent_later hp hf (by simp [stage]) hresumes rfl change
    | leased t ref retries l now stage =>
      exact hstems.unsent_later hp hf (by simp [stage]) hresumes rfl change
    | streams | pumps => exact absurd rfl (hunsent_later _ _)
  · intro l pump hstage
    cases hnext with
    | waits | leased => cases hstage
    | streams l' status headers capture stage shown =>
      obtain ⟨rfl, rfl⟩ := Forward.Stage.streaming.inj hstage
      obtain ⟨hframes, hopened⟩ :=
        hstems.unsent_later hp hf (by simp [stage]) (resumes_refl _) rfl change
      refine ⟨status, headers, capture, [], ⟨⟨p, ?_, ?_⟩, fun k hk => ?_⟩, ?_⟩
      · rw [hchange]
        exact List.mem_append_right _ (List.mem_singleton_self _)
      · rw [hchange] at ho
        exact ho
      · subst hk
        unfold captureHead? at shown
        cases hcapture : f.capture with
        | none =>
          rw [hcapture] at shown
          cases shown
        | some k₀ =>
          rw [hcapture] at shown
          obtain ⟨k', hk', heq⟩ := Option.map_eq_some_iff.1 shown
          obtain ⟨hkey, hawaits, henabled⟩ := hopened k₀ hcapture
          exact ⟨k₀, ⟨hkey, hawaits, henabled⟩, hk'.trans heq⟩
      · change Forward.Pump.Relays _ _ (frames f.context.id _) _
        rw [hframes]
        exact Forward.Pump.relays_start _ _ _ _
    | pumps _ l' pump' pe context stage event resumes =>
      obtain ⟨pump'', hstage', hcarried⟩ := h.carries hp hf stage hg hresumes
      rw [hstage, Forward.Stage.streaming.injEq] at hstage'
      obtain ⟨_, rfl⟩ := hstage'
      exact hcarried

theorem Recalled.stems_new (h : Recalled H p) (hp : p.Held) {connection : Connection} {r : Incoming}
    (hstarts : p.Starts connection r f) {o : Outcome} (hnext : Next q f .leaseAnswered o g) :
    Stems (H ++ [(p, .event (.request connection r))]) g := by
  have hresumes : (p.contextFor connection r).Resumes g.context := hstarts.context ▸ hnext.resumes
  have hid : g.context.id = p.nextId := hresumes.id
  have hunsent : (∀ l pump, g.stage ≠ .streaming l pump) ∧ g.capture = f.capture := by
    cases hnext with
    | waits | leased => exact ⟨by simp, rfl⟩
    | pumps _ l pump pe context stage event resumes =>
      rw [hstarts.stage] at stage
      cases stage
  refine ⟨fun s connection' r' hs hs_id => ?_, fun _ => ⟨?_, fun k hk => ?_⟩,
    fun l pump hstage => absurd hstage (hunsent.1 l pump)⟩
  · rcases List.mem_append.1 hs with hs | hs
    · have hgiven := h.given s connection' r' hs
      rw [hs_id, hid] at hgiven
      exact absurd hgiven (Nat.lt_irrefl _)
    · obtain ⟨rfl, heq⟩ := Prod.mk.inj (List.mem_singleton.1 hs)
      cases heq
      exact hresumes
  · have hnone : p.pump? p.nextId = none := by
      rw [Option.eq_none_iff_forall_ne_some]
      rintro ⟨l, pump⟩ hpump
      obtain ⟨f', hf', _⟩ := pump?_eq_some_iff.1 hpump
      exact absurd (hp.given hf') (Nat.lt_irrefl _)
    rw [hid, frames_concat, h.unborn _ (Nat.le_refl _), frame_of_unsent hnone]
    rfl
  · rw [hunsent.2] at hk
    obtain ⟨hkey, hawaits, henabled⟩ := hstarts.captures hk
    refine ⟨?_, hawaits, _, List.mem_append_right _ (List.mem_singleton_self _), henabled⟩
    rw [key_of_resumes hresumes]
    exact hkey

theorem Recalled.change (h : Recalled H p) (hp : p.Held) (change : Change) :
    Recalled (H ++ [(p, change)]) (p.change change).2 where
  forwards g hg := by
    rcases hp.mem_forwards_change change hg with ⟨hmem, _⟩ | ⟨f, e, hmem, rfl, hnext⟩ |
      ⟨connection, r, f, q, rfl, hstarts, hnext⟩
    · exact h.stems_left hp hmem hg
    · exact h.stems_next hp hmem rfl hnext hg
    · exact h.stems_new hp hstarts hnext
  given s connection r hs := by
    rcases List.mem_append.1 hs with hs | hs
    · exact Nat.lt_of_lt_of_le (h.given s connection r hs) (hp.nextId_le change)
    · obtain ⟨rfl, rfl⟩ := Prod.mk.inj (List.mem_singleton.1 hs)
      rw [hp.nextId]
      exact Nat.lt_succ_self _
  unborn id hid := by
    have hold : p.nextId ≤ id := Nat.le_trans (hp.nextId_le change) hid
    have hnone : p.pump? id = none := by
      rw [Option.eq_none_iff_forall_ne_some]
      rintro ⟨l, pump⟩ hpump
      obtain ⟨f', hf', _⟩ := pump?_eq_some_iff.1 hpump
      exact absurd (hp.given hf') (Nat.not_lt.2 hold)
    rw [frames_concat, h.unborn id hold, frame_of_unsent hnone]
    rfl

theorem recalled_after (h : Recalled H p) (hp : p.Held) (cs : List Change) :
    Recalled (H ++ p.history cs) (p.after cs) := by
  induction cs generalizing p H with
  | nil =>
    rw [history, List.append_nil]
    exact h
  | cons c cs ih =>
    have hlater := ih (h.change hp c) (hp.change c)
    rw [List.append_assoc] at hlater
    exact hlater

end

theorem recalled_new (c : Config) (mapper : Routing.Mapper) (pages : Pages) (keepsLog : Bool)
    (nowMs : Nat) (cs : List Change) :
    let start := new c mapper pages keepsLog nowMs
    Recalled (start.history cs) (start.after cs) := by
  intro start
  have hstart : Recalled [] start :=
    ⟨fun _ hf => (List.not_mem_nil hf).elim, fun _ _ _ hs => (List.not_mem_nil hs).elim,
      fun _ _ => rfl⟩
  have hlater := recalled_after hstart (held_new c mapper pages keepsLog nowMs) cs
  rw [List.nil_append] at hlater
  exact hlater

end Proxy
end ReverseProxy
