import ReverseProxy.Proofs.Proxy.Origins
import ReverseProxy.Proofs.Proxy.Placed

set_option autoImplicit false

namespace ReverseProxy
open Request

def Request.Context.dressed (c : Context) (r : Http.Response) : Http.Response :=
  { r with headers := Routing.applyMutations r.headers c.decision.headers }

namespace Proxy

/-- A failure of the request is noted and answered by the mapper `m`. -/
def Fails (p : Proxy) (m : Routing.Mapper) (c : Context) (x : Outcome × Proxy) : Prop :=
  ∃ why, x.2.failures = p.failures ++ [(c.id, why)] ∧
    x.1 = .response (c.dressed (Reply.failure p.pages m c why.status))

def Quieter (p : Proxy) (x : Outcome × Proxy) : Prop :=
  (∀ r, x.1 ≠ .response r) ∧ x.2.failures = p.failures

def decider (p : Proxy) (connection : Connection) (r : Incoming) : Routing.Mapper :=
  (p.decide (r.head.view connection.isSecure)).2.mapper

/-- The forward belongs to the request of `c`, which the mapper `m` decided to forward. -/
structure Decided (m : Routing.Mapper) (c : Context) (f : Forward) : Prop where
  proxied : c.decision.action.isProxy = true
  mappedBy : f.mappedBy = m
  resumes : c.Resumes f.context

section
variable {p q : Proxy} {f g : Forward} {c c' : Context} {m : Routing.Mapper} {e : Forward.Event}
  {o : Outcome} {x : Outcome × Proxy} {fate : Option Forward.Fate} {connection : Connection}
  {r : Incoming}

theorem fails_fail (p : Proxy) (m : Routing.Mapper) (c : Context) (why : Forward.Failure) :
    p.Fails m c (p.fail m c why) := ⟨why, failures_noteFailure p c.id why, rfl⟩

theorem Next.decided (h : p.Next f e o g) (hf : Decided m c f) : Decided m c g := by
  refine ⟨hf.proxied, ?_, resumes_trans hf.resumes h.resumes⟩
  cases h <;> exact hf.mappedBy

theorem fails_move (h : p.Move f e x fate) : p.Fails f.mappedBy f.context x ∨
    (∀ r, x.1 ≠ .response r) ∧ ((∀ l pump, f.stage ≠ .streaming l pump) → p.Quieter x) := by
  cases h with
  | goesOn o g pools endpointStats next =>
    have hnone : ∀ r, o ≠ .response r := by cases next <;> exact nofun
    exact .inr ⟨hnone, fun _ => ⟨hnone, rfl⟩⟩
  | fails pools why about => exact .inl (fails_fail _ f.mappedBy f.context why)
  | crashes | givesUp => exact .inr ⟨nofun, fun _ => ⟨nofun, rfl⟩⟩
  | ends l pump pe how context endpointStats stage =>
    exact .inr ⟨nofun, fun hunsent => absurd stage (hunsent l pump)⟩

theorem fails_onForward {s : Http.Response} (h : (p.onForward f e).1 = .response s) :
    p.Fails f.mappedBy f.context (p.onForward f e) := by
  rcases p.move_onForward f e with ⟨hidle, _⟩ | hmove
  · rw [hidle] at h
    cases h
  · rcases fails_move hmove with hfails | ⟨hnone, _⟩
    · exact hfails
    · exact absurd h (hnone s)

theorem Fails.same (h : q.Fails m c x) (hpages : q.pages = p.pages)
    (hfailures : q.failures = p.failures) : p.Fails m c x := by
  obtain ⟨why, hnoted, hanswer⟩ := h
  exact ⟨why, hfailures ▸ hnoted, hpages ▸ hanswer⟩

theorem startForward_cases (p : Proxy) (m : Routing.Mapper) (c : Context) (body : Bytes)
    (mayCapture : Bool) :
    (∃ q : Proxy, ∃ why, q.pages = p.pages ∧ q.failures = p.failures ∧ q.forwards = p.forwards ∧
      p.startForward m c body mayCapture = q.fail m c why) ∨
    ∃ e f fate, f.mappedBy = m ∧ f.context = c ∧ (∀ l pump, f.stage ≠ .streaming l pump) ∧
      (p.begins e).Move f .leaseAnswered (p.startForward m c body mayCapture) fate := by
  cases htarget : c.decision.target with
  | none =>
    unfold startForward
    rw [htarget]
    exact .inl ⟨p, _, rfl, rfl, rfl, rfl⟩
  | some e =>
    rw [p.startForward_eq m htarget]
    dsimp only
    split
    · exact .inl ⟨(p.begins e).endPending, _, rfl, rfl, rfl, rfl⟩
    · next outgoing _ =>
      let f : Forward := ⟨c, m, outgoing, e,
        if mayCapture then (p.begins e).beginCapture c else none,
        .waiting p.pools.nextTicket default 1⟩
      have hunsent : ∀ l pump, f.stage ≠ .streaming l pump := by simp [f]
      exact .inr ⟨e, f, _, rfl, rfl, hunsent,
        move_askForLease (p.begins e) p.pools rfl 1⟩

theorem fails_startForward (p : Proxy) (m : Routing.Mapper) (c : Context) (body : Bytes)
    (mayCapture : Bool) : p.Fails m c (p.startForward m c body mayCapture) ∨
      p.Quieter (p.startForward m c body mayCapture) := by
  rcases p.startForward_cases m c body mayCapture with
    ⟨q, why, hpages, hfailures, _, heq⟩ | ⟨e, f, fate, rfl, rfl, hunsent, hmove⟩
  · rw [heq]
    exact .inl ((fails_fail q m c why).same hpages hfailures)
  · rcases fails_move hmove with hfails | ⟨_, hquieter⟩
    · exact .inl (hfails.same rfl rfl)
    · exact .inr ⟨(hquieter hunsent).1, (hquieter hunsent).2⟩

theorem decided_startForward (p : Proxy) (m : Routing.Mapper)
    (hproxy : c.decision.action.isProxy = true) (body : Bytes) (mayCapture : Bool) :
    ∀ g ∈ (p.startForward m c body mayCapture).2.forwards, g ∈ p.forwards ∨ Decided m c g := by
  intro g hg
  rcases p.startForward_cases m c body mayCapture with
    ⟨q, why, _, _, hforwards, heq⟩ | ⟨e, f, fate, hm, hc, _, hmove⟩
  · rw [heq, forwards_fail, hforwards] at hg
    exact .inl hg
  · rcases hmove.forwards with ⟨_, g', hnext, hforwards⟩ | ⟨_, hforwards⟩ <;> rw [hforwards] at hg
    · rcases List.mem_append.1 hg with hg | hg
      · exact .inl (mem_others.1 hg).1
      · have hf : Decided m c f := ⟨hproxy, hm, hc ▸ resumes_refl _⟩
        exact .inr (List.mem_singleton.1 hg ▸ hnext.decided hf)
    · exact .inl (mem_others.1 hg).1

theorem receive_cases (p : Proxy) (connection : Connection) (r : Incoming) :
    let m := p.decider connection r
    let c := p.contextFor connection r
    (c.decision.action.isProxy = false ∧ p.receive connection r =
      (p.takeIn m p.cache).act m c r.body ∧
      ∃ s, p.receive connection r = (p.takeIn m p.cache).answer c s) ∨
    c.decision.action.isProxy = true ∧
      ((∃ cache mayCapture, p.receive connection r =
        (p.takeIn m cache).startForward m c r.body mayCapture) ∨
      ∃ cache e, p.receive connection r = (p.takeIn m cache).serveEntry c e) := by
  intro m c
  have hreceive : p.receive connection r = (p.takeIn m p.cache).act m c r.body := rfl
  by_cases hcaches : c.decision.action = .proxyAndCache
  · have hproxy : c.decision.action.isProxy = true := by rw [hcaches]; rfl
    obtain ⟨cache, _, ⟨_, hstart⟩ | ⟨e, _, hserve⟩⟩ := p.receive_of_caches hcaches
    · exact .inr ⟨hproxy, .inl ⟨cache, true, hstart⟩⟩
    · exact .inr ⟨hproxy, .inr ⟨cache, e, hserve⟩⟩
  · have hact := hreceive
    unfold act at hact
    cases haction : c.decision.action with
    | notFound | internalError | static | acmeChallenge | redirect =>
      rw [haction] at hact
      exact .inl ⟨rfl, hreceive, _, hact⟩
    | proxy =>
      rw [haction] at hact
      exact .inr ⟨rfl, .inl ⟨p.cache, false, hact⟩⟩
    | proxyAndCache => exact absurd haction hcaches

theorem serveEntry_frame (p : Proxy) (c : Context) (e : Cache.Entry) :
    (p.serveEntry c e).2.failures = p.failures ∧ (p.serveEntry c e).2.forwards = p.forwards := by
  unfold serveEntry
  dsimp only
  split <;> exact ⟨rfl, rfl⟩

theorem fails_receive {why : Forward.Failure} (h : (p.receive connection r).2.failures =
    p.failures ++ [(p.nextId, why)]) :
    (p.contextFor connection r).decision.action.isProxy = true ∧
      (p.receive connection r).1 = .response ((p.contextFor connection r).dressed
        (Reply.failure p.pages (p.decider connection r) (p.contextFor connection r)
          why.status)) := by
  have hsame : (p.receive connection r).2.failures ≠ p.failures := by
    rw [h]
    simp
  rcases p.receive_cases connection r with
    ⟨_, _, s, hanswer⟩ | ⟨hproxy, ⟨cache, mayCapture, hstart⟩ | ⟨cache, e, hserve⟩⟩
  · exact absurd (congrArg (·.2.failures) hanswer) hsame
  · refine ⟨hproxy, ?_⟩
    rw [hstart] at h hsame ⊢
    rcases fails_startForward (p.takeIn (p.decider connection r) cache) (p.decider connection r)
      (p.contextFor connection r) r.body mayCapture with ⟨why', hnoted, hanswer⟩ | hquieter
    · have hlast := List.append_cancel_left (h.symm.trans hnoted)
      cases hlast
      exact hanswer
    · exact absurd hquieter.2 hsame
  · exact absurd ((congrArg (·.2.failures) hserve).trans (serveEntry_frame _ _ e).1) hsame

theorem decided_receive (hg : g ∈ (p.receive connection r).2.forwards) :
    g ∈ p.forwards ∨ Decided (p.decider connection r) (p.contextFor connection r) g := by
  rcases p.receive_cases connection r with
    ⟨_, _, s, hanswer⟩ | ⟨hproxy, ⟨cache, mayCapture, hstart⟩ | ⟨cache, e, hserve⟩⟩
  · rw [hanswer] at hg
    exact .inl hg
  · rw [hstart] at hg
    exact decided_startForward (p.takeIn (p.decider connection r) cache) _ hproxy r.body mayCapture
      g hg
  · rw [hserve, (serveEntry_frame _ _ e).2] at hg
    exact .inl hg

theorem Held.decided_change (hp : p.Held) {id : Nat} (hid : id < p.nextId)
    (h : ∀ f ∈ p.forwards, f.context.id = id → Decided m c f) (change : Change) :
    ∀ g ∈ (p.change change).2.forwards, g.context.id = id → Decided m c g := by
  intro g hg hgid
  rcases hp.mem_forwards_change change hg with ⟨hmem, _⟩ | ⟨f, e, hmem, _, hnext⟩ |
    ⟨connection, r, f, q, _, hstarts, hnext⟩
  · exact h g hmem hgid
  · have hfid : f.context.id = id := hnext.resumes.id.symm.trans hgid
    exact hnext.decided (h f hmem hfid)
  · -- A forward that starts has a number that no request before had.
    have hnew : g.context.id = p.nextId := by rw [hnext.resumes.id, hstarts.context]; rfl
    exact absurd (hnew.symm.trans hgid) (Nat.ne_of_gt hid)

theorem Held.decided_after (hp : p.Held) {id : Nat} (hid : id < p.nextId)
    (h : ∀ f ∈ p.forwards, f.context.id = id → Decided m c f) (cs : List Change) :
    ∀ g ∈ (p.after cs).forwards, g.context.id = id → Decided m c g := by
  induction cs generalizing p with
  | nil => exact h
  | cons change cs ih =>
    exact ih (hp.change change) (Nat.lt_of_lt_of_le hid (hp.nextId_le change))
      (hp.decided_change hid h change)

theorem Held.decided_later (hp : p.Held) (cs : List Change)
    (hf : ((p.receive connection r).2.after cs).forward? p.nextId = some f) :
    Decided (p.decider connection r) (p.contextFor connection r) f := by
  have hnext : (p.receive connection r).2.nextId = p.nextId + 1 :=
    hp.nextId (.event (.request connection r))
  have hfirst : ∀ g ∈ (p.receive connection r).2.forwards, g.context.id = p.nextId →
      Decided (p.decider connection r) (p.contextFor connection r) g := by
    intro g hg hgid
    rcases decided_receive hg with hold | hnew
    · exact absurd hgid (Nat.ne_of_lt (hp.fresh g hold))
    · exact hnew
  have hreceived : (p.receive connection r).2.Held := hp.change (.event (.request connection r))
  have hid : p.nextId < (p.receive connection r).2.nextId := by omega
  obtain ⟨hmem, hfid⟩ := (hreceived.after cs).forward?_iff.1 hf
  exact hreceived.decided_after hid hfirst cs f hmem hfid

end

end Proxy
end ReverseProxy
