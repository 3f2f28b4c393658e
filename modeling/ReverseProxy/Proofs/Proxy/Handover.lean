import ReverseProxy.Proofs.Forward.Backends
import ReverseProxy.Proofs.Proxy.Origins

set_option autoImplicit false

namespace ReverseProxy.Proxy
open Request
open Forward (Outgoing)

/-- The request of a forward came in at a moment of the history, and is handed over to the target
that was decided on, without validators if a capture was opened for it. -/
structure Handed (H : List Moment) (f : Forward) (s : Proxy) (connection : Connection)
    (r : Incoming) : Prop where
  came : (s, .event (.request connection r)) ∈ H
  id : s.nextId = f.context.id
  target : s.startsTo? connection r = some f.endpoint
  capture : (∀ l pump, f.stage ≠ .streaming l pump) → f.capture = s.captureFor connection r
  carries : f.outgoing.Carries r f.endpoint (s.captureFor connection r).isSome

section
variable {p q : Proxy} {H : List Moment} {f g : Forward} {m : Moment} {s : Proxy}
  {connection : Connection} {r : Incoming}

theorem Next.keeps {e : Forward.Event} {o : Outcome} (h : p.Next f e o g) :
    g.outgoing = f.outgoing ∧ g.endpoint = f.endpoint ∧ g.context.id = f.context.id := by
  refine ⟨?_, ?_, h.resumes.id⟩ <;> cases h <;> rfl

theorem Next.capture {e : Forward.Event} {o : Outcome} (h : p.Next f e o g)
    (hunsent : ∀ l pump, g.stage ≠ .streaming l pump) :
    (∀ l pump, f.stage ≠ .streaming l pump) ∧ g.capture = f.capture := by
  cases h with
  | waits t t' ref ref' retries retries' stage => exact ⟨by simp [stage], rfl⟩
  | leased t ref retries l now stage => exact ⟨by simp [stage], rfl⟩
  | streams | pumps => exact absurd rfl (hunsent _ _)

theorem Handed.next {e : Forward.Event} {o : Outcome} (h : Handed H f s connection r)
    (hnext : p.Next f e o g) : Handed H g s connection r := by
  obtain ⟨houtgoing, hendpoint, hid⟩ := hnext.keeps
  obtain ⟨came, id, target, capture, carries⟩ := h
  refine ⟨came, id.trans hid.symm, ?_, fun hunsent => ?_, ?_⟩
  · rw [hendpoint]
    exact target
  · obtain ⟨hbefore, hsame⟩ := hnext.capture hunsent
    exact hsame.trans (capture hbefore)
  · rw [houtgoing, hendpoint]
    exact carries

theorem Handed.later (h : Handed H f s connection r) (m : Moment) :
    Handed (H ++ [m]) f s connection r :=
  ⟨List.mem_append_left _ h.came, h.id, h.target, h.capture, h.carries⟩

theorem Starts.handed (h : p.Starts connection r f) :
    Handed (H ++ [(p, .event (.request connection r))]) f p connection r where
  came := List.mem_append_right _ (List.mem_singleton_self _)
  id := by
    rw [h.context]
    rfl
  target := h.target
  capture _ := h.capture
  carries := h.capture ▸ Outgoing.carries_of_ofIncoming h.outgoing

theorem Held.handed_change (hp : p.Held)
    (h : ∀ f ∈ p.forwards, ∃ s connection r, Handed H f s connection r) (c : Change) :
    ∀ g ∈ (p.change c).2.forwards,
      ∃ s connection r, Handed (H ++ [(p, c)]) g s connection r := by
  intro g hg
  rcases hp.mem_forwards_change c hg with ⟨hmem, _⟩ | ⟨f, e, hmem, _, hnext⟩ |
    ⟨connection, r, f, q, rfl, hstarts, hnext⟩
  · obtain ⟨s, connection, r, hhanded⟩ := h g hmem
    exact ⟨s, connection, r, hhanded.later _⟩
  · obtain ⟨s, connection, r, hhanded⟩ := h f hmem
    exact ⟨s, connection, r, (hhanded.next hnext).later _⟩
  · exact ⟨p, connection, r, hstarts.handed.next hnext⟩

theorem Held.handed_after (hp : p.Held)
    (h : ∀ f ∈ p.forwards, ∃ s connection r, Handed H f s connection r) (cs : List Change) :
    ∀ f ∈ (p.after cs).forwards,
      ∃ s connection r, Handed (H ++ p.history cs) f s connection r := by
  induction cs generalizing p H with
  | nil =>
    rw [history, List.append_nil]
    exact h
  | cons c cs ih =>
    have hlater := ih (hp.change c) (hp.handed_change h c)
    rw [List.append_assoc] at hlater
    exact hlater

end

/-- Whatever a request, an endpoint and the decision about a capture are: if a request is made for
the endpoint, it has the method, the body, the path and query and the headers of the client, but for
the host and the validators. For a request that was read one is made exactly if the endpoint is an
authority. And in every run, what a forward has for its backend was made in this way, for the client
request that it goes back to, the target that was decided on for that, and the capture that was
opened for it. -/
theorem hands_over (c : Config) (mapper : Routing.Mapper) (pages : Pages) (keepsLog : Bool)
    (nowMs : Nat) (cs : List Change) :
    (∀ (r : Incoming) (e : Endpoint) (capturing : Bool),
      (∀ o, Outgoing.ofIncoming r e capturing = .ok o → o.Carries r e capturing) ∧
      ((∀ a, r.head.uri.authority = some a → Http.Uri.authority? a = .ok a) →
        ((∃ o, Outgoing.ofIncoming r e capturing = .ok o) ↔
          Http.Uri.IsAuthority e.text.toList))) ∧
    ∀ f ∈ ((new c mapper pages keepsLog nowMs).after cs).forwards, ∃ s connection r,
      Handed ((new c mapper pages keepsLog nowMs).history cs) f s connection r := by
  refine ⟨fun r e capturing => ⟨fun o ho => Outgoing.carries_of_ofIncoming ho,
    Outgoing.exists_ofIncoming_iff⟩, ?_⟩
  have hnone : ∀ f ∈ (new c mapper pages keepsLog nowMs).forwards, ∃ s connection r,
      Handed [] f s connection r := fun _ hf => (List.not_mem_nil hf).elim
  have hall := (held_new c mapper pages keepsLog nowMs).handed_after hnone cs
  rwa [List.nil_append] at hall

theorem hands_over_capturing :
    let connection : Connection := ⟨.v4 [127, 0, 0, 1] 50000, .v4 [127, 0, 0, 1] 8080, none⟩
    let headers : Http.Headers := ⟨[⟨"host", Bytes.ofText "site.test"⟩,
      ⟨"if-none-match", Bytes.ofText "\"v1\""⟩, ⟨"accept", Bytes.ofText "text/html"⟩]⟩
    let r : Incoming := ⟨⟨"GET", ⟨none, none, "/page", none⟩, .http11, headers⟩, []⟩
    let mapper : Routing.Mapper :=
      ⟨.constant (some (.proxy "site" ⟨"10.0.0.1", 80⟩ true)), [], {}⟩
    let p := (new {} mapper .empty true 7).after [.event (.request connection r)]
    ∃ f ∈ p.forwards, f.outgoing.Carries r f.endpoint true := by
  intro connection headers r mapper p
  obtain ⟨f, hf, _⟩ : ∃ f ∈ p.forwards, f.context.id = 1 := by decide +kernel
  obtain ⟨s, connection', r', hhanded⟩ :=
    (hands_over {} mapper .empty true 7 [.event (.request connection r)]).2 f hf
  cases List.mem_singleton.1 hhanded.came
  have hcapture : ((new {} mapper .empty true 7).captureFor connection r).isSome = true := by
    decide +kernel
  exact ⟨f, hf, hcapture ▸ hhanded.carries⟩

end ReverseProxy.Proxy
