import ReverseProxy.Proofs.Proxy.Answers
import ReverseProxy.Proofs.Routing.Targets

set_option autoImplicit false

/-!
# What error pages disclose

Two requests that are forwarded may differ in the endpoints that they go to, in what the proxies
have been through, and in the failures that end them. As long as no head has been sent, the answer
depends on the failure by its status only, and on the endpoint not at all.
-/
namespace ReverseProxy
open Request

namespace Routing

/-- The same is decided, but for the endpoint. -/
def Decision.Alike (d₁ d₂ : Decision) : Prop :=
  { d₁ with target := none } = { d₂ with target := none }

namespace Mapper

/-- Two mappers decide and choose pages by the same rules, wherever their groups stand. -/
structure Agrees (m₁ m₂ : Mapper) : Prop where
  rules : m₁.rules = m₂.rules
  pages : m₁.pages = m₂.pages

section
variable {m m₁ m₂ : Mapper} {available₁ available₂ : Endpoint → Bool} {view : RequestView}
  {d₁ d₂ : Decision}

theorem agrees_map (m : Mapper) (view : RequestView) (available : Endpoint → Bool) :
    Agrees (m.map view available).2 m := by
  rcases snd_map m view available with hsame | ⟨name, htake⟩
  · rw [hsame]
    exact ⟨rfl, rfl⟩
  · rw [htake]
    rcases snd_take m name available with hsame | ⟨g, _, hset⟩
    · rw [hsame]
      exact ⟨rfl, rfl⟩
    · rw [hset]
      exact ⟨rfl, rfl⟩

theorem Agrees.internalErrorPage (h : Agrees m₁ m₂) (routeId : String) :
    m₁.internalErrorPage routeId = m₂.internalErrorPage routeId := by
  unfold Mapper.internalErrorPage route?
  rw [h.rules, h.pages]

theorem alike_decide (r : Route) (h₁ : (m₁.decide r available₁).1.action.isProxy = true)
    (h₂ : (m₂.decide r available₂).1.action.isProxy = true) :
    Decision.Alike (m₁.decide r available₁).1 (m₂.decide r available₂).1 := by
  unfold decide at h₁ h₂ ⊢
  cases haction : r.action with
  | static | redirect | notFound | internalError => rfl
  | proxy | proxyAndCache =>
    rw [haction] at h₁ h₂
    cases hgroup : r.group with
    | none => rfl
    | some name =>
      rw [hgroup] at h₁ h₂
      dsimp only at h₁ h₂ ⊢
      rcases htake₁ : m₁.take name available₁ with ⟨_ | e₁, n₁⟩ <;> rw [htake₁] at h₁
      · cases h₁
      rcases htake₂ : m₂.take name available₂ with ⟨_ | e₂, n₂⟩ <;> rw [htake₂] at h₂
      · cases h₂
      rfl

theorem Agrees.alike (h : Agrees m₁ m₂) (hd₁ : (m₁.map view available₁).1 = some d₁)
    (hd₂ : (m₂.map view available₂).1 = some d₂) (h₁ : d₁.action.isProxy = true)
    (h₂ : d₂.action.isProxy = true) : d₁.Alike d₂ := by
  unfold map at hd₁ hd₂
  rw [← h.rules] at hd₂
  cases hrules : m₁.rules with
  | constant d =>
    rw [hrules] at hd₁ hd₂
    cases hd₁.symm.trans hd₂
    rfl
  | fixed name =>
    rw [hrules] at hd₁ hd₂
    dsimp only at hd₁ hd₂
    rcases htake₁ : m₁.take name available₁ with ⟨_ | e₁, n₁⟩ <;> rw [htake₁] at hd₁ <;> cases hd₁
    rcases htake₂ : m₂.take name available₂ with ⟨_ | e₂, n₂⟩ <;> rw [htake₂] at hd₂ <;> cases hd₂
    rfl
  | table routes =>
    rw [hrules] at hd₁ hd₂
    dsimp only at hd₁ hd₂
    cases hacme : acmeResource? view.path with
    | some resource =>
      rw [hacme] at hd₁
      cases hd₁
      cases h₁
    | none =>
      rw [hacme] at hd₁ hd₂
      dsimp only at hd₁ hd₂
      cases hroute : routes.find? (·.matchesRequest view) with
      | none =>
        rw [hroute] at hd₁
        cases hd₁
        cases h₁
      | some r =>
        rw [hroute] at hd₁ hd₂
        cases hd₁
        cases hd₂
        exact alike_decide r h₁ h₂

end

end Mapper
end Routing

/-- The requests of `c₁` and `c₂`, which the mappers `m₁` and `m₂` decided about, differ for their
clients in nothing that is decided but the endpoint. -/
structure Request.Context.Alike (m₁ : Routing.Mapper) (c₁ : Context) (m₂ : Routing.Mapper)
    (c₂ : Context) : Prop where
  head : c₁.head = c₂.head
  decision : c₁.decision.Alike c₂.decision
  broken : m₁.internalErrorPage c₁.decision.routeId = m₂.internalErrorPage c₂.decision.routeId

theorem Reply.failure_alike {m₁ m₂ : Routing.Mapper} {c₁ c₂ : Context}
    (h : Context.Alike m₁ c₁ m₂ c₂) (pages : Pages) (status : Http.Status) :
    c₁.dressed (failure pages m₁ c₁ status) = c₂.dressed (failure pages m₂ c₂ status) := by
  have haction : c₁.decision.action = c₂.decision.action := congrArg (·.action) h.decision
  have hpage : c₁.decision.page = c₂.decision.page := congrArg (·.page) h.decision
  have hheaders : c₁.decision.headers = c₂.decision.headers := congrArg (·.headers) h.decision
  unfold Context.dressed failure internalError page plain confirmKeepAlive
  rw [h.head, h.broken, haction, hpage, hheaders]

namespace Proxy

/-- After the changes `cs` the last one makes a request fail that `s` took in, and no head of a
response to it has been sent. -/
structure FailsUnsent (start : Proxy) (cs : List Change) (last : Change) (s : Proxy)
    (connection : Connection) (r : Incoming) (why : Forward.Failure) : Prop where
  came : (s, .event (.request connection r)) ∈ start.history (cs ++ [last])
  subject : subject? (start.after cs, last) = some s.nextId
  unsent : (start.after cs).pump? s.nextId = none
  noted : (start.after (cs ++ [last])).failures = (start.after cs).failures ++ [(s.nextId, why)]

section
variable {p s s₁ s₂ : Proxy} {last : Change} {connection connection₁ connection₂ : Connection}
  {r r₁ r₂ : Incoming} {why : Forward.Failure}

theorem response_of_fails (hsubject : subject? (p, last) = some s.nextId)
    (hunsent : p.pump? s.nextId = none)
    (hnoted : (p.change last).2.failures = p.failures ++ [(s.nextId, why)]) :
    ∃ a, (p.change last).1 = .response a := by
  cases last with
  | mapper | cache | reload | forgo | dispose => cases hsubject
  | event event =>
    cases event with
    | timePasses | clockSet | sweep => cases hsubject
    | request connection r =>
      have hid : p.nextId = s.nextId := Option.some.inj hsubject
      exact ⟨_, (fails_receive (hid ▸ hnoted)).2⟩
    | forward id e =>
      have hid : id = s.nextId := Option.some.inj hsubject
      have hsame : (p.change (.event (.forward id e))).2.failures ≠ p.failures := by
        rw [hnoted]
        simp
      rw [change_forward] at hsame ⊢
      cases hf : p.forward? id with
      | none =>
        rw [hf] at hsame
        exact absurd rfl hsame
      | some f =>
        rw [hf] at hsame
        dsimp only at hsame ⊢
        have hstage : ∀ l pump, f.stage ≠ .streaming l pump := fun l pump hstage => by
          rw [← hid, pump?_eq_some_iff.2 ⟨f, hf, hstage⟩] at hunsent
          cases hunsent
        rcases p.move_onForward f e with ⟨hidle, _⟩ | hmove
        · rw [hidle] at hsame
          exact absurd rfl hsame
        · rcases fails_move hmove with ⟨_, _, hanswer⟩ | ⟨_, hquieter⟩
          · exact ⟨_, hanswer⟩
          · exact absurd (hquieter hstage).2 hsame

theorem FailsUnsent.answered {c : Config} {mapper : Routing.Mapper} {pages : Pages}
    {keepsLog : Bool} {nowMs : Nat} {cs : List Change}
    (h : FailsUnsent (new c mapper pages keepsLog nowMs) cs last s connection r why) :
    (((new c mapper pages keepsLog nowMs).after cs).change last).1 =
      .response ((s.contextFor connection r).dressed (Reply.failure pages
        (s.decider connection r) (s.contextFor connection r) why.status)) := by
  let start := new c mapper pages keepsLog nowMs
  have hnoted : ((start.after cs).change last).2.failures =
      (start.after cs).failures ++ [(s.nextId, why)] := by
    rw [← h.noted, after_append]
    rfl
  obtain ⟨a, ha⟩ := response_of_fails h.subject h.unsent hnoted
  obtain ⟨failed, hanswers, hfailed⟩ :=
    answers_new c mapper pages keepsLog nowMs cs last s connection r a h.came h.subject ha
  have hpages : s.pages = pages := by
    obtain ⟨before, _, _, hs⟩ := eq_after_of_history h.came
    obtain ⟨_, hsettings⟩ := settings_after start before
    dsimp only at hs
    rw [hs]
    exact congrArg Settings.pages hsettings
  have honly : failed.map (s.nextId, ·) = [(s.nextId, why)] :=
    List.append_cancel_left (hfailed.symm.trans hnoted)
  cases hanswers with
  | direct | entry => cases honly
  | failure why' =>
    cases honly
    rw [hpages] at ha
    exact ha

theorem map_of_proxied (h : (s.contextFor connection r).decision.action.isProxy = true) :
    (s.mapper.map (r.head.view connection.isSecure) fun e => s.health.isAvailable e s.nowMs).1 =
      some (s.contextFor connection r).decision := by
  have hdecision : (s.contextFor connection r).decision =
      (s.mapper.map (r.head.view connection.isSecure)
        fun e => s.health.isAvailable e s.nowMs).1.getD .noRoute := rfl
  rw [hdecision] at h ⊢
  cases hd : (s.mapper.map (r.head.view connection.isSecure)
      fun e => s.health.isAvailable e s.nowMs).1 with
  | none =>
    rw [hd] at h
    cases h
  | some d => rfl

/-- Proxies by the same rules that forward the same request forward it alike, whatever they have
been through. -/
theorem alike_of_agrees (hagrees : Routing.Mapper.Agrees s₁.mapper s₂.mapper)
    (hhead : r₁.head = r₂.head) (hsecure : connection₁.isSecure = connection₂.isSecure)
    (h₁ : (s₁.contextFor connection₁ r₁).decision.action.isProxy = true)
    (h₂ : (s₂.contextFor connection₂ r₂).decision.action.isProxy = true) :
    Context.Alike (s₁.decider connection₁ r₁) (s₁.contextFor connection₁ r₁)
      (s₂.decider connection₂ r₂) (s₂.contextFor connection₂ r₂) := by
  have hd₁ := map_of_proxied h₁
  have hd₂ := map_of_proxied h₂
  rw [← hhead, ← hsecure] at hd₂
  have hdecision := hagrees.alike hd₁ hd₂ h₁ h₂
  refine ⟨hhead, hdecision, ?_⟩
  have hbroken (s : Proxy) (connection : Connection) (r : Incoming) (routeId : String) :
      (s.decider connection r).internalErrorPage routeId = s.mapper.internalErrorPage routeId :=
    (Routing.Mapper.agrees_map s.mapper _ _).internalErrorPage routeId
  have hroute : (s₁.contextFor connection₁ r₁).decision.routeId =
      (s₂.contextFor connection₂ r₂).decision.routeId := congrArg (·.routeId) hdecision
  rw [hbroken, hbroken, hroute]
  exact hagrees.internalErrorPage _

end

/-- Let a request fail in each of two runs, before a head has been sent for it. If the same was
decided about both but for the endpoints, and the failures have the same status, the clients get the
same response, whichever the endpoints and the failures are and whatever else the runs consist
of. -/
theorem failures_disclose_nothing (c₁ c₂ : Config) (mapper₁ mapper₂ : Routing.Mapper)
    (pages : Pages) (keepsLog₁ keepsLog₂ : Bool) (nowMs₁ nowMs₂ : Nat) (cs₁ cs₂ : List Change)
    (last₁ last₂ : Change) :
    let start₁ := new c₁ mapper₁ pages keepsLog₁ nowMs₁
    let start₂ := new c₂ mapper₂ pages keepsLog₂ nowMs₂
    ∀ s₁ s₂ connection₁ connection₂ r₁ r₂ why₁ why₂,
      FailsUnsent start₁ cs₁ last₁ s₁ connection₁ r₁ why₁ →
      FailsUnsent start₂ cs₂ last₂ s₂ connection₂ r₂ why₂ →
      Context.Alike (s₁.decider connection₁ r₁) (s₁.contextFor connection₁ r₁)
        (s₂.decider connection₂ r₂) (s₂.contextFor connection₂ r₂) →
      why₁.status = why₂.status →
      ∃ a, ((start₁.after cs₁).change last₁).1 = .response a ∧
        ((start₂.after cs₂).change last₂).1 = .response a := by
  intro start₁ start₂ s₁ s₂ connection₁ connection₂ r₁ r₂ why₁ why₂ h₁ h₂ halike hstatus
  refine ⟨_, h₁.answered, ?_⟩
  rw [hstatus, Reply.failure_alike halike]
  exact h₂.answered

theorem failures_disclose_nothing_rotated :
    let a : Endpoint := ⟨"10.0.0.1", 80⟩
    let b : Endpoint := ⟨"10.0.0.2", 80⟩
    let broken : Routing.PageSpec := ⟨500, none, [.set "x-trace" []]⟩
    let mapper : Routing.Mapper :=
      ⟨.fixed "web", [("web", { endpoints := [a, b] })], { internalError := some broken }⟩
    let r : Incoming := ⟨⟨"GET", ⟨none, none, "/page", none⟩, .http11, .empty⟩, []⟩
    let start := new {} mapper .empty true 0
    let comes : Change := .event (.request default r)
    let leaves : Change := .event (.forward 1 .clientLeaves)
    let silent : Change := .event (.forward 1 .silence)
    let breaks : Change := .event (.forward 2 (.exchangeFails "reset by 10.0.0.2"))
    (start.contextFor default r).decision.target = some a ∧
      ((start.after [comes, leaves]).contextFor default r).decision.target = some b ∧
      (start.after [comes, silent]).failures = [(1, .stuck a start.stuckTimeout)] ∧
      (start.after [comes, leaves, comes, breaks]).failures =
        [(2, .exchange b "reset by 10.0.0.2")] ∧
      ∃ answer, ((start.after [comes]).change silent).1 = .response answer ∧
        ((start.after [comes, leaves, comes]).change breaks).1 = .response answer := by
  intro a b broken mapper r start comes leaves silent breaks
  have hfirst : FailsUnsent start [comes] silent start default r (.stuck a start.stuckTimeout) :=
    ⟨List.mem_cons_self, rfl, by decide +kernel, by decide +kernel⟩
  have hsecond : FailsUnsent start [comes, leaves, comes] breaks (start.after [comes, leaves])
      default r (.exchange b "reset by 10.0.0.2") :=
    ⟨List.mem_cons_of_mem _ (List.mem_cons_of_mem _ List.mem_cons_self), by decide +kernel,
      by decide +kernel, by decide +kernel⟩
  have hagrees : Routing.Mapper.Agrees start.mapper (start.after [comes, leaves]).mapper :=
    ⟨by decide +kernel, by decide +kernel⟩
  refine ⟨by decide +kernel, by decide +kernel, by decide +kernel, by decide +kernel, ?_⟩
  exact failures_disclose_nothing {} {} mapper mapper .empty true true 0 0 [comes]
    [comes, leaves, comes] silent breaks start (start.after [comes, leaves]) default default r r
    _ _ hfirst hsecond
    (alike_of_agrees hagrees rfl rfl (by decide +kernel) (by decide +kernel)) rfl

end Proxy
end ReverseProxy
