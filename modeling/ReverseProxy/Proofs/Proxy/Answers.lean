import ReverseProxy.Proofs.Proxy.Failing
import ReverseProxy.Proofs.Proxy.Settings

set_option autoImplicit false

namespace ReverseProxy
open Request

/-- What the proxy itself answers to a request that is not to be forwarded. -/
def Reply.direct? (pages : Pages) (m : Routing.Mapper) (c : Context) : Option Http.Response :=
  match c.decision.action with
  | .notFound => some (notFound pages m c)
  | .internalError => some (internalError pages m c)
  | .static | .acmeChallenge => some (resource pages c)
  | .redirect => some (redirect pages m c)
  | .proxy | .proxyAndCache => none

namespace Proxy

/-- The responses to a request that `s` took in, with the failures that are noted of it then. -/
inductive Answers (s : Proxy) (connection : Connection) (r : Incoming) :
    List Forward.Failure → Http.Response → Prop where
  | direct (a : Http.Response)
      (reply : Reply.direct? s.pages (s.decider connection r) (s.contextFor connection r) = some a) :
      Answers s connection r [] ((s.contextFor connection r).dressed a)
  | failure (why : Forward.Failure)
      (forwards : (s.contextFor connection r).decision.action.isProxy = true) :
      Answers s connection r [why] ((s.contextFor connection r).dressed
        (Reply.failure s.pages (s.decider connection r) (s.contextFor connection r) why.status))
  | entry (e : Cache.Entry) (a : Http.Response) (hit : s.hit? connection r = some e)
      (made : e.response? (ifModifiedSince? r.head.headers) = some a) :
      Answers s connection r [] (fromEntry (s.contextFor connection r) a)

/-- The requests of a history have numbers, and their forwards go by what was decided when they came
in. -/
structure Remembers (H : List Moment) (p : Proxy) : Prop where
  given : ∀ s connection r, (s, .event (.request connection r)) ∈ H → s.nextId < p.nextId
  decided : ∀ s connection r, (s, .event (.request connection r)) ∈ H →
    ∀ f ∈ p.forwards, f.context.id = s.nextId →
      Decided (s.decider connection r) (s.contextFor connection r) f
  pages : ∀ m ∈ H, m.1.pages = p.pages

section
variable {p s : Proxy} {H : List Moment} {f : Forward} {m : Routing.Mapper} {c c' : Context}
  {a : Http.Response} {connection : Connection} {r : Incoming}

theorem dressed_resumes (h : c.Resumes c') (a : Http.Response) : c'.dressed a = c.dressed a := by
  unfold Context.dressed
  rw [h.decision]

theorem failure_resumes (h : c.Resumes c') (pages : Pages) (m : Routing.Mapper)
    (status : Http.Status) :
    Reply.failure pages m c' status = Reply.failure pages m c status := by
  unfold Reply.failure Reply.internalError Reply.page Reply.plain Reply.confirmKeepAlive
  rw [h.head, h.decision]

theorem act_of_direct (p : Proxy) (m : Routing.Mapper) (body : Bytes)
    (h : c.decision.action.isProxy = false) :
    ∃ a, Reply.direct? p.pages m c = some a ∧ p.act m c body = p.answer c a := by
  unfold Reply.direct? act
  cases haction : c.decision.action with
  | notFound | internalError | static | acmeChallenge | redirect => exact ⟨_, rfl, rfl⟩
  | proxy | proxyAndCache =>
    rw [haction] at h
    cases h

theorem answers_receive (h : (p.receive connection r).1 = .response a) :
    ∃ failed, p.Answers connection r failed a ∧ (p.receive connection r).2.failures =
      p.failures ++ failed.map (p.nextId, ·) := by
  let m := p.decider connection r
  let c := p.contextFor connection r
  have hreceive : p.receive connection r = (p.takeIn m p.cache).act m c r.body := rfl
  have hforward (cache : Cache.Store) (mayCapture : Bool) (hproxy : c.decision.action.isProxy = true)
      (hstart : p.receive connection r = (p.takeIn m cache).startForward m c r.body mayCapture) :
      ∃ failed, p.Answers connection r failed a ∧ (p.receive connection r).2.failures =
        p.failures ++ failed.map (p.nextId, ·) := by
    rw [hstart] at h ⊢
    rcases fails_startForward (p.takeIn m cache) m c r.body mayCapture with
      ⟨why, hnoted, hanswer⟩ | hquieter
    · rw [h] at hanswer
      cases hanswer
      exact ⟨[why], .failure why hproxy, hnoted⟩
    · exact absurd h (hquieter.1 a)
  by_cases hcaches : c.decision.action = .proxyAndCache
  · obtain ⟨cache, _, ⟨_, hstart⟩ | ⟨e, he, hserve⟩⟩ := p.receive_of_caches hcaches
    · exact hforward cache true (by rw [hcaches]; rfl) hstart
    · have hquiet : (p.receive connection r).2.failures = p.failures :=
        (congrArg (·.2.failures) hserve).trans (serveEntry_frame (p.takeIn m cache) c e).1
      rw [outcome_of_hit he] at h
      cases hmade : e.response? (ifModifiedSince? r.head.headers) with
      | none =>
        rw [hmade] at h
        cases h
      | some made =>
        rw [hmade] at h
        cases h
        exact ⟨[], .entry e made he hmade, hquiet.trans (List.append_nil _).symm⟩
  · cases hproxy : c.decision.action.isProxy with
    | false =>
      obtain ⟨reply, hreply, hanswer⟩ := act_of_direct (p.takeIn m p.cache) m r.body hproxy
      rw [hreceive, hanswer] at h ⊢
      cases h
      exact ⟨[], .direct reply hreply, (List.append_nil _).symm⟩
    | true =>
      have haction : c.decision.action = .proxy := by
        cases haction : c.decision.action with
        | proxy => rfl
        | proxyAndCache => exact absurd haction hcaches
        | notFound | internalError | static | acmeChallenge | redirect =>
          rw [haction] at hproxy
          cases hproxy
      refine hforward p.cache false hproxy (hreceive.trans ?_)
      unfold act
      rw [haction]

theorem Remembers.change (h : Remembers H p) (hp : p.Held) (change : Change) :
    Remembers (H ++ [(p, change)]) (p.change change).2 where
  given s connection r hs := by
    rcases List.mem_append.1 hs with hs | hs
    · exact Nat.lt_of_lt_of_le (h.given s connection r hs) (hp.nextId_le change)
    · obtain ⟨rfl, rfl⟩ := Prod.mk.inj (List.mem_singleton.1 hs)
      rw [hp.nextId]
      exact Nat.lt_succ_self _
  decided s connection r hs g hg hgid := by
    rcases List.mem_append.1 hs with hs | hs
    · exact hp.decided_change (h.given s connection r hs) (h.decided s connection r hs) change g hg
        hgid
    · obtain ⟨rfl, rfl⟩ := Prod.mk.inj (List.mem_singleton.1 hs)
      rcases decided_receive hg with hold | hnew
      · exact absurd hgid (Nat.ne_of_lt (hp.fresh g hold))
      · exact hnew
  pages m hm := by
    obtain ⟨_, hsettings⟩ := settings_change p change
    have hsame : (p.change change).2.pages = p.pages := congrArg Settings.pages hsettings
    rw [hsame]
    rcases List.mem_append.1 hm with hm | hm
    · exact h.pages m hm
    · rw [List.mem_singleton.1 hm]

theorem remembers_after (h : Remembers H p) (hp : p.Held) (cs : List Change) :
    Remembers (H ++ p.history cs) (p.after cs) := by
  induction cs generalizing p H with
  | nil =>
    rw [history, List.append_nil]
    exact h
  | cons c cs ih =>
    have hlater := ih (h.change hp c) (hp.change c)
    rw [List.append_assoc] at hlater
    exact hlater

theorem Remembers.answers (h : Remembers H p) (hp : p.Held) {change : Change}
    (hs : (s, .event (.request connection r)) ∈ H ++ [(p, change)])
    (hsubject : subject? (p, change) = some s.nextId) (ha : (p.change change).1 = .response a) :
    ∃ failed, s.Answers connection r failed a ∧ (p.change change).2.failures =
      p.failures ++ failed.map (s.nextId, ·) := by
  cases change with
  | mapper | cache | reload | forgo | dispose => cases ha
  | event event =>
    cases event with
    | timePasses | clockSet | sweep => cases ha
    | request connection' r' =>
      have hid : p.nextId = s.nextId := Option.some.inj hsubject
      rcases List.mem_append.1 hs with hs | hs
      · exact absurd hid (Nat.ne_of_gt (h.given s connection r hs))
      · obtain ⟨rfl, heq⟩ := Prod.mk.inj (List.mem_singleton.1 hs)
        cases heq
        exact answers_receive ha
    | forward id e =>
      have hid : id = s.nextId := Option.some.inj hsubject
      have hcame : (s, .event (.request connection r)) ∈ H := by
        rcases List.mem_append.1 hs with hs | hs
        · exact hs
        · cases List.mem_singleton.1 hs
      rw [change_forward] at ha ⊢
      cases hf : p.forward? id with
      | none =>
        rw [hf] at ha
        cases ha
      | some f =>
        rw [hf] at ha
        obtain ⟨hmem, hfid⟩ := hp.forward?_iff.1 hf
        obtain ⟨hproxied, hmapper, hresumes⟩ :=
          h.decided s connection r hcame f hmem (hfid.trans hid)
        obtain ⟨why, hnoted, hanswer⟩ := fails_onForward ha
        rw [ha, hmapper, dressed_resumes hresumes, failure_resumes hresumes,
          ← h.pages _ hcame] at hanswer
        cases hanswer
        exact ⟨[why], .failure why hproxied, hfid.trans hid ▸ hnoted⟩

end

theorem remembers_new (c : Config) (mapper : Routing.Mapper) (pages : Pages) (keepsLog : Bool)
    (nowMs : Nat) (cs : List Change) :
    let start := new c mapper pages keepsLog nowMs
    Remembers (start.history cs) (start.after cs) := by
  intro start
  have hstart : Remembers [] start :=
    ⟨fun _ _ _ hs => (List.not_mem_nil hs).elim, fun _ _ _ hs => (List.not_mem_nil hs).elim,
      fun _ hm => (List.not_mem_nil hm).elim⟩
  exact remembers_after hstart (held_new c mapper pages keepsLog nowMs) cs

/-- Whatever a proxy has been through, a whole response to a request has one of the three sources. -/
theorem answers_new (c : Config) (mapper : Routing.Mapper) (pages : Pages) (keepsLog : Bool)
    (nowMs : Nat) (cs : List Change) (change : Change) :
    let start := new c mapper pages keepsLog nowMs
    let p := start.after cs
    ∀ s connection r a, (s, .event (.request connection r)) ∈ start.history (cs ++ [change]) →
      subject? (p, change) = some s.nextId → (p.change change).1 = .response a →
      ∃ failed, s.Answers connection r failed a ∧
        (p.change change).2.failures = p.failures ++ failed.map (s.nextId, ·) := by
  intro start p s connection r a hs hsubject ha
  have hp : p.Held := (held_new c mapper pages keepsLog nowMs).after cs
  have hremembers : Remembers (start.history cs) p := remembers_new c mapper pages keepsLog nowMs cs
  rw [history_append] at hs
  exact hremembers.answers hp hs hsubject ha

end Proxy
end ReverseProxy
