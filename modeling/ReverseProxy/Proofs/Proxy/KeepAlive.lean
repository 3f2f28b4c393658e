import ReverseProxy.Proofs.Cache.Conditional
import ReverseProxy.Proofs.Proxy.Answers
import ReverseProxy.Proofs.Proxy.Bare
import ReverseProxy.Proofs.Proxy.Replays
import ReverseProxy.Proofs.Request.KeepAlive
import ReverseProxy.Proofs.Routing.Mutations

set_option autoImplicit false

namespace ReverseProxy
open Request
open Http (Listed)
open Routing (Mapper Decision PageSpec Mutation changed)

namespace Routing.Mapper

def Offers (m : Mapper) (d : Decision) (spec : PageSpec) : Prop :=
  d.page = some spec ∨ m.notFoundPage d.routeId = some spec ∨
    m.internalErrorPage d.routeId = some spec

/-- The changes to a response: those of its page, if that has any, and then those of the decision. -/
inductive Configures (m : Mapper) (d : Decision) : List Mutation → Prop where
  | decision : Configures m d d.headers
  | page (spec : PageSpec) (offered : m.Offers d spec) : Configures m d (spec.headers ++ d.headers)

end Routing.Mapper

def Request.Head.confirmation (h : Head) : List Bytes :=
  if h.keepAlive && h.version.isHttp1 then [Bytes.ofText "keep-alive"] else []

def Cache.Entry.Storable (e : Entry) : Prop := ∃ headers, e.headers = storableHeaders headers

/-- But for configured changes, a `Connection` field with this confirmation was sent. -/
def Routing.Mapper.Confirms (m : Mapper) (c : Context) (sent : Http.Headers) : Prop :=
  ∃ ms, m.Configures c.decision ms ∧
    sent.getAll "connection" = changed ms "connection" c.head.confirmation

theorem Request.Head.confirmation_cases (h : Head) :
    h.confirmation = [Bytes.ofText "keep-alive"] ∧ h.version.Keeps h.heededLines ∨
      h.confirmation = [] ∧ ¬h.version.Keeps h.heededLines := by
  unfold confirmation
  by_cases hkeeps : h.version.Keeps h.heededLines
  · exact .inl ⟨if_pos (h.keepAlive_iff.2 hkeeps), hkeeps⟩
  · exact .inr ⟨if_neg (mt h.keepAlive_iff.1 hkeeps), hkeeps⟩

section
variable {e e' : Cache.Entry} {a : Http.Response}

theorem Cache.Entry.Storable.congr (h : e.Storable) (hsame : e'.unused = e.unused) :
    e'.Storable := by
  obtain ⟨headers, hheaders⟩ := h
  have hsame' : e'.headers = e.headers := congrArg (·.headers) hsame
  exact ⟨headers, hsame'.trans hheaders⟩

theorem Cache.Entry.Storable.getAll_connection (h : e.Storable)
    {since : Option Http.Date.Instant} (hmade : e.response? since = some a) :
    a.headers.getAll "connection" = [] := by
  obtain ⟨headers, hheaders⟩ := h
  unfold response? at hmade
  split at hmade
  · obtain ⟨_, _, modified, origin, _, _, hfields⟩ := notModifiedResponse?_eq_some hmade
    exact hfields "connection"
  · obtain ⟨_, _, origin, _, hfields⟩ := fullResponse?_eq_some hmade
    have hstored : a.headers.getAll "connection" = e.headers.getAll "connection" :=
      hfields "connection"
    rw [hstored, hheaders, getAll_storableHeaders]
    rfl

end

namespace Reply
variable (pages : Pages) (m : Mapper) (c : Context)

theorem getAll_connection {h : Http.Headers} (hnone : h.getAll "connection" = []) :
    (confirmKeepAlive c h).getAll "connection" = c.head.confirmation := by
  rw [getAll_confirmKeepAlive, hnone]
  unfold Head.confirmation
  simp only [true_and]

theorem getAll_plain_connection {r : Http.Response} (hnone : r.headers.getAll "connection" = []) :
    (plain c r).headers.getAll "connection" = c.head.confirmation := by
  refine getAll_connection c ?_
  rw [Http.Headers.getAll_insert, if_neg (by decide), hnone]

theorem getAll_render_connection (s : Http.Status) (resource : Option String) :
    (pages.render s resource).headers.getAll "connection" = [] := by
  have htyped (s : Http.Status) (contentType : String) (body : Bytes) :
      (Pages.withType s contentType body).headers.getAll "connection" = [] := rfl
  unfold Pages.render Pages.generic
  split
  · exact htyped _ _ _
  · split
    · exact htyped _ _ _
    · split <;> exact htyped _ _ _

theorem confirms_plain {r : Http.Response} (hnone : r.headers.getAll "connection" = []) :
    m.Confirms c (c.dressed (plain c r)).headers := by
  refine ⟨_, .decision, ?_⟩
  unfold Context.dressed
  rw [Routing.getAll_applyMutations, getAll_plain_connection c hnone]

theorem confirms_page {spec : Option PageSpec} (hspec : ∀ s ∈ spec, m.Offers c.decision s)
    (fallback : Http.Status) : m.Confirms c (c.dressed (page pages c spec fallback)).headers := by
  cases spec with
  | none => exact confirms_plain m c (getAll_render_connection pages fallback none)
  | some s =>
    refine ⟨_, .page s (hspec s rfl), ?_⟩
    have hplain := getAll_plain_connection c (getAll_render_connection pages s.status s.resource)
    unfold page Context.dressed
    rw [Routing.getAll_applyMutations, Routing.changed_append, ← hplain]
    exact congrArg _ (Routing.getAll_applyMutations _ _ _)

theorem confirms_notFound : m.Confirms c (c.dressed (notFound pages m c)).headers := by
  refine confirms_page pages m c (fun s hs => ?_) 404
  rcases Option.or_eq_some_iff.1 hs with hs | ⟨_, hs⟩
  · exact .inl hs
  · exact .inr (.inl hs)

theorem confirms_internalError : m.Confirms c (c.dressed (internalError pages m c)).headers := by
  refine confirms_page pages m c (fun s hs => ?_) 500
  rcases Option.or_eq_some_iff.1 hs with hs | ⟨_, hs⟩
  · split at hs
    · exact .inl hs
    · cases hs
  · exact .inr (.inr hs)

theorem confirms_failure (status : Http.Status) :
    m.Confirms c (c.dressed (failure pages m c status)).headers := by
  unfold failure
  split
  · exact confirms_internalError pages m c
  · exact confirms_plain m c (getAll_render_connection pages status none)

theorem confirms_redirect : m.Confirms c (c.dressed (redirect pages m c)).headers := by
  unfold redirect
  dsimp only
  split
  · exact confirms_internalError pages m c
  · exact confirms_plain m c rfl

theorem confirms_direct {a : Http.Response} (h : direct? pages m c = some a) :
    m.Confirms c (c.dressed a).headers := by
  unfold direct? at h
  cases haction : c.decision.action with
  | notFound =>
    rw [haction] at h
    cases h
    exact confirms_notFound pages m c
  | internalError =>
    rw [haction] at h
    cases h
    exact confirms_internalError pages m c
  | static | acmeChallenge =>
    rw [haction] at h
    cases h
    exact confirms_plain m c (getAll_render_connection pages 200 c.decision.resource)
  | redirect =>
    rw [haction] at h
    cases h
    exact confirms_redirect pages m c
  | proxy | proxyAndCache =>
    rw [haction] at h
    cases h

end Reply

namespace Proxy

section
variable {p s : Proxy} {H : List Moment} {id : Nat} {k : Cache.Capture} {e : Cache.Entry}
  {a : Http.Response} {connection : Connection} {r : Incoming}

theorem Recalled.storable (h : Recalled H p) (hp : p.Held) {change : Change}
    (hc : Commits id k e (p, change)) : e.Storable := by
  obtain ⟨f, _, _, status, headers, shown, ⟨_, hshows⟩, hk⟩ := h.of_commits hp hc
  obtain ⟨k₀, hopened, hhead⟩ := hshows shown rfl
  have hfinished := hc.finished
  rw [hk] at hfinished
  obtain ⟨_, hstands, _⟩ :=
    Cache.Capture.standsFor_of_finished hopened.awaits hhead hfinished
  exact ⟨_, hstands.fields⟩

theorem storable_new (c : Config) (mapper : Mapper) (pages : Pages) (keepsLog : Bool)
    (nowMs : Nat) (cs : List Change) (hothers : ∀ store, .cache store ∈ cs →
      Kept (.ofConfig c.cache) store ∧ ∀ l ∈ store.live, l.entry.Storable) :
    let p := (new c mapper pages keepsLog nowMs).after cs
    p.cache.Distinct ∧ ∀ l ∈ p.cache.live, l.entry.Storable := by
  have hstart := held_new c mapper pages keepsLog nowMs
  have hempty := kept_new c mapper pages keepsLog nowMs
  refine ⟨(hstart.kept_after hempty fun store h => (hothers store h).1).1.distinct, ?_⟩
  refine hstart.entries_after (P := fun _ _ e => e.Storable) hempty (fun _ _ _ _ h => h)
    (fun _ _ _ _ h => h.congr rfl) (fun l hl => (List.not_mem_nil hl).elim)
    (fun cs change id k e hc => ?_) fun store h => ⟨(hothers store h).1, fun _ => (hothers store h).2⟩
  exact (recalled_new c mapper pages keepsLog nowMs cs).storable (hstart.after cs) hc

theorem Answers.confirms {failed : List Forward.Failure} (h : s.Answers connection r failed a)
    (hd : s.cache.Distinct) (hlive : ∀ l ∈ s.cache.live, l.entry.Storable) :
    (s.decider connection r).Confirms (s.contextFor connection r) a.headers := by
  cases h with
  | direct a reply => exact Reply.confirms_direct _ _ _ reply
  | failure why forwards => exact Reply.confirms_failure _ _ _ why.status
  | entry e a hit made =>
    obtain ⟨l, hl, ms, rfl, _⟩ := live_of_hit hd hit
    have hstorable : { l.entry with lastAccessMs := ms }.Storable := (hlive l hl).congr rfl
    refine ⟨_, .decision, ?_⟩
    unfold fromEntry
    rw [Routing.getAll_applyMutations,
      Reply.getAll_connection _ (hstorable.getAll_connection made)]

end

/-- Whatever the proxy has been through, every whole response to a request starts out with the field
`Connection: keep-alive` if the first `Connection` line of the request keeps the connection, and
without the field otherwise; after that only configured changes are made. So where these leave the
field alone, the response has it exactly if all lines together keep the connection, unless the token
that decides is on later lines only or on a line that cannot be read. -/
theorem confirmations_of_responses (c : Config) (mapper : Mapper) (pages : Pages) (keepsLog : Bool)
    (nowMs : Nat) (cs : List Change) (change : Change) (hothers : ∀ store, .cache store ∈ cs →
      Kept (.ofConfig c.cache) store ∧ ∀ l ∈ store.live, l.entry.Storable) :
    let start := new c mapper pages keepsLog nowMs
    let p := start.after cs
    ∀ s connection r a, (s, .event (.request connection r)) ∈ start.history (cs ++ [change]) →
      subject? (p, change) = some s.nextId → (p.change change).1 = .response a →
      let version := r.head.version
      let lines := r.head.connectionLines
      let heeded := r.head.heededLines
      ∃ ms own, (s.decider connection r).Configures (s.contextFor connection r).decision ms ∧
        a.headers.getAll "connection" = changed ms "connection" own ∧
        (own = [Bytes.ofText "keep-alive"] ∧ version.Keeps heeded ∨
          own = [] ∧ ¬version.Keeps heeded) ∧
        ((own = [Bytes.ofText "keep-alive"] ↔ version.Keeps lines) ↔
          ∀ token ∈ version.decisive?, Listed lines token → Listed heeded token) ∧
        ((∀ m ∈ ms, m.field ≠ "connection") → a.headers.getAll "connection" = own) := by
  intro start p s connection r a hs hsubject ha version lines heeded
  obtain ⟨_, hanswers, _⟩ :=
    answers_new c mapper pages keepsLog nowMs cs change s connection r a hs hsubject ha
  -- The cache at the time of the request has seen a part of the changes.
  obtain ⟨before, since, hsplit, rfl⟩ := eq_after_of_history hs
  have hpart (store : Cache.Store) (hstore : .cache store ∈ before) : .cache store ∈ cs := by
    rcases List.mem_append.1 (hsplit ▸ List.mem_append_left _ hstore) with hmem | hmem
    · exact hmem
    · rw [← List.mem_singleton.1 hmem] at ha
      cases ha
  obtain ⟨hdistinct, hlive⟩ := storable_new c mapper pages keepsLog nowMs before
    fun store hstore => hothers store (hpart store hstore)
  obtain ⟨ms, hms, hvalues⟩ := hanswers.confirms hdistinct hlive
  have hown := r.head.confirmation_cases
  refine ⟨ms, r.head.confirmation, hms, hvalues, hown, ?_, fun hother => ?_⟩
  · rw [← Http.Version.keeps_iff r.head.heededLines_subset]
    have hsome : r.head.confirmation = [Bytes.ofText "keep-alive"] ↔ version.Keeps heeded := by
      rcases hown with ⟨heq, hkeeps⟩ | ⟨heq, hkeeps⟩
      · exact iff_of_true heq hkeeps
      · exact iff_of_false (by simp [heq]) hkeeps
    rw [hsome]
  · rw [hvalues]
    exact Routing.changed_of_others hother _

theorem confirmations_of_responses_hit :
    let connection : Connection := ⟨.v4 [127, 0, 0, 1] 50000, .v4 [127, 0, 0, 1] 8080, none⟩
    let lines := ["TE ,\tKeep-Alive", "trailers"]
    let headers : Http.Headers := ⟨lines.map fun line => ⟨"connection", Bytes.ofText line⟩⟩
    let r : Incoming := ⟨⟨"GET", ⟨none, none, "/page", none⟩, .http10, headers⟩, []⟩
    let mapper : Mapper := ⟨.constant (some (.proxy "site" ⟨"10.0.0.1", 80⟩ true)), [], {}⟩
    let p := (new {} mapper .empty true 0).after
      [.event (.request connection r), .event (.forward 1 (.headArrives 200 headers)),
        .event (.forward 1 (.body .complete))]
    (p.hit? connection r).isSome = true ∧
      ∃ a, (p.change (.event (.request connection r))).1 = .response a ∧
        a.headers.getAll "connection" = [Bytes.ofText "keep-alive"] := by
  intro connection lines headers r mapper p
  have hresponse : ((p.change (.event (.request connection r))).1 matches .response _) = true := by
    decide +kernel
  obtain ⟨a, ha⟩ : ∃ a, (p.change (.event (.request connection r))).1 = .response a := by
    split at hresponse
    · next a heq => exact ⟨a, heq⟩
    · cases hresponse
  have hcame : (p, .event (.request connection r)) ∈ (new {} mapper .empty true 0).history
      ([.event (.request connection r), .event (.forward 1 (.headArrives 200 headers)),
        .event (.forward 1 (.body .complete))] ++ [.event (.request connection r)]) := by
    rw [history_append]
    exact List.mem_append_right _ List.mem_cons_self
  obtain ⟨ms, own, hms, _, hown, _, hshown⟩ := confirmations_of_responses {} mapper .empty true 0
    [.event (.request connection r), .event (.forward 1 (.headArrives 200 headers)),
      .event (.forward 1 (.body .complete))]
    (.event (.request connection r)) (by simp) p connection r a hcame rfl ha
  have hnothing : ms = [] := by
    cases hms with
    | decision => decide +kernel
    | page spec offered =>
      have hnone : (p.contextFor connection r).decision.page = none ∧
          (p.decider connection r).notFoundPage "site" = none ∧
          (p.decider connection r).internalErrorPage "site" = none := by decide +kernel
      have hroute : (p.contextFor connection r).decision.routeId = "site" := by decide +kernel
      rcases offered with h | h | h <;> simp [hroute, hnone] at h
  refine ⟨by decide +kernel, a, ha, ?_⟩
  rcases hown with ⟨rfl, _⟩ | ⟨_, hlost⟩
  · exact hshown (by simp [hnothing])
  · exact absurd (by decide +kernel) hlost

/-- A client of version 1.1 closes its connection on a second line, and is told that it is kept. -/
theorem confirmed_despite_close :
    let lines := ["TE", "close"]
    let headers : Http.Headers := ⟨lines.map fun line => ⟨"connection", Bytes.ofText line⟩⟩
    let r : Incoming := ⟨⟨"GET", ⟨none, none, "/", none⟩, .http11, headers⟩, []⟩
    let start := new {} ⟨.table [], [], {}⟩ .empty true 0
    ¬r.head.version.Keeps r.head.connectionLines ∧
      (start.change (.event (.request default r))).1.headers?.map (·.getAll "connection") =
        some [Bytes.ofText "keep-alive"] := by
  decide +kernel

end Proxy
end ReverseProxy
