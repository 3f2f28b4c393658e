import ReverseProxy.Proofs.Cache.Dates
import ReverseProxy.Proofs.Cache.History
import ReverseProxy.Proofs.Proxy.Stored

set_option autoImplicit false

namespace ReverseProxy.Proxy
open Request
open Cache (Key Store)

/-- The body of a forward comes to its end, and what its capture recorded is stored. -/
structure Commits (id : Nat) (k : Cache.Capture) (e : Cache.Entry) (m : Moment) : Prop where
  event : m.2 = .event (.forward id (.body .complete))
  records : ∃ l pump, m.1.pump? id = some (l, pump) ∧ pump.phase = .reading ∧
    pump.capture = some k
  finished : k.finished? m.1.nowMs = some e

inductive Works (p : Proxy) (change : Change) : Store → Prop where
  | leaves : p.Works change p.cache
  | looks (key : Key) : p.Works change (p.cache.lookup key p.nowMs).2
  | commits (id : Nat) (k : Cache.Capture) (e : Cache.Entry)
      (commits : Commits id k e (p, change)) : p.Works change (p.cache.commit k p.nowMs).2
  | sweeps : p.Works change (p.cache.sweep p.nowMs).2
  | replaced (store : Store) (event : change = .cache store) : p.Works change store

/-- Something is stored under the key, what is stored there is taken out, or others change it. -/
inductive Disturbs (key : Key) (m : Moment) : Prop where
  | commits (id : Nat) (k : Cache.Capture) (e : Cache.Entry) (commits : Commits id k e m)
      (key : k.key = key)
  | removes (before : m.1.cache.find? key ≠ none)
      (after : (m.1.change m.2).2.cache.find? key = none)
  | replaces (store : Store) (event : m.2 = .cache store)
      (other : store.stored? key ≠ m.1.cache.stored? key)

structure Kept (policy : Cache.Policy) (s : Store) : Prop where
  distinct : s.Distinct
  policy : s.policy = policy

section
variable {p : Proxy} {key : Key} {policy : Cache.Policy} {change : Change} {u : Cache.Entry}

theorem not_disturbs_clockSet (p : Proxy) (key : Key) (nowMs : Nat) :
    ¬Disturbs key (p, .event (.clockSet nowMs)) := by
  intro h
  cases h with
  | commits id k e commits => cases commits.event
  | removes before after => exact before after
  | replaces store event => cases event

theorem cache_receive (p : Proxy) (connection : Connection) (r : Incoming) :
    (p.receive connection r).2.cache = p.cache ∨
      ∃ key, (p.receive connection r).2.cache = (p.cache.lookup key p.nowMs).2 := by
  let p' : Proxy := { (p.decide (r.head.view connection.isSecure)).2 with nextId := p.nextId + 1 }
  have hreceive : p.receive connection r =
      p'.act p'.mapper (p.contextFor connection r) r.body := rfl
  rw [hreceive]
  unfold act
  cases (p.contextFor connection r).decision.action with
  | notFound | internalError | static | acmeChallenge | redirect => exact .inl rfl
  | proxy => exact .inl (cache_startForward p' _ _ _ _)
  | proxyAndCache =>
    dsimp only
    unfold proxyAndCache
    dsimp only
    split
    · exact .inl (cache_startForward p' _ _ _ _)
    · refine .inr ⟨.ofRequest r.head.method r.head.uri r.head.headers connection.isSecure, ?_⟩
      split
      · unfold serveEntry
        dsimp only
        split <;> rfl
      · exact cache_startForward _ _ _ _ _

theorem commits_of_pump {id : Nat} {l : Pool.Lease} {pump : Forward.Pump} {k : Cache.Capture}
    (hpump : p.pump? id = some (l, pump)) (hreading : pump.phase = .reading)
    (hk : pump.capture = some k) (hu : k.finished? p.nowMs = some u) :
    Commits id k u (p, .event (.forward id (.body .complete))) :=
  ⟨rfl, ⟨l, pump, hpump, hreading, hk⟩, hu⟩

theorem exists_commits {α : Type} {id : Nat} {f : Cache.Entry → α} {x : α}
    (h : ((p.pump? id).bind fun stream => if stream.2.phase = .reading then
      stream.2.capture.bind fun k => (k.finished? p.nowMs).map f else none) = some x) :
    ∃ k e, Commits id k e (p, .event (.forward id (.body .complete))) ∧ f e = x := by
  obtain ⟨⟨l, pump⟩, hpump, h⟩ := Option.bind_eq_some_iff.1 h
  dsimp only at h
  split at h
  · next hreading =>
    obtain ⟨k, hk, h⟩ := Option.bind_eq_some_iff.1 h
    obtain ⟨e, he, hx⟩ := Option.map_eq_some_iff.1 h
    exact ⟨k, e, commits_of_pump hpump hreading hk he, hx⟩
  · cases h

theorem works_commit {id : Nat} {l : Pool.Lease} {pump : Forward.Pump}
    (hpump : p.pump? id = some (l, pump)) (hreading : pump.phase = .reading) :
    p.Works (.event (.forward id (.body .complete))) (p.commit pump.capture).cache := by
  unfold Proxy.commit
  split
  · next k hk =>
    split
    · rcases p.cache.commit_cases k p.nowMs with ⟨_, hsame⟩ | ⟨e, he, _⟩
      · change p.Works _ (p.cache.commit k p.nowMs).2
        rw [hsame]
        exact .leaves
      · exact .commits id k e (commits_of_pump hpump hreading hk he)
    · exact .leaves
  · exact .leaves

theorem Held.works (hp : p.Held) (change : Change) : p.Works change (p.change change).2.cache := by
  have hleaves {change : Change} (h : (p.change change).2.cache = p.cache) :
      p.Works change (p.change change).2.cache := by
    rw [h]
    exact .leaves
  cases change with
  | mapper | reload | forgo | dispose => exact hleaves rfl
  | cache store => exact .replaced store rfl
  | event event =>
    cases event with
    | timePasses | clockSet => exact hleaves rfl
    | sweep => exact .sweeps
    | request connection r =>
      rcases cache_receive p connection r with h | ⟨key, h⟩
      · exact hleaves h
      · change p.Works _ (p.receive connection r).2.cache
        rw [h]
        exact .looks key
    | forward id e =>
      cases hf : p.forward? id with
      | none =>
        refine hleaves ?_
        rw [change_forward, hf]
      | some f =>
        cases hstage : f.stage with
        | waiting | sent =>
          refine hleaves ?_
          rw [change_forward, hf]
          exact cache_onForward (by simp [hstage]) e
        | streaming l pump =>
          have hpump := pump?_eq_some_iff.2 ⟨f, hf, hstage⟩
          have hcache := hp.cache_change hpump e
          by_cases hend : pump.phase = .reading ∧ e = .body .complete
          · rw [hcache, if_pos hend, hend.2]
            exact works_commit hpump hend.1
          · rw [if_neg hend] at hcache
            exact hleaves hcache

theorem Works.kept {s : Store} (h : p.Works change s) (hk : Kept policy p.cache)
    (hothers : ∀ store, change = .cache store → Kept policy store) : Kept policy s := by
  have hd := hk.distinct
  cases h with
  | leaves => exact hk
  | looks key => exact ⟨hd.lookup key p.nowMs, (p.cache.policy_lookup key p.nowMs).trans hk.policy⟩
  | commits id k e => exact ⟨hd.commit k p.nowMs, (p.cache.policy_commit k p.nowMs).trans hk.policy⟩
  | sweeps => exact ⟨hd.sweep p.nowMs, (Cache.Store.policy_sweep hd p.nowMs).trans hk.policy⟩
  | replaced _ event => exact hothers s event

theorem Works.entries {P : Key → Cache.Entry → Prop} {s : Store} (h : p.Works change s)
    (hd : p.cache.Distinct) (hused : ∀ key e ms, P key e → P key { e with lastAccessMs := ms })
    (hold : ∀ l ∈ p.cache.live, P l.key l.entry)
    (hnew : ∀ id k e, Commits id k e (p, change) → P k.key e)
    (hothers : ∀ store, change = .cache store → ∀ l ∈ store.live, P l.key l.entry) :
    ∀ l ∈ s.live, P l.key l.entry := by
  intro l hl
  cases h with
  | leaves => exact hold l hl
  | looks key =>
    obtain ⟨a, ha, rfl | rfl⟩ := Cache.Store.mem_lookup hd hl
    · exact hold l ha
    · exact hused _ _ _ (hold a ha)
  | commits id k e hc =>
    rcases Cache.Store.mem_commit hl with hl | ⟨hkey, hfinished⟩
    · exact hold l hl
    · rw [← hkey]
      rw [hc.finished, Option.some.injEq] at hfinished
      exact hfinished ▸ hnew id k e hc
  | sweeps => exact hold l (Cache.Store.mem_sweep hd hl)
  | replaced store event => exact hothers s event l hl

theorem live_of_hit {connection : Connection} {r : Incoming} {e : Cache.Entry}
    (hd : p.cache.Distinct) (hhit : p.hit? connection r = some e) :
    ∃ l ∈ p.cache.live, ∃ ms, e = { l.entry with lastAccessMs := ms } ∧
      l.key = .ofRequest r.head.method r.head.uri r.head.headers connection.isSecure := by
  unfold hit? at hhit
  split at hhit
  · obtain ⟨u, hu, _, rfl⟩ := (Store.lookup_eq_some_iff hd _ _ _).1 hhit
    obtain ⟨l, hl, rfl⟩ := Option.map_eq_some_iff.1 hu
    obtain ⟨hmem, hkey⟩ := (Store.find?_eq_some_iff hd).1 hl
    exact ⟨l, hmem, _, rfl, hkey⟩
  · cases hhit

theorem Held.stored?_change (hp : p.Held) (hd : p.cache.Distinct)
    (hu : p.cache.stored? key = some u) (hcalm : ¬Disturbs key (p, change)) :
    (p.change change).2.cache.stored? key = some u := by
  have hbefore : p.cache.find? key ≠ none := by
    intro hnone
    rw [Store.stored?, hnone] at hu
    cases hu
  have hafter : (p.change change).2.cache.find? key ≠ none := fun hnone =>
    hcalm (.removes hbefore hnone)
  obtain ⟨u', hu'⟩ : ∃ u', (p.change change).2.cache.stored? key = some u' :=
    Option.ne_none_iff_exists'.1 fun hnone => hafter (Option.map_eq_none_iff.1 hnone)
  have hworks := hp.works change
  rw [hu']
  generalize (p.change change).2.cache = s at hworks hu'
  have hsame (h : p.cache.stored? key = some u') : some u' = some u := h.symm.trans hu
  cases hworks with
  | leaves => exact hsame hu'
  | looks other => exact hsame ((Store.stored?_lookup_iff hd other key p.nowMs u').1 hu').1
  | commits id k e commits =>
    rcases (Store.stored?_commit_iff p.cache k key p.nowMs u').1 hu' with ⟨hkey, _⟩ | ⟨hold, _⟩
    · exact absurd (.commits id k e commits hkey) hcalm
    · exact hsame hold
  | sweeps => exact hsame ((Store.stored?_sweep_iff hd key p.nowMs u').1 hu').1
  | replaced _ event =>
    by_cases hother : s.stored? key = p.cache.stored? key
    · exact hsame (hother.symm.trans hu')
    · exact absurd (.replaces s event hother) hcalm

theorem Held.kept_after (hp : p.Held) (hk : Kept policy p.cache) {cs : List Change}
    (hothers : ∀ store, .cache store ∈ cs → Kept policy store) :
    Kept policy (p.after cs).cache ∧ ∀ m ∈ p.history cs, Kept policy m.1.cache := by
  induction cs generalizing p with
  | nil => exact ⟨hk, fun m hm => (List.not_mem_nil hm).elim⟩
  | cons c cs ih =>
    have hnext : Kept policy (p.change c).2.cache :=
      (hp.works c).kept hk fun store h => hothers store (h ▸ List.mem_cons_self)
    obtain ⟨hlast, hmoments⟩ := ih (hp.change c) hnext fun store h =>
      hothers store (List.mem_cons_of_mem _ h)
    refine ⟨hlast, fun m hm => ?_⟩
    rcases List.mem_cons.1 hm with rfl | hm
    · exact hk
    · exact hmoments m hm

theorem Held.stored?_after (hp : p.Held) (hk : Kept policy p.cache) {cs : List Change}
    (hothers : ∀ store, .cache store ∈ cs → Kept policy store)
    (hu : p.cache.stored? key = some u) (hcalm : ∀ m ∈ p.history cs, ¬Disturbs key m) :
    (p.after cs).cache.stored? key = some u := by
  induction cs generalizing p with
  | nil => exact hu
  | cons c cs ih =>
    have hnext : Kept policy (p.change c).2.cache :=
      (hp.works c).kept hk fun store h => hothers store (h ▸ List.mem_cons_self)
    exact ih (hp.change c) hnext (fun store h => hothers store (List.mem_cons_of_mem _ h))
      (hp.stored?_change hk.distinct hu (hcalm _ List.mem_cons_self))
      fun m hm => hcalm m (List.mem_cons_of_mem _ hm)

/-- What holds of the entries of a cache, and of all that is stored in a run, holds after the run. -/
theorem Held.entries_after (hp : p.Held) (hk : Kept policy p.cache)
    {P : List Moment → Key → Cache.Entry → Prop}
    (hlater : ∀ H m key e, P H key e → P (H ++ [m]) key e)
    (hused : ∀ H key e ms, P H key e → P H key { e with lastAccessMs := ms })
    (hstart : ∀ l ∈ p.cache.live, P [] l.key l.entry)
    (hnew : ∀ cs change id k e, Commits id k e (p.after cs, change) →
      P (p.history (cs ++ [change])) k.key e) {cs : List Change}
    (hothers : ∀ store, .cache store ∈ cs → Kept policy store ∧
      ∀ H, ∀ l ∈ store.live, P H l.key l.entry) :
    ∀ l ∈ (p.after cs).cache.live, P (p.history cs) l.key l.entry := by
  induction cs using List.reverseRecOn with
  | nil => exact hstart
  | append_singleton cs change ih =>
    have hcs (store : Store) (h : .cache store ∈ cs) := hothers store (List.mem_append_left _ h)
    have hdistinct := (hp.kept_after hk fun store h => (hcs store h).1).1.distinct
    rw [after_append]
    refine ((hp.after cs).works change).entries hdistinct (hused _) (fun l hl => ?_)
      (hnew cs change) fun store heq => ?_
    · rw [history_append]
      exact hlater _ _ _ _ (ih hcs l hl)
    · exact (hothers store (heq ▸ List.mem_append_right _ (List.mem_singleton_self _))).2 _

theorem Held.stored?_of_commits (hp : p.Held) {id : Nat} {k : Cache.Capture} {e : Cache.Entry}
    (h : Commits id k e (p, change)) :
    (p.change change).2.cache.stored? k.key = some e.unused := by
  obtain ⟨hevent, ⟨l, pump, hpump, hreading, hcapture⟩, he⟩ := h
  change change = _ at hevent
  subst hevent
  have hleaves := Cache.Capture.finished?_eq_some_iff.1 he
  have hactive : k.isActive = true := by
    obtain ⟨head, body, hstate, _⟩ := hleaves
    unfold Cache.Capture.isActive
    rw [hstate]
  have hcache : (p.commit pump.capture).cache = (p.cache.commit k p.nowMs).2 := by
    unfold Proxy.commit
    rw [hcapture]
    dsimp only
    rw [if_pos hactive]
  rw [hp.cache_change hpump, if_pos ⟨hreading, rfl⟩, hcache]
  exact (Store.stored?_commit_iff p.cache k k.key p.nowMs e.unused).2
    (.inl ⟨rfl, e, hleaves, rfl⟩)

end

end ReverseProxy.Proxy
