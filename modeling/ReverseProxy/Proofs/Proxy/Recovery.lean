import ReverseProxy.Proofs.Proxy.Signals
import ReverseProxy.Proofs.Routing.Targets

set_option autoImplicit false

namespace ReverseProxy
open Request
open Routing (Mapper Route Group)

namespace Health

/-- An endpoint was reported unreachable, at `t` or later, and has not been restored since. -/
def Shut (h : Health) (e : Endpoint) (t : Nat) : Prop :=
  ∃ r, h.record? e = some r ∧ r.state = .unhealthy ∧ t ≤ r.unhealthySinceMs

section
variable {h : Health} {e other : Endpoint} {t : Nat} {r : Record}

theorem record?_put (recoveryMs : Nat) (records : List (Endpoint × Record)) (e other : Endpoint)
    (r : Record) : record? ⟨recoveryMs, put e r records⟩ other =
      if other = e then some r else record? ⟨recoveryMs, records⟩ other := by
  unfold record?
  induction records with
  | nil =>
    by_cases heq : other = e
    · simp [put, heq]
    · have hne : ¬e = other := fun h => heq h.symm
      simp [put, heq, hne]
  | cons x records ih =>
    unfold put
    by_cases hx : x.1 = e
    · by_cases heq : other = e
      · simp [hx, heq]
      · have hne : ¬e = other := fun h => heq h.symm
        simp [hx, heq, hne]
    · by_cases hother : x.1 = other
      · have hne : ¬other = e := fun h => hx (hother.trans h)
        simp [hother, hne]
      · simpa [hx, hother] using ih

theorem recoveryMs_learn (h : Health) (r : Report) : (h.learn r).recoveryMs = h.recoveryMs := by
  cases r with
  | unreachable => rfl
  | success e =>
    change (h.reportSuccess e).recoveryMs = _
    unfold reportSuccess
    split <;> rfl

theorem recoveryMs_foldl (h : Health) (rs : List Report) :
    (rs.foldl learn h).recoveryMs = h.recoveryMs := by
  induction rs generalizing h with
  | nil => rfl
  | cons r rs ih => exact (ih (h.learn r)).trans (recoveryMs_learn h r)

theorem shut_unreachable (h : Health) (e : Endpoint) (t : Nat) (reason : String) :
    (h.learn (.unreachable e t reason)).Shut e t :=
  ⟨_, (record?_put _ _ e e _).trans (if_pos rfl), rfl, Nat.le_refl t⟩

theorem Shut.learn (hshut : h.Shut e t) {r : Report} (hsuccess : r ≠ .success e)
    (htime : ∀ atMs reason, r = .unreachable e atMs reason → t ≤ atMs) :
    (h.learn r).Shut e t := by
  obtain ⟨s, hs, hstate, ht⟩ := hshut
  cases r with
  | unreachable other atMs reason =>
    by_cases heq : e = other
    · subst heq
      exact ⟨_, (record?_put _ _ e e _).trans (if_pos rfl), rfl, htime atMs reason rfl⟩
    · exact ⟨s, (record?_put _ _ other e _).trans ((if_neg heq).trans hs), hstate, ht⟩
  | success other =>
    have hne : e ≠ other := fun heq => hsuccess (congrArg Report.success heq.symm)
    refine ⟨s, ?_, hstate, ht⟩
    change (h.reportSuccess other).record? e = some s
    unfold reportSuccess
    split
    · exact hs
    · exact (record?_put _ _ other e _).trans ((if_neg hne).trans hs)

theorem Shut.unavailable (hshut : h.Shut e t) {nowMs : Nat} (hlate : t ≤ nowMs)
    (hearly : nowMs < t + h.window) : h.isAvailable e nowMs = false := by
  obtain ⟨s, hs, hstate, ht⟩ := hshut
  have hwithin : ¬h.window ≤ nowMs - s.unhealthySinceMs := by omega
  unfold isAvailable
  rw [hs]
  simp [hstate, hwithin]

end

end Health

namespace Proxy

section
variable {p : Proxy} {e : Endpoint} {t : Nat} {start : Signals} {markStuck : Bool} {H : List Moment}

theorem atMs_of_ended? {m : Moment} {x : End} (h : ended? m = some x) : x.atMs = m.1.nowMs := by
  unfold ended? at h
  split at h
  · obtain ⟨_, _, h⟩ := Option.bind_eq_some_iff.1 h
    obtain ⟨fate, _, rfl⟩ := Option.map_eq_some_iff.1 h
    rfl
  · obtain ⟨_, _, h⟩ := Option.bind_eq_some_iff.1 h
    obtain ⟨fate, _, rfl⟩ := Option.map_eq_some_iff.1 h
    rfl
  · cases h

theorem Held.health_change (hp : p.Held) (hf : ∀ f ∈ p.forwards, f.Faithful) (c : Change) :
    (p.change c).2.health =
      ((ended? (p, c)).bind (End.report? p.markStuckUnreachable)).elim p.health p.health.learn := by
  have hsignals := congrArg Signals.health (hp.signals_change hf c)
  refine hsignals.trans ?_
  cases ended? (p, c) with
  | none => rfl
  | some x =>
    change ((x.report? p.markStuckUnreachable).toList.foldl Health.learn p.health) = _
    rw [Option.bind_some]
    cases x.report? p.markStuckUnreachable <;> rfl

theorem Held.shut_change (hp : p.Held) (hf : ∀ f ∈ p.forwards, f.Faithful) {c : Change}
    (hshut : p.health.Shut e t) (hnow : t ≤ p.nowMs)
    (hfails : ∀ x, ended? (p, c) = some x → x.endpoint = e → x.fate ≠ .complete) :
    (p.change c).2.health.Shut e t := by
  rw [hp.health_change hf]
  cases hreport : (ended? (p, c)).bind (End.report? p.markStuckUnreachable) with
  | none => exact hshut
  | some r =>
    obtain ⟨x, hx, hr⟩ := Option.bind_eq_some_iff.1 hreport
    have habout := End.endpoint_report? hr
    refine hshut.learn (fun hsuccess => ?_) fun atMs reason hunreachable => ?_
    · have hx_e : x.endpoint = e := by
        rw [← habout, hsuccess]
        rfl
      rw [hsuccess, ← hx_e] at hr
      exact hfails x hx hx_e (End.report?_success.1 hr)
    · rw [hunreachable] at hr
      have hat := End.atMs_report? hr
      rw [hat, atMs_of_ended? hx]
      exact hnow

theorem nowMs_after (cs : List Change)
    (hclock : ∀ m ∈ p.history cs, m.1.nowMs ≤ (m.1.change m.2).2.nowMs) :
    p.nowMs ≤ (p.after cs).nowMs := by
  induction cs generalizing p with
  | nil => exact Nat.le_refl _
  | cons c cs ih =>
    exact Nat.le_trans (hclock (p, c) List.mem_cons_self)
      (ih fun m hm => hclock m (List.mem_cons_of_mem _ hm))

theorem Held.shut_after (hp : p.Held) (hf : ∀ f ∈ p.forwards, f.Faithful)
    (hshut : p.health.Shut e t) (hnow : t ≤ p.nowMs) (cs : List Change)
    (hclock : ∀ m ∈ p.history cs, m.1.nowMs ≤ (m.1.change m.2).2.nowMs)
    (hfails : ∀ x ∈ ended (p.history cs), x.endpoint = e → x.fate ≠ .complete) :
    (p.after cs).health.Shut e t := by
  induction cs generalizing p with
  | nil => exact hshut
  | cons c cs ih =>
    refine ih (hp.change c) (hp.faithful_change hf c) (hp.shut_change hf hshut hnow fun x hx => ?_)
      (Nat.le_trans hnow (hclock (p, c) List.mem_cons_self)) (fun m hm => ?_) fun x hx => ?_
    · exact hfails x (List.mem_filterMap.2 ⟨(p, c), List.mem_cons_self, hx⟩)
    · exact hclock m (List.mem_cons_of_mem _ hm)
    · obtain ⟨m, hm, hend⟩ := List.mem_filterMap.1 hx
      exact hfails x (List.mem_filterMap.2 ⟨m, List.mem_cons_of_mem _ hm, hend⟩)

theorem Heard.window (h : Heard start markStuck H p) : p.health.window = start.health.window := by
  unfold Health.window
  rw [h.health, Health.recoveryMs_foldl]

theorem tabled_after (h : p.mapper.Tabled) {cs : List Change}
    (hm : ∀ m, Change.mapper m ∈ cs → m.Tabled) : (p.after cs).mapper.Tabled :=
  mapper_after (fun _ view available hm => hm.asked view available) h hm

end

/-- Under route tables, whatever is available, a request that matches a route that forwards goes to
an endpoint of the group of that route. After a forward to an endpoint failed for its connection,
and as long as the recovery time has not passed and no forward to the endpoint has come to its end,
no request goes there if another endpoint is available wherever it may go. -/
theorem targets_of_routes (c : Config) (mapper : Mapper) (pages : Pages) (keepsLog : Bool)
    (nowMs : Nat) (before since : List Change) (change : Change)
    (hrecovery : c.health.recoverySecs.toNat * 1000 < 2 ^ 64)
    (hmapper : ∃ site, Mapper.ofRoutes site = .ok mapper)
    (hmappers : ∀ m, .mapper m ∈ before ++ change :: since → ∃ site, Mapper.ofRoutes site = .ok m) :
    let s := (new c mapper pages keepsLog nowMs).after before
    let p := s.after (change :: since)
    (∀ connection (r : Incoming) route,
      p.mapper.matched? (r.head.view connection.isSecure) = some route →
        route.action.isProxy = true → ∃ g, p.mapper.groupOf? route = some g ∧
          ∃ e ∈ g.endpoints, (p.contextFor connection r).decision.target = some e) ∧
    ∀ x a reason, ended? (s, change) = some x → x.fate = .failed (.connect a reason) →
      (∀ m ∈ s.history (change :: since), m.1.nowMs ≤ (m.1.change m.2).2.nowMs) →
      (∀ y ∈ ended ((s.change change).2.history since), y.endpoint = x.endpoint →
        y.fate ≠ .complete) →
      p.nowMs < x.atMs + c.health.recoverySecs.toNat * 1000 →
      ∀ connection (r : Incoming),
        (∀ route g, p.mapper.matched? (r.head.view connection.isSecure) = some route →
          route.action.isProxy = true → p.mapper.groupOf? route = some g →
            ∃ other ∈ g.endpoints, other ≠ x.endpoint ∧
              p.health.isAvailable other p.nowMs = true) →
        (p.contextFor connection r).decision.target ≠ some x.endpoint := by
  intro s p
  let start := new c mapper pages keepsLog nowMs
  have hstart : start.Held := held_new c mapper pages keepsLog nowMs
  have hp_eq : p = start.after (before ++ change :: since) :=
    (after_append start before (change :: since)).symm
  have htabled : p.mapper.Tabled := by
    rw [hp_eq]
    obtain ⟨site, hsite⟩ := hmapper
    have hmapper : start.mapper.Tabled := Mapper.tabled_ofRoutes hsite
    refine tabled_after hmapper fun m hm => ?_
    obtain ⟨site, hsite⟩ := hmappers m hm
    exact Mapper.tabled_ofRoutes hsite
  refine ⟨fun connection r route hroute hproxy => ?_,
    fun x a reason hx hfate hclock hfails hearly connection r hother htarget => ?_⟩
  · obtain ⟨g, hg, e, he, htarget, _⟩ := htabled.target hroute hproxy fun e =>
      p.health.isAvailable e p.nowMs
    exact ⟨g, hg, e, he, htarget⟩
  have hs : s.Held := hstart.after before
  have hheard := heard_new c mapper pages keepsLog nowMs before
  have hfaithful : ∀ f ∈ s.forwards, f.Faithful := hheard.faithful
  have hwindow : p.health.window = c.health.recoverySecs.toNat * 1000 := by
    rw [hp_eq]
    refine (heard_new c mapper pages keepsLog nowMs (before ++ change :: since)).window.trans ?_
    exact Nat.mod_eq_of_lt hrecovery
  have hreport : x.report? s.markStuckUnreachable =
      some (.unreachable x.endpoint x.atMs (Forward.Failure.connect a reason).message) := by
    unfold End.report?
    rw [hfate]
    rfl
  have hshut : (s.change change).2.health.Shut x.endpoint x.atMs := by
    rw [hs.health_change hfaithful, hx, Option.bind_some, hreport]
    exact Health.shut_unreachable s.health x.endpoint x.atMs _
  have hlater : x.atMs ≤ (s.change change).2.nowMs := by
    rw [atMs_of_ended? hx]
    exact hclock (s, change) List.mem_cons_self
  have hclosed : p.health.Shut x.endpoint x.atMs :=
    (hs.change change).shut_after (hs.faithful_change hfaithful change) hshut hlater since
      (fun m hm => hclock m (List.mem_cons_of_mem _ hm)) hfails
  have hlate : x.atMs ≤ p.nowMs := by
    rw [atMs_of_ended? hx]
    exact nowMs_after (change :: since) hclock
  have hunavailable := hclosed.unavailable hlate (hwindow ▸ hearly)
  obtain ⟨route, hroute, hproxy⟩ := htabled.matched_of_target htarget
  obtain ⟨g, hg, e, he, hpicked, havailable⟩ := htabled.target hroute hproxy fun e =>
    p.health.isAvailable e p.nowMs
  obtain ⟨other, hmem, _, hgood⟩ := hother route g hroute hproxy hg
  have hsame : e = x.endpoint := Option.some.inj (hpicked.symm.trans htarget)
  have hpicks := havailable other hmem hgood
  rw [hsame, hunavailable] at hpicks
  cases hpicks

theorem targets_of_routes_refused :
    let connection : Connection := ⟨.v4 [127, 0, 0, 1] 50000, .v4 [127, 0, 0, 1] 8080, none⟩
    let r : Incoming := ⟨⟨"GET", ⟨none, none, "/page", none⟩, .http11, .empty⟩, []⟩
    let site : Config :=
      { backends := [⟨"a", "web", "10.0.0.1:80"⟩, ⟨"b", "web", "10.0.0.2:80"⟩]
        routes := [{ name := "site", action := .proxy, backendGroup := some "web" }] }
    let route : Route := ⟨"site", [], .proxy, some "web", none, none, [], none, none⟩
    let mapper : Mapper :=
      ⟨.table [route], [("web", ⟨[⟨"10.0.0.1", 80⟩, ⟨"10.0.0.2", 80⟩], 0⟩)], {}⟩
    let s := (new {} mapper .empty true 0).after [.event (.request connection r)]
    let failure := Change.event (.forward 1 (.connectFails "refused"))
    let since := [Change.event (.request connection r), .event (.clockSet 9999)]
    let p := s.after (failure :: since)
    Mapper.ofRoutes site = .ok mapper ∧ (∃ g, p.mapper.groupOf? route = some g ∧ g.turn = 2) ∧
      (p.contextFor connection r).decision.target ≠ some ⟨"10.0.0.1", 80⟩ := by
  intro connection r site route mapper s failure since p
  have hmapper : Mapper.ofRoutes site = .ok mapper := by decide +kernel
  have hmatched : p.mapper.matched? (r.head.view connection.isSecure) = some route := by
    decide +kernel
  have hgroup : p.mapper.groupOf? route =
      some ⟨[⟨"10.0.0.1", 80⟩, ⟨"10.0.0.2", 80⟩], 2⟩ := by
    decide +kernel
  obtain ⟨_, hfailure⟩ := targets_of_routes {} mapper .empty true 0
    [.event (.request connection r)] since failure (by decide) ⟨site, hmapper⟩
    (by simp [failure, since])
  have hended : ended? (s, failure) =
      some ⟨1, ⟨"10.0.0.1", 80⟩, .failed (.connect ⟨"10.0.0.1", 80⟩ "refused"), 0⟩ := by
    decide +kernel
  have hclock : ∀ m ∈ s.history (failure :: since), m.1.nowMs ≤ (m.1.change m.2).2.nowMs := by
    decide +kernel
  have hfails : ∀ y ∈ ended ((s.change failure).2.history since),
      y.endpoint = ⟨"10.0.0.1", 80⟩ → y.fate ≠ .complete := by
    decide +kernel
  have hearly : p.nowMs < 10000 := by decide +kernel
  have havailable : p.health.isAvailable ⟨"10.0.0.2", 80⟩ p.nowMs = true := by decide +kernel
  have hpasses := hfailure _ _ _ hended rfl hclock hfails hearly connection r
  refine ⟨hmapper, ⟨_, hgroup, rfl⟩, ?_⟩
  -- With its name spelled out the proxy is seen to be the one that the result speaks of.
  simp only [p, s] at hgroup hmatched havailable ⊢
  refine hpasses ?_
  intro found g hfound hproxy hg
  rw [hmatched, Option.some.injEq] at hfound
  rw [← hfound, hgroup, Option.some.injEq] at hg
  rw [← hg]
  exact ⟨⟨"10.0.0.2", 80⟩, by decide, by decide, havailable⟩

end Proxy
end ReverseProxy
