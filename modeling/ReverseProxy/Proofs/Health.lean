import Mathlib.Data.List.Induction
import ReverseProxy.Proofs.Proxy.Recovery

set_option autoImplicit false

namespace ReverseProxy

def Report.failure? : Report → Option (Nat × String)
  | .unreachable _ atMs reason => some (atMs, reason)
  | .success _ => none

namespace Health

def about (rs : List Report) (e : Endpoint) : List Report := rs.filter (·.endpoint == e)

def failuresOf (own : List Report) : List (Nat × String) := own.filterMap Report.failure?

/-- The failure that was reported last, if no success was after it. -/
def standing? (own : List Report) : Option (Nat × String) := own.getLast?.bind Report.failure?

/-- What reports about one endpoint amount to. -/
def recordOf? (own : List Report) : Option Record :=
  (failuresOf own).getLast?.map fun last => {
    state := if (standing? own).isSome then .unhealthy else .healthy
    unhealthySinceMs := last.1
    failures := (failuresOf own).length
    reason := (standing? own).map Prod.snd }

section
variable (own : List Report) (e : Endpoint)

theorem standing?_concat (r : Report) : standing? (own ++ [r]) = r.failure? := by
  simp [standing?]

theorem failuresOf_concat (r : Report) :
    failuresOf (own ++ [r]) = failuresOf own ++ r.failure?.toList := by
  rw [failuresOf, List.filterMap_append]
  cases r <;> rfl

theorem failures_recordOf? :
    ((recordOf? own).map Record.failures).getD 0 = (failuresOf own).length := by
  rw [recordOf?]
  cases hlast : (failuresOf own).getLast? with
  | none => rw [List.getLast?_eq_none_iff.1 hlast]; rfl
  | some last => rfl

theorem state_recordOf? : ((recordOf? own).map Record.state).getD .unknown =
    if failuresOf own = [] then .unknown
    else if (standing? own).isSome then .unhealthy else .healthy := by
  rw [recordOf?]
  cases hlast : (failuresOf own).getLast? with
  | none => rw [if_pos (List.getLast?_eq_none_iff.1 hlast)]; rfl
  | some last =>
    have hne : failuresOf own ≠ [] := by
      intro hnil
      rw [hnil] at hlast
      cases hlast
    rw [if_neg hne]
    rfl

theorem getLast?_failuresOf {f : Nat × String} (h : standing? own = some f) :
    (failuresOf own).getLast? = some f := by
  rcases List.eq_nil_or_concat own with rfl | ⟨before, r, rfl⟩
  · cases h
  · rw [List.concat_eq_append] at h ⊢
    rw [standing?_concat] at h
    rw [failuresOf_concat, h]
    exact List.getLast?_concat

theorem recordOf?_of_standing {f : Nat × String} (h : standing? own = some f) :
    recordOf? own = some ⟨.unhealthy, f.1, (failuresOf own).length, some f.2⟩ := by
  rw [recordOf?, getLast?_failuresOf own h, h]
  rfl

theorem recordOf?_of_restored (h : standing? own = none) (r : Record)
    (hr : recordOf? own = some r) : r.state = .healthy ∧ r.reason = none := by
  rw [recordOf?, h] at hr
  obtain ⟨last, _, rfl⟩ := Option.map_eq_some_iff.1 hr
  exact ⟨rfl, rfl⟩

theorem recordOf?_concat_unreachable (atMs : Nat) (reason : String) :
    recordOf? (own ++ [.unreachable e atMs reason]) = some ⟨.unhealthy, atMs,
      ((recordOf? own).map Record.failures).getD 0 + 1, some reason⟩ := by
  rw [failures_recordOf?]
  simp [recordOf?, standing?_concat, failuresOf_concat, Report.failure?]

theorem recordOf?_concat_success : recordOf? (own ++ [.success e]) =
    (recordOf? own).map fun r => { r with
      state := .healthy
      reason := if r.state = .unhealthy then none else r.reason } := by
  rw [recordOf?, recordOf?, standing?_concat, failuresOf_concat, Option.map_map]
  cases hs : standing? own <;> simp [Report.failure?, Function.comp_def]

end

theorem about_concat (rs : List Report) (r : Report) (e : Endpoint) :
    about (rs ++ [r]) e = if r.endpoint = e then about rs e ++ [r] else about rs e := by
  by_cases h : r.endpoint = e <;> simp [about, h]

section
variable (h : Health) (e : Endpoint)

theorem record?_learn_unreachable (atMs : Nat) (reason : String) :
    (h.learn (.unreachable e atMs reason)).record? e = some ⟨.unhealthy, atMs,
      ((h.record? e).map Record.failures).getD 0 + 1, some reason⟩ :=
  (record?_put _ _ e e _).trans (if_pos rfl)

theorem record?_learn_success : (h.learn (.success e)).record? e =
    (h.record? e).map fun r => { r with
      state := .healthy
      reason := if r.state = .unhealthy then none else r.reason } := by
  change (h.reportSuccess e).record? e = _
  unfold reportSuccess
  cases hr : h.record? e with
  | none => exact hr
  | some r => exact (record?_put _ _ e e _).trans (if_pos rfl)

theorem record?_learn_other {r : Report} (hr : r.endpoint ≠ e) :
    (h.learn r).record? e = h.record? e := by
  have hne : e ≠ r.endpoint := fun heq => hr heq.symm
  cases r with
  | unreachable other atMs reason => exact (record?_put _ _ other e _).trans (if_neg hne)
  | success other =>
    change (h.reportSuccess other).record? e = _
    unfold reportSuccess
    cases h.record? other with
    | none => rfl
    | some _ => exact (record?_put _ _ other e _).trans (if_neg hne)

end

theorem record?_learned (recoveryMs : Nat) (rs : List Report) (e : Endpoint) :
    (rs.foldl learn (new recoveryMs)).record? e = recordOf? (about rs e) := by
  induction rs using List.reverseRecOn with
  | nil => rfl
  | append_singleton rs r ih =>
    rw [List.foldl_concat, about_concat]
    split
    · next heq =>
      subst heq
      cases r with
      | unreachable e atMs reason =>
        exact (record?_learn_unreachable _ e atMs reason).trans
          (ih ▸ (recordOf?_concat_unreachable _ e atMs reason).symm)
      | success e =>
        exact (record?_learn_success _ e).trans (ih ▸ (recordOf?_concat_success _ e).symm)
    · next hne => exact (record?_learn_other _ e hne).trans ih

/-- After any reports at all: an endpoint of which no failure was reported is unknown; else it is
unhealthy if the last report about it is a failure, whose reason is kept, and healthy, without a
reason, if it is a success. All its failures are counted, the last one starts the window for which
it is left out while it is unhealthy, and reports about other endpoints change nothing of this. -/
theorem health_of_reports (recoveryMs : Nat) (rs : List Report) (e : Endpoint) :
    let h := rs.foldl learn (new recoveryMs)
    let own := rs.filter (·.endpoint == e)
    let failed := own.filterMap Report.failure?
    let standing := own.getLast?.bind Report.failure?
    h.state e = (if failed = [] then .unknown
      else if standing.isSome then .unhealthy else .healthy) ∧
    h.failures e = failed.length ∧
    h.reason e = standing.map Prod.snd ∧
    (h.record? e).map Record.unhealthySinceMs = failed.getLast?.map Prod.fst ∧
    (∀ nowMs, h.isAvailable e nowMs = standing.all fun last => h.window ≤ nowMs - last.1) ∧
    ∀ r : Report, r.endpoint ≠ e → (h.learn r).state e = h.state e ∧
      (h.learn r).failures e = h.failures e ∧ (h.learn r).reason e = h.reason e ∧
      (h.learn r).record? e = h.record? e ∧
      ∀ nowMs, (h.learn r).isAvailable e nowMs = h.isAvailable e nowMs := by
  intro h own failed standing
  have hrecord : h.record? e = recordOf? own := record?_learned recoveryMs rs e
  have hstanding : standing? own = standing := rfl
  refine ⟨?_, ?_, ?_, ?_, ?_, ?_⟩
  · rw [state, hrecord]
    exact state_recordOf? own
  · rw [failures, hrecord]
    exact failures_recordOf? own
  · rw [reason, hrecord]
    cases hlast : standing with
    | some f => rw [recordOf?_of_standing own (hstanding.trans hlast)]; rfl
    | none =>
      refine Option.bind_eq_none_iff.2 fun r hr => ?_
      exact (recordOf?_of_restored own (hstanding.trans hlast) r hr).2
  · rw [hrecord, recordOf?, Option.map_map]
    rfl
  · intro nowMs
    rw [isAvailable, hrecord]
    cases hlast : standing with
    | some f => rw [recordOf?_of_standing own (hstanding.trans hlast)]; rfl
    | none =>
      cases hr : recordOf? own with
      | none => rfl
      | some r =>
        have hhealthy := (recordOf?_of_restored own (hstanding.trans hlast) r hr).1
        simp [hhealthy]
  · intro r hr
    have hsame := record?_learn_other h e hr
    have hwindow : (h.learn r).window = h.window := by
      rw [window, recoveryMs_learn, window]
    refine ⟨?_, ?_, ?_, hsame, fun nowMs => ?_⟩
    · rw [state, hsame, state]
    · rw [failures, hsame, failures]
    · rw [reason, hsame, reason]
    · rw [isAvailable, hsame, hwindow, isAvailable]

theorem health_of_reports_restored :
    let e : Endpoint := ⟨"10.0.0.1", 80⟩
    let other : Endpoint := ⟨"10.0.0.2", 80⟩
    let h := [Report.unreachable other 5 "refused", .unreachable e 10 "refused", .success e].foldl
      learn (new 100)
    h.state e = .healthy ∧ h.failures e = 1 ∧ h.reason e = none ∧
      (h.learn (.success other)).state e = .healthy := by
  intro e other h
  obtain ⟨hstate, hfailures, hreason, _, _, hothers⟩ := health_of_reports 100
    [.unreachable other 5 "refused", .unreachable e 10 "refused", .success e] e
  obtain ⟨hsame, _⟩ := hothers (.success other) (by decide)
  exact ⟨hstate, hfailures, hreason, hsame.trans hstate⟩

theorem isAvailable_of_standing {h : Health} {own : List Report} {e : Endpoint} {nowMs : Nat}
    {f : Nat × String} (hrecord : h.record? e = recordOf? own) (hf : standing? own = some f)
    (hlate : f.1 ≤ nowMs) : h.isAvailable e nowMs = true ↔ f.1 + h.window ≤ nowMs := by
  rw [isAvailable, hrecord, recordOf?_of_standing own hf]
  simp only [bne_self_eq_false, Bool.false_or, decide_eq_true_eq]
  omega

/-- A time that does not fit 64 bits is never reached, but it is if it is cut to them. -/
theorem cut_agrees_iff {sinceMs nowMs windowMs : Nat} (hnow : nowMs < 2 ^ 64) :
    ((sinceMs + windowMs % 2 ^ 64 ≤ nowMs) ↔ sinceMs + windowMs ≤ nowMs) ↔
      windowMs < 2 ^ 64 ∨ nowMs < sinceMs + windowMs % 2 ^ 64 := by
  by_cases hfits : windowMs < 2 ^ 64
  · rw [Nat.mod_eq_of_lt hfits]
    exact iff_of_true Iff.rfl (.inl hfits)
  · have hnever : ¬sinceMs + windowMs ≤ nowMs := by omega
    rw [iff_false_right hnever, Nat.not_le, or_iff_right hfits]

end Health

namespace Proxy
open Request

theorem learned_after (c : Config) (mapper : Routing.Mapper) (pages : Pages) (keepsLog : Bool)
    (nowMs : Nat) (cs : List Change) (more : List Report) :
    let p := (new c mapper pages keepsLog nowMs).after cs
    more.foldl Health.learn p.health = (p.reports ++ more).foldl Health.learn
      (.new (c.health.recoverySecs.toNat * 1000)) := by
  intro p
  have hheard := heard_new c mapper pages keepsLog nowMs cs
  have hreports : p.reports = _ := hheard.reports
  rw [List.foldl_append, hreports]
  exact congrArg (more.foldl Health.learn) hheard.health

/-- Let the last that was told of an endpoint, by the proxy itself or by further reports, be that it
could not be reached. It is available again as soon as the recovery time, cut to 64 bits of
milliseconds, has passed since then. This is the configured time if that is at most
18446744073709551 seconds. If it is more, the endpoint is left out while the cut time lasts, as it
should be, and is available too soon after that. -/
theorem available_after_recovery (c : Config) (mapper : Routing.Mapper) (pages : Pages)
    (keepsLog : Bool) (nowMs : Nat) (cs : List Change) (more : List Report) (e : Endpoint)
    (sinceMs laterMs : Nat) (reason : String) :
    let p := (new c mapper pages keepsLog nowMs).after cs
    let h := more.foldl Health.learn p.health
    let recoveryMs := c.health.recoverySecs.toNat * 1000
    ((p.reports ++ more).filter (·.endpoint == e)).getLast? =
        some (.unreachable e sinceMs reason) →
      sinceMs ≤ laterMs →
      (h.isAvailable e laterMs = true ↔ sinceMs + recoveryMs % 2 ^ 64 ≤ laterMs) ∧
      (laterMs < 2 ^ 64 →
        ((h.isAvailable e laterMs = true ↔ sinceMs + recoveryMs ≤ laterMs) ↔
          c.health.recoverySecs ≤ 18446744073709551 ∨
            laterMs < sinceMs + recoveryMs % 2 ^ 64)) := by
  intro p h recoveryMs hlast hlate
  have hlearned : h = (p.reports ++ more).foldl Health.learn (.new recoveryMs) :=
    learned_after c mapper pages keepsLog nowMs cs more
  have hrecord : h.record? e = Health.recordOf? (Health.about (p.reports ++ more) e) :=
    hlearned ▸ Health.record?_learned recoveryMs (p.reports ++ more) e
  have hstanding : Health.standing? (Health.about (p.reports ++ more) e) =
      some (sinceMs, reason) := by
    rw [Health.standing?, Health.about, hlast]
    rfl
  have hwindow : h.window = recoveryMs % 2 ^ 64 := by
    rw [Health.window, hlearned, Health.recoveryMs_foldl]
    rfl
  have havailable := Health.isAvailable_of_standing hrecord hstanding hlate
  rw [hwindow] at havailable
  refine ⟨havailable, fun hnow => ?_⟩
  have hfits : recoveryMs < 2 ^ 64 ↔ c.health.recoverySecs ≤ 18446744073709551 := by
    rw [UInt64.le_iff_toNat_le]
    change c.health.recoverySecs.toNat * 1000 < 2 ^ 64 ↔
      c.health.recoverySecs.toNat ≤ 18446744073709551
    omega
  rw [havailable, Health.cut_agrees_iff hnow, hfits]

theorem available_after_recovery_usual :
    let connection : Connection := ⟨.v4 [127, 0, 0, 1] 50000, .v4 [127, 0, 0, 1] 8080, none⟩
    let r : Incoming := ⟨⟨"GET", ⟨none, none, "/page", none⟩, .http11, .empty⟩, []⟩
    let e : Endpoint := ⟨"10.0.0.1", 80⟩
    let mapper : Routing.Mapper := ⟨.constant (some (.proxy "site" e false)), [], {}⟩
    let cs := [Change.event (.request connection r), .event (.forward 1 (.connectFails "refused"))]
    let p := (new {} mapper .empty true 7).after cs
    p.health.isAvailable e 10006 = false ∧ p.health.isAvailable e 10007 = true := by
  intro connection r e mapper cs p
  have hlast : ((p.reports ++ ([] : List Report)).filter (·.endpoint == e)).getLast? =
      some (.unreachable e 7 "connect to 10.0.0.1:80 failed: refused") := by
    decide +kernel
  have hafter (laterMs : Nat) (hlate : 7 ≤ laterMs) (hnow : laterMs < 2 ^ 64) :
      p.health.isAvailable e laterMs = true ↔ 7 + 10 * 1000 ≤ laterMs := by
    obtain ⟨_, hagrees⟩ :=
      available_after_recovery {} mapper .empty true 7 cs [] e 7 laterMs _ hlast hlate
    exact (hagrees hnow).2 (.inl (by decide))
  refine ⟨Bool.eq_false_iff.2 fun hback => ?_, (hafter 10007 (by decide) (by decide)).2 (by decide)⟩
  exact absurd ((hafter 10006 (by decide) (by decide)).1 hback) (by decide)

/-- With 18446744073709552 seconds it is back after 384 milliseconds. -/
theorem available_too_soon :
    let connection : Connection := ⟨.v4 [127, 0, 0, 1] 50000, .v4 [127, 0, 0, 1] 8080, none⟩
    let r : Incoming := ⟨⟨"GET", ⟨none, none, "/page", none⟩, .http11, .empty⟩, []⟩
    let e : Endpoint := ⟨"10.0.0.1", 80⟩
    let mapper : Routing.Mapper := ⟨.constant (some (.proxy "site" e false)), [], {}⟩
    let cs := [Change.event (.request connection r), .event (.forward 1 (.connectFails "refused"))]
    let c : Config := { health.recoverySecs := 18446744073709552 }
    let p := (new c mapper .empty true 7).after cs
    c.Valid ∧ p.reports = [.unreachable e 7 "connect to 10.0.0.1:80 failed: refused"] ∧
      p.health.isAvailable e 390 = false ∧ p.health.isAvailable e 391 = true ∧
      ¬7 + c.health.recoverySecs.toNat * 1000 ≤ 391 := by
  decide +kernel

end Proxy
end ReverseProxy
