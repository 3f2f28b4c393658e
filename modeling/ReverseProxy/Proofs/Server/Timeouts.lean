import ReverseProxy.Proofs.Proxy.Settings
import ReverseProxy.Proofs.Server.Series

set_option autoImplicit false

namespace ReverseProxy

theorem foldl_max_le_iff {l : List Nat} {a b : Nat} :
    l.foldl max a ≤ b ↔ a ≤ b ∧ ∀ n ∈ l, n ≤ b := by
  induction l generalizing a with
  | nil => simp
  | cons n l ih =>
    rw [List.foldl_cons, ih, List.forall_mem_cons, Nat.max_le, and_assoc]

theorem Pool.millis_borrowTimeout (c : Config.Pool) :
    (Pool.Policy.ofConfig c).borrowTimeout.millis = c.borrowTimeoutMs.toNat := by
  simp only [Pool.Policy.ofConfig, Duration.millis_ofMillis]

namespace Pool.Registry

def longestBorrowMs (r : Registry) : Nat :=
  (r.current.map fun p => p.policy.borrowTimeout.millis).foldl max 0

end Pool.Registry

namespace Config
open ReverseProxy.Pool.Registry (choosy fallback)

def longestBorrowMs (configs : List Pool) : Nat :=
  ((choosy configs ++ [fallback configs]).map fun p => p.borrowTimeoutMs.toNat).foldl max 0

theorem longestBorrowMs_le (c : Config) : longestBorrowMs c.pools ≤
    (c.effectivePools.map fun p => p.borrowTimeoutMs.toNat).foldl max 0 := by
  have hwritten (p : Pool) (hp : p ∈ c.pools) : p ∈ c.effectivePools := by
    unfold effectivePools
    split
    · exact hp
    · exact List.mem_append_left _ hp
  have hused : ∀ p ∈ choosy c.pools ++ [fallback c.pools], p ∈ c.effectivePools := by
    intro p hp
    rcases List.mem_append.1 hp with hp | hp
    · exact hwritten p (List.mem_filter.1 hp).1
    · rw [List.mem_singleton.1 hp]
      unfold fallback
      cases hfind : c.pools.find? Pool.isDefault with
      | some d => exact hwritten d (List.mem_of_find?_eq_some hfind)
      | none =>
        have hnone : c.pools.any Pool.isDefault = false :=
          List.any_eq_false.2 (List.find?_eq_none.1 hfind)
        unfold effectivePools
        rw [hnone]
        exact List.mem_append_right _ List.mem_cons_self
  refine foldl_max_le_iff.2 ⟨Nat.zero_le _, fun n hn => ?_⟩
  obtain ⟨p, hp, rfl⟩ := List.mem_map.1 hn
  exact (foldl_max_le_iff.1 (Nat.le_refl _)).2 _ (List.mem_map_of_mem (hused p hp))

theorem Valid.timeouts {c : Config} (h : c.Valid) :
    longestBorrowMs c.pools + c.forwarding.stuckTimeoutMs.toNat <
      c.forwarding.requestTimeoutSecs.toNat * 1000 := by
  have hle := c.longestBorrowMs_le
  unfold Valid findings at h
  simp only [List.append_eq_nil_iff] at h
  obtain ⟨⟨⟨⟨⟨⟨⟨⟨_, hforwarding⟩, _⟩, _⟩, _⟩, _⟩, _⟩, _⟩, _⟩ := h
  unfold forwardingFindings at hforwarding
  rw [List.append_eq_nil_iff] at hforwarding
  obtain ⟨_, hroom⟩ := hforwarding
  split at hroom
  · cases hroom
  · have hlt : innerTimeoutMs c < outerTimeoutMs c := by
      simpa [when_eq_nil] using hroom
    -- The inner sum is below the outer product, so it has not been cut off.
    unfold innerTimeoutMs outerTimeoutMs saturated at hlt
    dsimp only at hlt
    omega

end Config

namespace Server

/-- All that a forward may wait for ends before the deadline of its request. -/
def TimeoutsFit (s : Server) : Prop :=
  s.proxy.pools.registry.longestBorrowMs + s.proxy.stuckTimeout.millis < s.requestTimeoutMs

instance (s : Server) : Decidable s.TimeoutsFit := inferInstanceAs (Decidable (_ < _))

section
variable {s : Server} {c : Config}

theorem requestTimeoutMs_step (s : Server) (e : Event) :
    (s.step e).2.requestTimeoutMs = s.requestTimeoutMs := by
  cases e with
  | request connection r fresh =>
    simp only [step, receive]
    split <;> rfl
  | forward id e =>
    simp only [step]
    split <;> rfl
  | reload c =>
    simp only [step, reload]
    split
    · rfl
    · split
      · rfl
      · split <;> rfl
  | timePasses | clockSet | sweep => rfl

theorem timeouts_run (s : Server) (es : List Event) :
    (s.run es).proxy.stuckTimeout = s.proxy.stuckTimeout ∧
      (s.run es).requestTimeoutMs = s.requestTimeoutMs := by
  induction es generalizing s with
  | nil => exact ⟨rfl, rfl⟩
  | cons e es ih =>
    obtain ⟨hstuck, hrequest⟩ := ih (s.step e).2
    refine ⟨hstuck.trans ?_, hrequest.trans (requestTimeoutMs_step s e)⟩
    obtain ⟨_, hsettings⟩ := Proxy.settings_after s.proxy e.changes
    rw [proxy_step]
    exact congrArg Proxy.Settings.stuckTimeout hsettings

theorem longestBorrowMs_of_serving {r : Pool.Registry} {configs : List Config.Pool}
    {endpoints : List Endpoint} (h : r.Serving configs endpoints) :
    r.longestBorrowMs = Config.longestBorrowMs configs := by
  have hborrow : (fun p : Pool.Policy => p.borrowTimeout.millis) ∘ Pool.Policy.ofConfig =
      fun p : Config.Pool => p.borrowTimeoutMs.toNat := by
    funext p
    rw [Function.comp_apply, Pool.millis_borrowTimeout]
  have hused : (fun p : Pool.ConnectionPool => p.policy.borrowTimeout.millis) =
      (fun p : Pool.Policy => p.borrowTimeout.millis) ∘ Pool.ConnectionPool.policy := rfl
  have hpolicies := h.policies.trans (Pool.Registry.activePolicies_eq configs)
  unfold Pool.Registry.longestBorrowMs Config.longestBorrowMs
  rw [hused, ← List.map_map, hpolicies, List.map_map, hborrow]

end

/-- The waits of a forward end before the deadline of its request exactly if the pools of the
configuration in force leave room in the timeouts of the start. They do if that configuration
waits at least as long for a backend as the one of the start and gives a request at most as much
time, as the one of the start itself does. -/
theorem timeouts_of_reloads {c : Config} {pages : Pages} {nowMs : Nat} {start : Server}
    (hbuild : build c pages nowMs = .ok start) (es : List Event) :
    let c' := start.inForce c es
    ((start.run es).TimeoutsFit ↔
      Config.longestBorrowMs c'.pools + c.forwarding.stuckTimeoutMs.toNat <
        c.forwarding.requestTimeoutSecs.toNat * 1000) ∧
    (c.forwarding.stuckTimeoutMs ≤ c'.forwarding.stuckTimeoutMs →
      c'.forwarding.requestTimeoutSecs ≤ c.forwarding.requestTimeoutSecs →
        (start.run es).TimeoutsFit) := by
  intro c'
  obtain ⟨hvalid, mapper, _, hstart⟩ := eq_of_build hbuild
  have hserving := (governed_run (governed_build hbuild) es).serving
  obtain ⟨hstuck, hrequest⟩ := start.timeouts_run es
  have hstuck' : (start.run es).proxy.stuckTimeout.millis =
      c.forwarding.stuckTimeoutMs.toNat := by
    rw [hstuck, hstart]
    exact Duration.millis_ofMillis _
  have hrequest' : (start.run es).requestTimeoutMs =
      c.forwarding.requestTimeoutSecs.toNat * 1000 := by
    rw [hrequest, hstart]
  have hfit : (start.run es).TimeoutsFit ↔
      Config.longestBorrowMs c'.pools + c.forwarding.stuckTimeoutMs.toNat <
        c.forwarding.requestTimeoutSecs.toNat * 1000 := by
    unfold TimeoutsFit
    rw [longestBorrowMs_of_serving hserving, hstuck', hrequest']
  refine ⟨hfit, fun hslow hshort => hfit.2 ?_⟩
  have hroom := (valid_applied (s := start) hvalid es).timeouts
  rw [UInt64.le_iff_toNat_le] at hslow hshort
  change Config.longestBorrowMs c'.pools + c'.forwarding.stuckTimeoutMs.toNat <
    c'.forwarding.requestTimeoutSecs.toNat * 1000 at hroom
  omega

theorem timeouts_of_reloads_shorter_wait :
    let c' : Config := { pools := [{ borrowTimeoutMs := 2000 }] }
    ∃ start, build {} .empty 0 = .ok start ∧ (start.run [.reload c']).TimeoutsFit := by
  intro c'
  have hrun : (build {} .empty 0).toOption.map (fun start => start.inForce {} [.reload c']) =
      some c' := by decide +kernel
  obtain ⟨start, hbuild, hinforce⟩ := exists_ok_of_map hrun
  obtain ⟨_, hroom⟩ := timeouts_of_reloads hbuild [.reload c']
  rw [hinforce] at hroom
  exact ⟨start, hbuild, hroom (by decide) (by decide)⟩

/-- A valid configuration whose pools wait long for a slot but shortly for a backend takes the room
from a server that was started to wait long for a backend. -/
theorem reloaded_wait_outlasts_deadline :
    let c : Config := { forwarding := { stuckTimeoutMs := 30000, requestTimeoutSecs := 36 } }
    let c' : Config := {
      pools := [{ borrowTimeoutMs := 34000 }]
      forwarding := { stuckTimeoutMs := 1000, requestTimeoutSecs := 36 } }
    c.Valid ∧ c'.Valid ∧ ∃ start, build c .empty 0 = .ok start ∧ start.TimeoutsFit ∧
      (start.reload c').1 = .ok 1 ∧ ¬(start.reload c').2.TimeoutsFit := by
  intro c c'
  have hrun : (build c .empty 0).toOption.map (fun start =>
      (decide start.TimeoutsFit, (start.reload c').1, decide (start.reload c').2.TimeoutsFit)) =
        some (true, .ok 1, false) := by decide +kernel
  obtain ⟨start, hbuild, hrun⟩ := exists_ok_of_map hrun
  obtain ⟨hfirst, hrest⟩ := Prod.mk.inj hrun
  obtain ⟨hdrains, hlast⟩ := Prod.mk.inj hrest
  exact ⟨by decide +kernel, by decide +kernel, start, hbuild, of_decide_eq_true hfirst, hdrains,
    of_decide_eq_false hlast⟩

end Server
end ReverseProxy
