import ReverseProxy.Proofs.Fallible
import ReverseProxy.Proofs.Proxy.Traffic
import ReverseProxy.Server

set_option autoImplicit false

/-!
# Reloads

However often a server is reloaded, the pools in use are those of the configuration that was last
applied. A reload that fails leaves them in use; one that succeeds retires all of them at once.
-/
namespace ReverseProxy

namespace Proxy

/-- The pools are in order, and those in use are the configured ones. -/
structure Governed (p : Proxy) (c : Config) : Prop where
  held : p.Held
  orderly : p.pools.Orderly
  serving : p.pools.registry.Serving c.pools (Routing.configuredEndpoints c)

def Change.Spares (c : Change) : Prop :=
  (∀ configs endpoints, c ≠ .reload configs endpoints) ∧ ∀ ref, c ≠ .dispose ref

section
variable {p : Proxy} {c : Config}

theorem Governed.change (h : p.Governed c) {change : Change} (hc : change.Spares) :
    (p.change change).2.Governed c where
  held := h.held.change change
  orderly := h.held.orderly_change h.orderly hc.2
  serving := h.serving.later (h.held.ages_change h.orderly change)
    (h.held.keeps_change h.orderly hc.1)

theorem Governed.after (h : p.Governed c) {cs : List Change} (hcs : ∀ change ∈ cs, change.Spares) :
    (p.after cs).Governed c ∧
      (p.after cs).pools.registry.generation = p.pools.registry.generation := by
  induction cs generalizing p with
  | nil => exact ⟨h, rfl⟩
  | cons change cs ih =>
    have hc := hcs change List.mem_cons_self
    obtain ⟨hlater, hsame⟩ := ih (h.change hc) fun d hd => hcs d (List.mem_cons_of_mem change hd)
    exact ⟨hlater, hsame.trans (h.held.keeps_change h.orderly hc.1).generation⟩

theorem Governed.reload (h : p.Governed c) (c' : Config) :
    let q := (p.change (.reload c'.pools (Routing.configuredEndpoints c'))).2
    q.Governed c' ∧ p.pools.registry.generation < q.pools.registry.generation := by
  intro q
  let installed : Pool.Schedule := { p.pools with
    registry := p.pools.registry.install c'.pools (Routing.configuredEndpoints c') }
  have hinstalled := p.pools.registry.serving_install c'.pools (Routing.configuredEndpoints c')
  refine ⟨⟨h.held.change _, h.held.orderly_change h.orderly (by simp), ?_⟩, ?_⟩
  · exact hinstalled.later (installed.ages_disposeAll _) (installed.keeps_disposeAll _)
  · have hused := h.held.ledger.backs.generation_le
    have hnew := p.pools.generation_reload c'.pools (Routing.configuredEndpoints c')
    change q.pools.registry.generation = _ at hnew
    omega

theorem governed_new (c : Config) (mapper : Routing.Mapper) (pages : Pages) (keepsLog : Bool)
    (nowMs : Nat) : (new c mapper pages keepsLog nowMs).Governed c where
  held := held_new c mapper pages keepsLog nowMs
  orderly := Pool.Schedule.orderly_start c.pools (Routing.configuredEndpoints c)
  serving := Pool.Registry.serving_install .empty c.pools (Routing.configuredEndpoints c)

end

end Proxy

namespace Server
open Proxy (Change)

/-- What an event of the server is for the proxy inside. -/
def Event.changes : Event → List Change
  | .request connection r fresh =>
    let head := { r.head with headers := withId fresh r.head.headers }
    if reachesProxy head.uri then [.event (.request connection { r with head })] else []
  | .forward id e => [.event (.forward id e)]
  | .reload c =>
    if c.findings ≠ [] then []
    else
      match Routing.Mapper.build c with
      | .error _ => []
      | .ok mapper =>
        if Pool.slotsFit c.pools (Routing.configuredEndpoints c) then
          [.mapper mapper, .reload c.pools (Routing.configuredEndpoints c)]
        else [.mapper mapper, .forgo c.pools]
  | .timePasses ms => [.event (.timePasses ms)]
  | .clockSet nowMs => [.event (.clockSet nowMs)]
  | .sweep => [.event .sweep]

def applied? (s : Server) : Event → Option Config
  | .reload c => if (s.reload c).1.toBool then some c else none
  | _ => none

def applied (s : Server) : List Event → List Config
  | [] => []
  | e :: es => (s.applied? e).toList ++ (s.step e).2.applied es

/-- The configuration in force after a run of a server that started with `c`. -/
def inForce (s : Server) (c : Config) (es : List Event) : Config := (s.applied es).getLast?.getD c

section
variable {s : Server} {c : Config}

theorem proxy_step (s : Server) (e : Event) : (s.step e).2.proxy = s.proxy.after e.changes := by
  cases e with
  | request connection r fresh =>
    simp only [step, receive, Event.changes]
    split <;> rfl
  | forward id e =>
    simp only [step, Event.changes]
    split <;> rfl
  | reload c =>
    simp only [step, reload, Event.changes]
    split
    · rfl
    · cases Routing.Mapper.build c with
      | error cause => rfl
      | ok mapper =>
        dsimp only
        cases Pool.slotsFit c.pools (Routing.configuredEndpoints c) <;> rfl
  | timePasses ms | clockSet nowMs | sweep => rfl

/-- A reload exchanges the pools if it succeeds, and spares them otherwise. -/
theorem changes_cases (s : Server) (e : Event) :
    (∃ c mapper, s.applied? e = some c ∧ c.Valid ∧
      e.changes = [.mapper mapper, .reload c.pools (Routing.configuredEndpoints c)]) ∨
    s.applied? e = none ∧ ∀ change ∈ e.changes, change.Spares := by
  have hevent (e : Proxy.Event) : ∀ change ∈ [Change.event e], change.Spares := by
    simp [Change.Spares]
  have hnothing : ∀ change ∈ ([] : List Change), change.Spares :=
    fun _ hmem => (List.not_mem_nil hmem).elim
  cases e with
  | request connection r fresh =>
    refine .inr ⟨rfl, ?_⟩
    simp only [Event.changes]
    split
    · exact hevent _
    · exact hnothing
  | forward id e => exact .inr ⟨rfl, hevent _⟩
  | timePasses ms | clockSet nowMs | sweep => exact .inr ⟨rfl, hevent _⟩
  | reload c =>
    simp only [applied?, reload, Event.changes]
    split
    · exact .inr ⟨rfl, hnothing⟩
    · next hvalid =>
      cases Routing.Mapper.build c with
      | error cause => exact .inr ⟨rfl, hnothing⟩
      | ok mapper =>
        dsimp only
        cases Pool.slotsFit c.pools (Routing.configuredEndpoints c) with
        | true => exact .inl ⟨c, mapper, rfl, not_not.1 hvalid, rfl⟩
        | false =>
          refine .inr ⟨rfl, ?_⟩
          simp [Change.Spares]

theorem governed_step (h : s.proxy.Governed c) (e : Event) :
    (s.step e).2.proxy.Governed ((s.applied? e).getD c) ∧
      if (s.applied? e).isSome then
        s.proxy.pools.registry.generation < (s.step e).2.proxy.pools.registry.generation
      else s.proxy.pools.registry.generation = (s.step e).2.proxy.pools.registry.generation := by
  rw [proxy_step]
  rcases s.changes_cases e with ⟨c', mapper, happlied, _, hchanges⟩ | ⟨hnone, hspares⟩
  · have hmapped : (s.proxy.change (.mapper mapper)).2.Governed c :=
      h.change (by simp [Change.Spares])
    rw [happlied, hchanges]
    exact hmapped.reload c'
  · obtain ⟨hlater, hsame⟩ := h.after hspares
    rw [hnone]
    exact ⟨hlater, hsame.symm⟩

theorem inForce_cons (s : Server) (c : Config) (e : Event) (es : List Event) :
    s.inForce c (e :: es) = (s.step e).2.inForce ((s.applied? e).getD c) es := by
  unfold inForce
  rw [applied, List.getLast?_append]
  cases ((s.step e).2.applied es).getLast? with
  | some c' => rfl
  | none => cases s.applied? e <;> rfl

theorem governed_run (h : s.proxy.Governed c) (es : List Event) :
    (s.run es).proxy.Governed (s.inForce c es) := by
  induction es generalizing s c with
  | nil => exact h
  | cons e es ih =>
    rw [inForce_cons]
    exact ih (governed_step h e).1

theorem eq_of_build {pages : Pages} {nowMs : Nat} {start : Server}
    (h : build c pages nowMs = .ok start) : c.Valid ∧
      ∃ mapper, Routing.Mapper.build c = .ok mapper ∧ start = {
        proxy := .new c mapper pages c.observability.accessLogEnabled nowMs
        requestTimeoutMs := c.forwarding.requestTimeoutSecs.toNat * 1000 } := by
  unfold build at h
  split at h
  · cases h
  next hvalid =>
    split at h
    · cases h
    split at h
    · cases h
    next mapper hmapper =>
      split at h
      · cases h
      exact ⟨not_not.1 hvalid, mapper, hmapper, (Except.ok.inj h).symm⟩

theorem proxy_build {pages : Pages} {nowMs : Nat} {start : Server}
    (h : build c pages nowMs = .ok start) : c.Valid ∧
      ∃ mapper, start.proxy = .new c mapper pages c.observability.accessLogEnabled nowMs := by
  obtain ⟨hvalid, mapper, _, rfl⟩ := eq_of_build h
  exact ⟨hvalid, mapper, rfl⟩

theorem governed_build {pages : Pages} {nowMs : Nat} {start : Server}
    (h : build c pages nowMs = .ok start) : start.proxy.Governed c := by
  obtain ⟨_, mapper, hproxy⟩ := proxy_build h
  rw [hproxy]
  exact Proxy.governed_new c mapper pages c.observability.accessLogEnabled nowMs

end

/-- Whatever a server has been through, the pool for a host is of the newest generation, is neither
closing nor closed and is the one that the configuration in force has for the host. The pools of
that generation know every configured endpoint. Each configuration that is put in force has a
generation of its own with a greater number, and each pool of an older one was told to close
once. -/
theorem resolve_of_reloads {c : Config} {pages : Pages} {nowMs : Nat} {start : Server}
    (hbuild : build c pages nowMs = .ok start) (es : List Event) :
    let s := start.run es
    let r := s.proxy.pools.registry
    let c' := start.inForce c es
    (∀ host, ∃ p, r.pool? (r.resolve host) = some p ∧ (r.resolve host).generation = r.generation ∧
      p.generation = r.generation ∧ p.closing = false ∧ p.closed = false ∧
      p.policy = Pool.Policy.ofConfig (Pool.Registry.policyFor c'.pools host)) ∧
    (∀ ref p, r.pool? ref = some p → ref.generation = r.generation →
      ∀ e ∈ Routing.configuredEndpoints c', (p.find? e).isSome) ∧
    (∀ e, if (s.applied? e).isSome then
        r.generation < (s.step e).2.proxy.pools.registry.generation
      else r.generation = (s.step e).2.proxy.pools.registry.generation) ∧
    ∀ ref p, r.pool? ref = some p → ref.generation ≤ r.generation ∧
      s.proxy.pools.toldTo.count ref = if ref.generation = r.generation then 0 else 1 := by
  intro s r c'
  have h : s.proxy.Governed c' := governed_run (governed_build hbuild) es
  have horderly := h.orderly
  have hopen (ref : Pool.PoolRef) (p : Pool.ConnectionPool) (hp : r.pool? ref = some p)
      (hnewest : ref.generation = r.generation) : p.closing = false ∧ p.closed = false :=
    horderly.relieved.current horderly.drained hp hnewest
  refine ⟨fun host => ?_, fun ref p hp hnewest => ?_, fun e => (governed_step h e).2,
    fun ref p hp => ⟨horderly.relieved.newest ref p hp, horderly.relieved.told ref p hp⟩⟩
  · obtain ⟨p, hp, hnewest, hpolicy⟩ := h.serving.resolve h.held.ledger.backs host
    have hnumber : p.generation = (r.resolve host).generation := horderly.numbered _ p hp
    obtain ⟨hclosing, hclosed⟩ := hopen _ p hp hnewest
    exact ⟨p, hp, hnewest, hnumber.trans hnewest, hclosing, hclosed, hpolicy⟩
  · have hp' : r.pool? ⟨r.generation, ref.place⟩ = some p := hnewest ▸ hp
    exact h.serving.known ref.place p hp' (hopen ref p hp hnewest).2

theorem resolve_of_reloads_new_pool :
    let api : Config.Pool := { id := "api", domain := "*.api.test" }
    let c : Config := { backends := [⟨"a", "web", "10.0.0.1:80"⟩] }
    let c' : Config := { c with pools := [api] }
    ∃ start, build c .empty 0 = .ok start ∧
      let r := (start.run [.reload c']).proxy.pools.registry
      ∃ p, r.pool? (r.resolve "v1.api.test") = some p ∧ p.id = "api" ∧ p.generation = 2 ∧
        p.closing = false ∧ (p.find? ⟨"10.0.0.1", 80⟩).isSome := by
  intro api c c'
  have hbuilt : (build c .empty 0).toOption.isSome = true := by decide +kernel
  cases hbuild : build c .empty 0 with
  | error cause =>
    rw [hbuild] at hbuilt
    cases hbuilt
  | ok start =>
    have hrun : (build c .empty 0).toOption.map (fun start =>
        (start.inForce c [.reload c'], (start.run [.reload c']).proxy.pools.registry.generation)) =
          some (c', 2) := by decide +kernel
    rw [hbuild] at hrun
    obtain ⟨hinforce, hgeneration⟩ := Prod.mk.inj (Option.some.inj hrun)
    obtain ⟨hresolve, hknown, _⟩ := resolve_of_reloads hbuild [.reload c']
    obtain ⟨p, hp, hnewest, hnumber, hclosing, _, hpolicy⟩ := hresolve "v1.api.test"
    rw [hinforce] at hpolicy hknown
    refine ⟨start, rfl, p, hp, ?_, hnumber.trans hgeneration, hclosing, ?_⟩
    · have hid : (Pool.Registry.policyFor c'.pools "v1.api.test").id = "api" := by decide +kernel
      unfold Pool.ConnectionPool.id
      rw [hpolicy, Pool.Policy.ofConfig]
      exact hid
    · exact hknown _ p hp hnewest _ (by decide +kernel)

end Server
end ReverseProxy
