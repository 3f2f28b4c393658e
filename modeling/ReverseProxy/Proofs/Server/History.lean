import ReverseProxy.Proofs.Server.Reloads

set_option autoImplicit false

/-!
# The history of a server

What happens to a server in a run, and what of it the proxy inside gets to see. Requests and what
happens to forwards are the same in both histories, up to the id that a request is given.
-/
namespace ReverseProxy.Server
open Request
open Proxy (Change)

def history (s : Server) : List Event → List (Server × Event)
  | [] => []
  | e :: es => (s, e) :: (s.step e).2.history es

/-- What an event is for the proxy inside. -/
inductive Inner : Event → List Change → Prop where
  | nothing (e : Event) : Inner e []
  | request (connection : Connection) (r : Incoming) (fresh : Bytes)
      (reaches : reachesProxy r.head.uri = true) :
    Inner (.request connection r fresh) [.event (.request connection (named r fresh))]
  | forward (id : Nat) (e : Forward.Event) : Inner (.forward id e) [.event (.forward id e)]
  | timePasses (ms : Nat) : Inner (.timePasses ms) [.event (.timePasses ms)]
  | clockSet (nowMs : Nat) : Inner (.clockSet nowMs) [.event (.clockSet nowMs)]
  | sweep : Inner .sweep [.event .sweep]
  | reload (c : Config) (mapper : Routing.Mapper) (configs : List Config.Pool)
      (endpoints : List Endpoint) (built : Routing.Mapper.build c = .ok mapper) :
    Inner (.reload c) [.mapper mapper, .reload configs endpoints]
  | forgo (c : Config) (mapper : Routing.Mapper) (configs : List Config.Pool)
      (built : Routing.Mapper.build c = .ok mapper) :
    Inner (.reload c) [.mapper mapper, .forgo configs]

section
variable {s u : Server} {es : List Event} {e : Event} {connection : Connection} {r : Incoming}
  {id : Nat} {fe : Forward.Event}

theorem proxy_run (s : Server) (es : List Event) :
    (s.run es).proxy = s.proxy.after (es.flatMap Event.changes) := by
  induction es generalizing s with
  | nil => rfl
  | cons e es ih =>
    rw [List.flatMap_cons, Proxy.after_append, ← proxy_step]
    exact ih (s.step e).2

theorem history_cons (s : Server) (e : Event) (es : List Event) :
    s.proxy.history ((e :: es).flatMap Event.changes) =
      s.proxy.history e.changes ++ (s.step e).2.proxy.history (es.flatMap Event.changes) := by
  rw [List.flatMap_cons, Proxy.history_append, proxy_step]

theorem mem_proxy_history {change : Change} (hm : (u, e) ∈ s.history es)
    (hchange : e.changes = [change]) :
    (u.proxy, change) ∈ s.proxy.history (es.flatMap Event.changes) := by
  induction es generalizing s with
  | nil => exact (List.not_mem_nil hm).elim
  | cons e' es ih =>
    rw [history_cons]
    rcases List.mem_cons.1 hm with heq | hm
    · cases heq
      rw [hchange]
      exact List.mem_append_left _ (List.mem_singleton_self _)
    · exact List.mem_append_right _ (ih hm)

theorem inner_changes (e : Event) : Inner e e.changes := by
  cases e with
  | request connection r fresh =>
    simp only [Event.changes]
    split
    · next hreaches => exact .request connection r fresh hreaches
    · exact .nothing _
  | forward id e => exact .forward id e
  | timePasses ms => exact .timePasses ms
  | clockSet nowMs => exact .clockSet nowMs
  | sweep => exact .sweep
  | reload c =>
    simp only [Event.changes]
    split
    · exact .nothing _
    · split
      · exact .nothing _
      · next mapper hbuilt =>
        split
        · exact .reload c mapper _ _ hbuilt
        · exact .forgo c mapper _ hbuilt

theorem changes_of_mem {pe : Proxy.Event} (h : .event pe ∈ e.changes) :
    e.changes = [.event pe] := by
  have hinner := inner_changes e
  generalize e.changes = cs at h hinner
  cases hinner with
  | nothing => exact (List.not_mem_nil h).elim
  | request | forward | timePasses | clockSet | sweep =>
    exact congrArg (fun c => [c]) (List.mem_singleton.1 h).symm
  | reload | forgo => simp at h

theorem built_of_mem {m : Routing.Mapper} (h : .mapper m ∈ e.changes) :
    ∃ c, Routing.Mapper.build c = .ok m := by
  have hinner := inner_changes e
  generalize e.changes = cs at h hinner
  cases hinner with
  | nothing | request | forward | timePasses | clockSet | sweep => simp at h
  | reload c mapper configs endpoints built | forgo c mapper configs built =>
    simp only [List.mem_cons, Change.mapper.injEq, reduceCtorEq, List.not_mem_nil, or_false] at h
    exact ⟨c, h ▸ built⟩

theorem mapper_notMem {m : Routing.Mapper} (h : ∀ c, e ≠ .reload c) : .mapper m ∉ e.changes := by
  have hinner := inner_changes e
  generalize e.changes = cs at hinner
  cases hinner with
  | nothing | request | forward | timePasses | clockSet | sweep => simp
  | reload c | forgo c => exact absurd rfl (h c)

theorem cache_notMem (e : Event) (store : Cache.Store) : .cache store ∉ e.changes := by
  have hinner := inner_changes e
  generalize e.changes = cs at hinner
  cases hinner <;> simp

theorem request_of_changes (h : e.changes = [.event (.request connection r)]) :
    ∃ asked given, e = .request connection asked given ∧ r = named asked given := by
  have hinner := inner_changes e
  rw [h] at hinner
  cases hinner with
  | request _ asked given => exact ⟨asked, given, rfl, rfl⟩

theorem forward_of_changes (h : e.changes = [.event (.forward id fe)]) : e = .forward id fe := by
  have hinner := inner_changes e
  rw [h] at hinner
  cases hinner
  rfl

theorem exists_mem_history {p : Proxy} {pe : Proxy.Event}
    (hm : (p, .event pe) ∈ s.proxy.history (es.flatMap Event.changes)) :
    ∃ u e, (u, e) ∈ s.history es ∧ u.proxy = p ∧ e.changes = [.event pe] := by
  induction es generalizing s with
  | nil => exact (List.not_mem_nil hm).elim
  | cons e es ih =>
    rw [history_cons] at hm
    rcases List.mem_append.1 hm with hm | hm
    · have hchanges := changes_of_mem (Proxy.snd_mem_of_history hm)
      rw [hchanges] at hm
      have hfirst : p = s.proxy := congrArg Prod.fst (List.mem_singleton.1 hm)
      exact ⟨s, e, List.mem_cons_self, hfirst.symm, hchanges⟩
    · obtain ⟨u, e', hmem, hrest⟩ := ih hm
      exact ⟨u, e', List.mem_cons_of_mem _ hmem, hrest⟩

theorem snd_mem_of_history (h : (u, e) ∈ s.history es) : e ∈ es := by
  induction es generalizing s with
  | nil => exact (List.not_mem_nil h).elim
  | cons e' es ih =>
    rcases List.mem_cons.1 h with heq | h
    · cases heq
      exact List.mem_cons_self
    · exact List.mem_cons_of_mem _ (ih h)

theorem step_request (s : Server) (connection : Connection) (r : Incoming) (fresh : Bytes) :
    (s.step (.request connection r fresh)).1 = deliver (named r fresh).head
      (if reachesProxy r.head.uri then
        (s.proxy.change (.event (.request connection (named r fresh)))).1
      else .response unrouted) := by
  simp only [step, receive]
  split <;> rfl

theorem step_forward (s : Server) (id : Nat) (fe : Forward.Event) :
    (s.step (.forward id fe)).1 = .none ∧ (s.proxy.change (.event (.forward id fe))).1 = .none ∨
      ∃ f, s.proxy.forward? id = some f ∧ (s.step (.forward id fe)).1 =
        deliver f.context.head (s.proxy.change (.event (.forward id fe))).1 := by
  rw [Proxy.change_forward]
  simp only [step, inside, Proxy.step]
  cases s.proxy.forward? id with
  | none => exact .inl ⟨rfl, rfl⟩
  | some f => exact .inr ⟨f, rfl, rfl⟩

theorem streaming_of_change {status : Http.Status} {shown : Http.Headers}
    (h : (s.proxy.change (.event (.forward id fe))).1 = .streaming status shown) :
    ∃ sent, (s.step (.forward id fe)).1 = .streaming status sent := by
  rcases s.step_forward id fe with ⟨_, hnone⟩ | ⟨f, _, hstep⟩
  · rw [hnone] at h
    cases h
  · exact ⟨_, hstep.trans (congrArg (deliver f.context.head) h)⟩

end

end ReverseProxy.Server
