import ReverseProxy.Proofs.Proxy.Records
import ReverseProxy.Proofs.Proxy.Replays

set_option autoImplicit false

namespace ReverseProxy.Proxy
open Request

/-- A response with this head was sent to the client of the request that `s` took in, and the entry
has the fields of the head. -/
structure Fills (H : List Moment) (s : Proxy) (connection : Connection) (r : Incoming)
    (status : Http.Status) (headers : Http.Headers) (e : Cache.Entry) : Prop where
  taken : (s, .event (.request connection r)) ∈ H
  sent : ∃ u shown, (u, .event (.forward s.nextId (.headArrives status headers))) ∈ H ∧
    (u.change (.event (.forward s.nextId (.headArrives status headers)))).1 =
      .streaming status shown
  fields : e.headers = Cache.storableHeaders headers.stripHopByHop

/-- The entry under the key was filled by a request for the key. -/
def Filled (H : List Moment) (key : Cache.Key) (e : Cache.Entry) : Prop :=
  ∃ s connection r status headers, Fills H s connection r status headers e ∧
    key = .ofRequest r.head.method r.head.uri r.head.headers connection.isSecure

section
variable {p : Proxy} {H : List Moment} {id : Nat} {k : Cache.Capture} {e e' : Cache.Entry}
  {key : Cache.Key} {change : Change}

theorem Filled.later (h : Filled H key e) (m : Moment) : Filled (H ++ [m]) key e := by
  obtain ⟨s, connection, r, status, headers, ⟨htaken, ⟨u, shown, hu, hsent⟩, hfields⟩, hkey⟩ := h
  exact ⟨s, connection, r, status, headers, ⟨List.mem_append_left _ htaken,
    ⟨u, shown, List.mem_append_left _ hu, hsent⟩, hfields⟩, hkey⟩

theorem Filled.congr (h : Filled H key e) (hsame : e'.headers = e.headers) : Filled H key e' := by
  obtain ⟨s, connection, r, status, headers, ⟨htaken, hsent, hfields⟩, hkey⟩ := h
  exact ⟨s, connection, r, status, headers, ⟨htaken, hsent, hsame.trans hfields⟩, hkey⟩

theorem Recalled.filled (h : Recalled H p) (hp : p.Held)
    (hknown : ∀ f ∈ p.forwards, ∃ m ∈ H, requestId? m = some f.context.id)
    (hc : Commits id k e (p, change)) : Filled H k.key e := by
  obtain ⟨f, hf, hid, _⟩ := h.of_commits hp hc
  obtain ⟨m, hm, hrequest⟩ := hknown f hf
  obtain ⟨connection, r, heq, hnext⟩ := exists_of_requestId? hrequest
  have hs : (m.1, .event (.request connection r)) ∈ H := heq ▸ hm
  rw [← hid, ← hnext] at hc
  obtain ⟨_, hkey, status, headers, live, ⟨u, hu, hsent⟩, _, _, hstands⟩ := h.captured hp hs hc
  exact ⟨m.1, connection, r, status, headers, ⟨hs, ⟨u, _, hu, hsent⟩, hstands.fields⟩, hkey⟩

theorem filled_new (c : Config) (mapper : Routing.Mapper) (pages : Pages) (keepsLog : Bool)
    (nowMs : Nat) (cs : List Change) (hothers : ∀ store, .cache store ∉ cs) :
    let start := new c mapper pages keepsLog nowMs
    ∀ l ∈ (start.after cs).cache.live, Filled (start.history cs) l.key l.entry := by
  intro start
  have hstart : start.Held := held_new c mapper pages keepsLog nowMs
  refine hstart.entries_after (kept_new c mapper pages keepsLog nowMs) (fun H m key e h => h.later m)
    (fun H key e ms h => h.congr rfl) (fun l hl => (List.not_mem_nil hl).elim)
    (fun cs change id k e hc => ?_) fun store hmem => absurd hmem (hothers store)
  have hrecalled := recalled_new c mapper pages keepsLog nowMs cs
  obtain ⟨rs, hlogged⟩ := logged_after hstart (logged_new c mapper pages keepsLog nowMs) cs
  rw [List.nil_append] at hlogged
  rw [history_append]
  exact (hrecalled.filled (hstart.after cs) hlogged.forwards hc).later _

theorem filled_of_hit {connection : Connection} {r : Incoming} (hd : p.cache.Distinct)
    (hlive : ∀ l ∈ p.cache.live, Filled H l.key l.entry) (hhit : p.hit? connection r = some e) :
    Filled H (.ofRequest r.head.method r.head.uri r.head.headers connection.isSecure) e := by
  obtain ⟨l, hl, ms, rfl, hkey⟩ := live_of_hit hd hhit
  exact hkey ▸ (hlive l hl).congr rfl

end

end ReverseProxy.Proxy
