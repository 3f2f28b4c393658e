import ReverseProxy.Cache.Key
import ReverseProxy.Proofs.Forward.Outgoing
import ReverseProxy.Proofs.Http.Authority
import ReverseProxy.Proofs.Text.Items

set_option autoImplicit false

/-!
# Isolation

What two requests with one cache key have in common once they are handed on. The key is made of
what can be read of a request, while a backend gets the bytes that came in; so the host is the same
only where the proxy found one, or none was sent, and the encodings only where each of them could
be read.
-/
namespace ReverseProxy

namespace Forward.Outgoing

/-- The hosts that the backend is told, up to space and case. -/
def hosts (o : Outgoing) : List Bytes :=
  ((o.headers.getAll "host").map Bytes.fold).filter (· ≠ [])

/-- The encodings that the backend is told, as one list. -/
def encodings (o : Outgoing) : List Bytes :=
  Bytes.items (List.intercalate [0x2c] (o.headers.getAll "accept-encoding"))

end Forward.Outgoing

namespace Cache
open Forward (Outgoing)

structure Forwarded where
  request : Request.Incoming
  secure : Bool
  backend : Endpoint
  capturing : Bool
  sent : Outgoing
  authority_read : ∀ a, request.head.uri.authority = some a → Http.Uri.authority? a = .ok a
  is_sent : Outgoing.ofIncoming request backend capturing = .ok sent

namespace Forwarded
variable (f : Forwarded)

def key : Key :=
  .ofRequest f.request.head.method f.request.head.uri f.request.head.headers f.secure

/-- The proxy found a host, or there is none that is not blank. -/
def HostRead : Prop :=
  f.request.head.host = "" →
    ∀ v ∈ f.request.head.headers.getAll "host", Bytes.fold v = []

/-- Every list of encodings could be read. -/
def EncodingsRead : Prop :=
  ∀ v ∈ f.request.head.headers.getAll "accept-encoding", (Bytes.text? v).isSome

theorem plain_host : Text.Plain f.request.head.host := Request.Head.plain_host f.authority_read

theorem method_key : f.key.method = f.sent.method :=
  (Outgoing.ofIncoming_eq_ok f.is_sent).2.1.symm

theorem pathAndQuery_key : f.key.pathAndQuery = f.sent.pathAndQuery := by
  obtain ⟨_, _, hp, _⟩ := Outgoing.ofIncoming_eq_ok f.is_sent
  rw [hp]
  have hslash (s : String) : (if s = "" then "/" else s) ≠ "" := by
    split
    · decide
    · assumption
  have hne : f.request.head.uri.pathAndQuery?.getD "/" ≠ "" := by
    unfold Http.Uri.pathAndQuery?
    split
    · exact hslash _
    · decide
  exact if_neg hne

theorem getAll_host : f.sent.headers.getAll "host" =
    if f.request.head.host ≠ "" then [Bytes.ofText f.request.head.host]
      else f.request.head.headers.getAll "host" := by
  rw [Outgoing.getAll_ofIncoming f.is_sent (by decide)]
  simp

theorem getAll_encodings : f.sent.headers.getAll "accept-encoding" =
    f.request.head.headers.getAll "accept-encoding" := by
  rw [Outgoing.getAll_ofIncoming f.is_sent (by decide)]
  simp

theorem hosts_eq (hf : f.HostRead) :
    f.sent.hosts = [Bytes.ofText f.key.authority].filter (· ≠ []) := by
  have hkey : Bytes.ofText f.key.authority = Bytes.fold (Bytes.ofText f.request.head.host) :=
    (Bytes.fold_ofText f.plain_host).symm
  rw [Outgoing.hosts, getAll_host, hkey]
  by_cases hhost : f.request.head.host = ""
  · have hblank : Bytes.fold (Bytes.ofText "") = [] := by
      rw [Bytes.ofText_eq_nil_iff.2 rfl]
      rfl
    simp only [hhost, ne_eq, not_true, if_false, hblank]
    refine (List.filter_eq_nil_iff.2 fun v hv => ?_).trans rfl
    obtain ⟨w, hw, rfl⟩ := List.mem_map.1 hv
    simp [hf hhost w hw]
  · simp [hhost]

def readEncodings : Bytes :=
  List.intercalate [0x2c] ((f.request.head.headers.getAll "accept-encoding").filter
    fun v => (Bytes.text? v).isSome)

theorem text?_readEncodings : Bytes.text? f.readEncodings =
    some (Text.join "," ((f.request.head.headers.getAll "accept-encoding").filterMap
      Bytes.text?)) := by
  rw [readEncodings]
  generalize f.request.head.headers.getAll "accept-encoding" = vs
  have hplain : ∀ t ∈ vs.filterMap Bytes.text?, Text.Plain t := by
    intro t ht
    obtain ⟨v, _, hv⟩ := List.mem_filterMap.1 ht
    exact (Bytes.text?_eq_some_iff.1 hv).1
  refine Bytes.text?_eq_some_iff.2 ⟨.join (by decide) hplain, ?_⟩
  rw [Bytes.ofText_commaJoin, Bytes.map_ofText_filterMap]

theorem encodings_key : Bytes.ofText f.key.acceptEncoding =
    List.intercalate [0x2c] (Bytes.items f.readEncodings) := by
  obtain ⟨hplain, hbytes⟩ := Bytes.text?_eq_some_iff.1 f.text?_readEncodings
  rw [← hbytes, Bytes.items_ofText hplain]
  exact Bytes.ofText_commaJoin _

theorem encodings_eq (hf : f.EncodingsRead) : f.sent.encodings = Bytes.items f.readEncodings := by
  rw [Outgoing.encodings, getAll_encodings, readEncodings, List.filter_eq_self.2 hf]

theorem exists_withHeaders (h : Http.Headers)
    (hhost : { f.request.head with headers := h }.host = "" ∨
      { f.request.head with headers := h }.host = f.request.head.host) :
    ∃ g : Forwarded, g.secure = f.secure ∧ g.request.head = { f.request.head with headers := h } := by
  obtain ⟨hbackend, _, _, hk⟩ := Outgoing.ofIncoming_eq_ok f.is_sent
  let request : Request.Incoming := { f.request with head := { f.request.head with headers := h } }
  have hvalue : request.head.host = "" ∨
      (Http.headerValue? (Bytes.ofText request.head.host)).isSome := by
    rcases hhost with hhost | hhost
    · exact .inl hhost
    · have hsame : request.head.host = f.request.head.host := hhost
      rw [hsame]
      exact (Outgoing.keepHost_eq_ok hk).imp (·.1) (·.2.1)
  obtain ⟨o, ho⟩ := Outgoing.exists_ofIncoming f.capturing hbackend hvalue
  exact ⟨⟨request, f.secure, f.backend, f.capturing, o, f.authority_read, ho⟩, rfl, rfl⟩

theorem key_withHeaders {h : Http.Headers} {g : Forwarded} (hsecure : g.secure = f.secure)
    (hhead : g.request.head = { f.request.head with headers := h })
    (hhost : { f.request.head with headers := h }.host = f.request.head.host)
    (hencodings : Text.join "," ((h.getAll "accept-encoding").filterMap Bytes.text?) =
      Text.join "," ((f.request.head.headers.getAll "accept-encoding").filterMap Bytes.text?)) :
    g.key = f.key := by
  have hauthority : Key.authorityOf f.request.head.uri h =
      Key.authorityOf f.request.head.uri f.request.head.headers := hhost
  unfold key Key.ofRequest
  rw [hhead, hsecure]
  dsimp only
  rw [hauthority, hencodings]

theorem text?_insert (h : Http.Headers) (name : String) (v : Bytes) :
    (h.insert name v).text? name = Bytes.text? v := by
  unfold Http.Headers.text? Http.Headers.get?
  rw [Http.Headers.getAll_insert, if_pos rfl]
  rfl

/-- Where the host was not read, there is a request with the same key but without a host. -/
theorem exists_other_hosts (hf : ¬f.HostRead) :
    ∃ g : Forwarded, g.HostRead ∧ g.key = f.key ∧ g.sent.hosts ≠ f.sent.hosts := by
  obtain ⟨hhost, v, hv, hne⟩ : f.request.head.host = "" ∧
      ∃ v ∈ f.request.head.headers.getAll "host", Bytes.fold v ≠ [] := by
    simpa [HostRead] using hf
  -- A blank host is found as such, also where the target has an authority.
  let h := f.request.head.headers.insert "host" []
  have hhost' : { f.request.head with headers := h }.host = "" := by
    unfold Request.Head.host
    rw [text?_insert]
    rfl
  obtain ⟨g, hsecure, hhead⟩ := f.exists_withHeaders h (.inl hhost')
  have hblank : ∀ w ∈ g.request.head.headers.getAll "host", Bytes.fold w = [] := by
    intro w hw
    rw [hhead, Http.Headers.getAll_insert, if_pos rfl] at hw
    rw [List.mem_singleton.1 hw]
    rfl
  have hread : g.HostRead := fun _ => hblank
  refine ⟨g, hread, ?_, ?_⟩
  · refine f.key_withHeaders hsecure hhead (hhost'.trans hhost.symm) ?_
    rw [Http.Headers.getAll_insert, if_neg (by decide)]
  · have hg : g.sent.hosts = [] := by
      have hnone : g.request.head.host = "" := by rw [hhead, hhost']
      rw [Outgoing.hosts, getAll_host, if_neg fun hsome => hsome hnone]
      refine List.filter_eq_nil_iff.2 fun w hw => ?_
      obtain ⟨u, hu, rfl⟩ := List.mem_map.1 hw
      simp [hblank u hu]
    have hmem : Bytes.fold v ∈ f.sent.hosts := by
      rw [Outgoing.hosts, getAll_host, if_neg fun hsome => hsome hhost]
      exact List.mem_filter.2 ⟨List.mem_map_of_mem hv, decide_eq_true hne⟩
    intro heq
    rw [← heq, hg] at hmem
    cases hmem

theorem exists_other_encodings (hf : ¬f.EncodingsRead) :
    ∃ g : Forwarded, g.EncodingsRead ∧ g.key = f.key ∧ g.sent.encodings ≠ f.sent.encodings := by
  let h := f.request.head.headers.insert "accept-encoding" f.readEncodings
  have hhost : { f.request.head with headers := h }.host = f.request.head.host := by
    unfold Request.Head.host Http.Headers.text? Http.Headers.get?
    rw [Http.Headers.getAll_insert, if_neg (by decide)]
  obtain ⟨g, hsecure, hhead⟩ := f.exists_withHeaders h (.inr hhost)
  have hvalues : g.request.head.headers.getAll "accept-encoding" = [f.readEncodings] := by
    rw [hhead, Http.Headers.getAll_insert, if_pos rfl]
  refine ⟨g, ?_, ?_, ?_⟩
  · intro v hv
    rw [hvalues] at hv
    rw [List.mem_singleton.1 hv, f.text?_readEncodings]
    rfl
  · refine f.key_withHeaders hsecure hhead hhost ?_
    rw [Http.Headers.getAll_insert, if_pos rfl]
    simp only [List.filterMap_cons, f.text?_readEncodings, List.filterMap_nil]
    exact String.intercalate_singleton
  · intro heq
    refine hf fun v hv => ?_
    have hlist : (Bytes.text? (List.intercalate [0x2c]
        (f.request.head.headers.getAll "accept-encoding"))).isSome := by
      rw [Bytes.text?_isSome_iff_items]
      have hitems : g.sent.encodings = Bytes.items f.readEncodings := by
        rw [Outgoing.encodings, getAll_encodings, hvalues, List.intercalate_singleton]
      rw [Outgoing.encodings, Outgoing.encodings, f.getAll_encodings, ← Outgoing.encodings,
        hitems] at heq
      rw [← heq, ← Bytes.text?_isSome_iff_items, f.text?_readEncodings]
      rfl
    rw [Bytes.text?_isSome] at hlist ⊢
    exact fun b hb => hlist b (Text.mem_intercalate _ hv hb)

/-- Requests with one key share the method, the scheme, the path and the query. They share the
host, and the encodings, as long as these were read, and a request of which they were not read
shares its key with one that is told apart. -/
theorem isolation_of_key :
    (∀ g : Forwarded, g.key = f.key → g.sent.method = f.sent.method ∧ g.secure = f.secure ∧
      g.sent.pathAndQuery = f.sent.pathAndQuery) ∧
    (f.HostRead ↔
      ∀ g : Forwarded, g.HostRead → g.key = f.key → g.sent.hosts = f.sent.hosts) ∧
    (f.EncodingsRead ↔
      ∀ g : Forwarded, g.EncodingsRead → g.key = f.key → g.sent.encodings = f.sent.encodings) := by
  refine ⟨?_, ⟨?_, ?_⟩, ⟨?_, ?_⟩⟩
  · intro g hkey
    refine ⟨?_, congrArg Key.secure hkey, ?_⟩
    · rw [← method_key, hkey, method_key]
    · rw [← pathAndQuery_key, hkey, pathAndQuery_key]
  · intro hf g hg hkey
    rw [g.hosts_eq hg, hkey, f.hosts_eq hf]
  · intro h
    by_cases hf : f.HostRead
    · exact hf
    · obtain ⟨g, hg, hkey, hne⟩ := f.exists_other_hosts hf
      exact absurd (h g hg hkey) hne
  · intro hf g hg hkey
    have hbytes := g.encodings_key
    rw [hkey, f.encodings_key] at hbytes
    rw [g.encodings_eq hg, f.encodings_eq hf, Bytes.items_eq_of_intercalate_eq hbytes]
  · intro h
    by_cases hf : f.EncodingsRead
    · exact hf
    · obtain ⟨g, hg, hkey, hne⟩ := f.exists_other_encodings hf
      exact absurd (h g hg hkey) hne

def unnamed (headers : Http.Headers) (h : headers.text? "host" = none) : Forwarded where
  request := ⟨⟨"GET", ⟨none, none, "/", none⟩, .http11, headers⟩, []⟩
  secure := false
  backend := ⟨"10.0.0.1", 80⟩
  capturing := false
  sent := ⟨"GET", "10.0.0.1:80", "/", .http11, headers, []⟩
  authority_read := by
    intro a ha
    cases ha
  is_sent := by
    have hhost : Request.Head.host ⟨"GET", ⟨none, none, "/", none⟩, .http11, headers⟩ = "" := by
      unfold Request.Head.host
      rw [h]
      rfl
    have hbackend : Http.Uri.authority? (Endpoint.text ⟨"10.0.0.1", 80⟩) = .ok "10.0.0.1:80" := rfl
    simp only [Outgoing.ofIncoming, Outgoing.keepHost, hhost, hbackend, if_true]
    rfl

theorem isolation_of_key_encodings :
    let f := unnamed ⟨[⟨"accept-encoding", [71, 90, 44, 32, 98, 114]⟩]⟩ rfl
    let g := unnamed ⟨[⟨"accept-encoding", [103, 122]⟩, ⟨"accept-encoding", [32, 66, 82, 44]⟩]⟩ rfl
    g.HostRead ∧ g.EncodingsRead ∧ g.key = f.key ∧ g.sent.hosts = f.sent.hosts ∧
      g.sent.encodings = f.sent.encodings ∧ g.sent.method = f.sent.method := by
  intro f g
  have hkey : g.key = f.key := by decide +kernel
  have hhost (e : Forwarded) (h : e.request.head.headers.getAll "host" = []) : e.HostRead := by
    intro _ v hv
    rw [h] at hv
    cases hv
  have hf : f.EncodingsRead := by
    intro v
    revert v
    decide +kernel
  have hg : g.EncodingsRead := by
    intro v
    revert v
    decide +kernel
  obtain ⟨hshared, hhosts, hencodings⟩ := f.isolation_of_key
  exact ⟨hhost g rfl, hg, hkey, hhosts.1 (hhost f rfl) g (hhost g rfl) hkey,
    hencodings.1 hf g hg hkey, (hshared g hkey).1⟩

/-- Hosts and encodings that cannot be read are sent on, but not part of the key. -/
theorem unread_values_share_key :
    let f := unnamed ⟨[⟨"host", [0xff]⟩]⟩ rfl
    let g := unnamed ⟨[⟨"host", [0xfe]⟩]⟩ rfl
    let f' := unnamed ⟨[⟨"accept-encoding", [0xff]⟩]⟩ rfl
    let g' := unnamed ⟨[]⟩ rfl
    (g.key = f.key ∧ f.sent.hosts = [[0xff]] ∧ g.sent.hosts = [[0xfe]]) ∧
      (g'.key = f'.key ∧ f'.sent.encodings = [[0xff]] ∧ g'.sent.encodings = []) := by
  decide +kernel

end Forwarded
end Cache
end ReverseProxy
