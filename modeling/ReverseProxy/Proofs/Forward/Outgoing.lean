import ReverseProxy.Forward.Outgoing
import ReverseProxy.Proofs.Http.Authority

set_option autoImplicit false

namespace ReverseProxy.Forward.Outgoing

theorem keepHost_eq_ok {host : String} {h h' : Http.Headers} (hk : keepHost host h = .ok h') :
    (host = "" ∧ h' = h) ∨
      (host ≠ "" ∧ (Http.headerValue? (Bytes.ofText host)).isSome ∧
        h' = h.insert "host" (Bytes.ofText host)) := by
  unfold keepHost at hk
  split at hk
  · next hhost => exact .inl ⟨hhost, (Except.ok.inj hk).symm⟩
  next hhost =>
  split at hk
  · next v hv =>
    have hv' : v = Bytes.ofText host := by
      unfold Http.headerValue? at hv
      split at hv
      · exact (Option.some.inj hv).symm
      · cases hv
    refine .inr ⟨hhost, by rw [hv]; rfl, ?_⟩
    rw [← hv']
    exact (Except.ok.inj hk).symm
  · cases hk

theorem ofIncoming_eq_ok_iff {r : Request.Incoming} {backend : Endpoint} {capturing : Bool}
    {o : Outgoing} : ofIncoming r backend capturing = .ok o ↔
      Http.Uri.authority? backend.text = .ok o.authority ∧
      keepHost r.head.host (if capturing then r.head.headers.stripValidators
        else r.head.headers) = .ok o.headers ∧
      o.method = r.head.method ∧ o.pathAndQuery = r.head.uri.pathAndQuery?.getD "/" ∧
      o.body = r.body ∧ o.version = .http11 := by
  obtain ⟨method, authority, pathAndQuery, version, headers, body⟩ := o
  unfold ofIncoming
  cases Http.Uri.authority? backend.text with
  | error cause => exact iff_of_false nofun nofun
  | ok a =>
    dsimp only
    rw [bind_ok_iff]
    constructor
    · rintro ⟨h, hk, heq⟩
      cases heq
      exact ⟨rfl, hk, rfl, rfl, rfl, rfl⟩
    · rintro ⟨ha, hk, rfl, rfl, rfl, rfl⟩
      cases ha
      exact ⟨headers, hk, rfl⟩

theorem ofIncoming_eq_ok {r : Request.Incoming} {backend : Endpoint} {capturing : Bool}
    {o : Outgoing} (h : ofIncoming r backend capturing = .ok o) :
    (∃ a, Http.Uri.authority? backend.text = .ok a) ∧ o.method = r.head.method ∧
      o.pathAndQuery = r.head.uri.pathAndQuery?.getD "/" ∧
      keepHost r.head.host (if capturing then r.head.headers.stripValidators else r.head.headers) =
        .ok o.headers := by
  obtain ⟨hauthority, hk, hmethod, hpath, _⟩ := ofIncoming_eq_ok_iff.1 h
  exact ⟨⟨_, hauthority⟩, hmethod, hpath, hk⟩

theorem authority_of_ofIncoming {r : Request.Incoming} {backend : Endpoint} {capturing : Bool}
    {o : Outgoing} (h : ofIncoming r backend capturing = .ok o) :
    Http.Uri.authority? backend.text = .ok o.authority :=
  (ofIncoming_eq_ok_iff.1 h).1

theorem exists_ofIncoming {r : Request.Incoming} {backend : Endpoint} (capturing : Bool)
    (hb : ∃ a, Http.Uri.authority? backend.text = .ok a)
    (hhost : r.head.host = "" ∨ (Http.headerValue? (Bytes.ofText r.head.host)).isSome) :
    ∃ o, ofIncoming r backend capturing = .ok o := by
  obtain ⟨a, ha⟩ := hb
  obtain ⟨h', hk⟩ : ∃ h', keepHost r.head.host
      (if capturing then r.head.headers.stripValidators else r.head.headers) = .ok h' := by
    unfold keepHost
    split
    · exact ⟨_, rfl⟩
    next hne =>
    obtain ⟨v, hv⟩ := Option.isSome_iff_exists.1 (hhost.resolve_left hne)
    rw [hv]
    exact ⟨_, rfl⟩
  unfold ofIncoming
  simp only [ha, hk]
  exact ⟨_, rfl⟩

theorem keepHost_error {host : String} {h : Http.Headers} {why : Failure}
    (hk : keepHost host h = .error why) (h' : Http.Headers) :
    keepHost host h' = .error why ∧ ∃ reason, why = .invalidTarget reason := by
  unfold keepHost at hk ⊢
  split at hk
  · cases hk
  · next hhost =>
    rw [if_neg hhost]
    split at hk
    · cases hk
    · cases hk
      exact ⟨rfl, _, rfl⟩

theorem ofIncoming_error {r : Request.Incoming} {backend : Endpoint} {capturing : Bool}
    {why : Failure} (h : ofIncoming r backend capturing = .error why) (other : Bool) :
    ofIncoming r backend other = .error why ∧ ∃ reason, why = .invalidTarget reason := by
  unfold ofIncoming at h ⊢
  cases hauthority : Http.Uri.authority? backend.text with
  | error cause =>
    rw [hauthority] at h
    cases h
    exact ⟨rfl, _, rfl⟩
  | ok authority =>
    rw [hauthority] at h
    dsimp only at h ⊢
    cases hk : keepHost r.head.host
        (if capturing then r.head.headers.stripValidators else r.head.headers) with
    | ok kept =>
      rw [hk] at h
      cases h
    | error cause =>
      rw [hk] at h
      cases h
      obtain ⟨hother, hreason⟩ := keepHost_error hk
        (if other then r.head.headers.stripValidators else r.head.headers)
      rw [hother]
      exact ⟨rfl, hreason⟩

theorem getAll_keepHost {host name : String} {h h' : Http.Headers}
    (hk : keepHost host h = .ok h') :
    h'.getAll name = if name = "host" ∧ host ≠ "" then [Bytes.ofText host] else h.getAll name := by
  rcases keepHost_eq_ok hk with ⟨hhost, rfl⟩ | ⟨hhost, _, rfl⟩
  · simp [hhost]
  · rw [Http.Headers.getAll_insert]
    by_cases hn : name = "host"
    · simp [hn, hhost]
    · have hn' : ¬"host" = name := fun e => hn e.symm
      simp [hn, hn']

theorem getAll_ofIncoming {r : Request.Incoming} {backend : Endpoint} {capturing : Bool}
    {o : Outgoing} (h : ofIncoming r backend capturing = .ok o) {name : String}
    (hname : Http.validatorNames.contains name = false) :
    o.headers.getAll name = if name = "host" ∧ r.head.host ≠ "" then [Bytes.ofText r.head.host]
      else r.head.headers.getAll name := by
  obtain ⟨_, _, _, hk⟩ := ofIncoming_eq_ok h
  rw [getAll_keepHost hk]
  cases capturing with
  | false => rfl
  | true =>
    simp only [if_true, Http.Headers.stripValidators, Http.Headers.getAll_removeIf, hname,
      Bool.false_eq_true, if_false]

/-- A request as it is handed on to an endpoint. Its headers are those of the client, each with its
values in order, but for the host and for the validators while a response is captured. -/
structure Carries (o : Outgoing) (r : Request.Incoming) (e : Endpoint) (capturing : Bool) :
    Prop where
  method : o.method = r.head.method
  body : o.body = r.body
  version : o.version = .http11
  authority : o.authority = e.text
  pathAndQuery : o.pathAndQuery = r.head.uri.pathAndQuery?.getD "/"
  host : r.head.host ≠ "" → o.headers.getAll "host" = [Bytes.ofText r.head.host]
  validators : ∀ name ∈ Http.validatorNames,
    o.headers.getAll name = if capturing then [] else r.head.headers.getAll name
  others : ∀ name, name ∉ Http.validatorNames → (name = "host" → r.head.host = "") →
    o.headers.getAll name = r.head.headers.getAll name

theorem carries_of_ofIncoming {r : Request.Incoming} {e : Endpoint} {capturing : Bool}
    {o : Outgoing} (h : ofIncoming r e capturing = .ok o) : o.Carries r e capturing := by
  obtain ⟨hauthority, hk, hmethod, hpath, hbody, hversion⟩ := ofIncoming_eq_ok_iff.1 h
  refine ⟨hmethod, hbody, hversion, (Http.Uri.isAuthority_of_authority? hauthority).1, hpath, ?_, ?_, ?_⟩
  · intro hhost
    rw [getAll_ofIncoming h (by decide), if_pos ⟨rfl, hhost⟩]
  · intro name hname
    have hother : name ≠ "host" := by
      rintro rfl
      exact absurd hname (by decide)
    rw [getAll_keepHost hk, if_neg fun heq => hother heq.1]
    cases capturing with
    | false => rfl
    | true => simp [Http.Headers.stripValidators, Http.Headers.getAll_removeIf, hname]
  · intro name hname hkept
    rw [getAll_ofIncoming h (by simpa using hname), if_neg fun heq => heq.2 (hkept heq.1)]

end ReverseProxy.Forward.Outgoing
