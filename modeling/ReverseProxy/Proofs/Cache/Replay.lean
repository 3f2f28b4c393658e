import ReverseProxy.Proofs.Cache.Admission

set_option autoImplicit false

namespace ReverseProxy.Cache
open Http.Date (Instant calendarStart calendarEnd)

/-- The entry stands for the response with that head and body, which was stored at `now`. -/
structure Entry.StandsFor (e : Entry) (status : Http.Status) (headers : Http.Headers)
    (body : Bytes) (now : Instant) : Prop where
  status : e.status = status
  fields : e.headers = storableHeaders headers
  body : e.body = body
  created : e.created = now
  expires : e.expires ≤ calendarEnd

namespace Capture

section
variable {k c d : Capture} {status : Http.Status} {headers : Http.Headers} {head : CapturedHead}
  {body : CapturedBody} {data : List Bytes} {now : Instant} {e : Entry}

theorem head_foldl (h : (data.foldl onChunk c).state = .recording head body) :
    ∃ first, c.state = .recording head first := by
  induction data generalizing c with
  | nil => exact ⟨body, h⟩
  | cons chunk data ih =>
    obtain ⟨first, hfirst⟩ := ih h
    rcases c.onChunk_cases chunk with hsame | ⟨why, hreject⟩ | ⟨head', body', hstate, _, hpush⟩
    · exact ⟨first, hsame ▸ hfirst⟩
    · rw [hreject] at hfirst
      cases hfirst
    · rw [hpush] at hfirst
      cases hfirst
      exact ⟨body', hstate⟩

theorem expiry_inside {expires : Instant} {text : Bytes} {synthesized : Bool}
    (h : c.expiry headers = .at expires text synthesized) : expires ≤ calendarEnd := by
  unfold expiry at h
  split at h
  · split at h
    · next t ht =>
      split at h
      · cases h
        obtain ⟨s, _, hparse⟩ := Option.bind_eq_some_iff.1 ht
        exact (Http.Date.parse?_bounds hparse).2
      · cases h
    · cases h
  · dsimp only at h
    split at h
    · next s hs =>
      cases h
      have hdate := Http.Date.format?_isSome_iff.1 (Option.isSome_of_eq_some hs)
      exact Int.le_of_lt hdate.2
    · cases h

theorem expiry_shown {expires : Instant} {text : Bytes} {synthesized : Bool}
    (h : c.expiry headers = .at expires text synthesized) :
    if synthesized then headers.get? "expires" = none else headers.get? "expires" = some text := by
  unfold expiry at h
  split at h
  · next value hvalue =>
    split at h
    · split at h
      · cases h
        exact hvalue
      · cases h
    · cases h
  · next hnone =>
    dsimp only at h
    split at h
    · cases h
      exact hnone
    · cases h

theorem head_of_finished (hawaits : k.state = .awaitingHead)
    (hhead : k.onHead? status headers = some c)
    (hstate : (data.foldl onChunk c).state = .recording head body) :
    k.headRejection? status headers = none ∧ ∃ expires text synthesized,
      k.expiry headers = .at expires text synthesized ∧ c = { k with state := .recording head {} } ∧
      head = ⟨status, storableHeaders headers, expires, text, synthesized,
        lastModified? headers⟩ := by
  obtain ⟨first, hfirst⟩ := head_foldl hstate
  rcases onHead?_cases hhead with ⟨hnot, _⟩ | ⟨_, why, hreject⟩ |
    ⟨_, hallowed, expires, text, synthesized, hexpiry, hc⟩
  · exact absurd hawaits hnot
  · rw [hreject] at hfirst
    cases hfirst
  · subst hc
    cases hfirst
    exact ⟨hallowed, expires, text, synthesized, hexpiry, rfl, rfl⟩

theorem standsFor_of_finished (hawaits : k.state = .awaitingHead)
    (hhead : k.onHead? status headers = some c)
    (he : (data.foldl onChunk c).finished? now = some e) :
    (data.foldl onChunk c).key = k.key ∧ e.StandsFor status headers data.flatten now ∧
      (c.synthesizedExpires?).or (headers.get? "expires") = some e.expiresHeader := by
  obtain ⟨head, body, hstate, rfl⟩ := finished?_eq_some_iff.1 he
  obtain ⟨_, expires, text, synthesized, hexpiry, hc, rfl⟩ := head_of_finished hawaits hhead hstate
  have haccepts : k.acceptsHead c = true := by
    unfold acceptsHead isActive
    rw [hawaits, hc]
    rfl
  have hrecorded := (recorded_of_acceptsHead hhead haccepts).foldl data
  rw [List.nil_append] at hrecorded
  have hbody : body.chunks.flatten = data.flatten := by
    rcases hrecorded.state with ⟨_, head', body', hstate', hbody, _⟩ | ⟨_, why, hreject⟩
    · rw [hstate] at hstate'
      cases hstate'
      exact hbody
    · rw [hstate] at hreject
      cases hreject
  refine ⟨hrecorded.key, ⟨rfl, rfl, hbody, rfl, expiry_inside hexpiry⟩, ?_⟩
  have hshown := expiry_shown hexpiry
  unfold synthesizedExpires?
  rw [hc]
  cases synthesized with
  | true => rfl
  | false => exact hshown

end

end Capture

namespace Entry

section
variable {e : Entry} {r : Http.Response} {status : Http.Status} {headers : Http.Headers}
  {body : Bytes} {now : Instant}

/-- The values that a full response from the cache has of a name. -/
def replays (e : Entry) (origin : Bytes) (name : String) : List Bytes :=
  if name = originHeader then [origin]
  else if name = "content-length" then [Bytes.ofText (Text.ofNat e.body.length)]
  else if name = "expires" then [e.expiresHeader]
  else e.headers.getAll name

theorem fullResponse?_eq_some (h : e.fullResponse? = some r) : r.status = e.status ∧
    r.body = e.body ∧ ∃ origin, e.origin? = some origin ∧
      ∀ name, r.headers.getAll name = e.replays origin name := by
  unfold fullResponse? at h
  obtain ⟨origin, horigin, hr⟩ := Option.bind_eq_some_iff.1 h
  cases hr
  refine ⟨rfl, rfl, origin, horigin, fun name => ?_⟩
  have hlength : "content-length" = name ↔ name = "content-length" := eq_comm
  have hexpires : "expires" = name ↔ name = "expires" := eq_comm
  have hmark : originHeader = name ↔ name = originHeader := eq_comm
  simp only [Http.Headers.getAll_insert, hlength, hexpires, hmark]
  rfl

theorem StandsFor.exists_fullResponse (h : e.StandsFor status headers body now) (hbegan : 0 ≤ now)
    (hinside : now < calendarEnd) : ∃ r, e.fullResponse? = some r := by
  have hdate : Http.Date.format? e.created ≠ none := by
    rw [h.created, ne_eq, Http.Date.format?_after hbegan]
    exact Int.not_le.2 hinside
  obtain ⟨date, hdate⟩ := Option.ne_none_iff_exists'.1 hdate
  unfold fullResponse? origin?
  rw [hdate]
  exact ⟨_, rfl⟩

end

end Entry
end ReverseProxy.Cache
