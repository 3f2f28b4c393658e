import ReverseProxy.Proofs.Cache.Replay
import ReverseProxy.Proofs.Http.RoundTrip

set_option autoImplicit false

namespace ReverseProxy.Cache
open Http.Date (Instant calendarStart calendarEnd format? ofValue? wholeSeconds)

/-- An entry that was made from an acceptable head. Its expiry is told in whole seconds, and without
a date of its own it counts as changed when it was stored. -/
structure Entry.Genuine (e : Entry) : Prop where
  status : Http.Status.isSuccess e.status = true
  created : 0 ≤ e.created
  lastModified : e.lastModified = (Capture.lastModified? e.headers).getD e.created
  expires : ∃ told, ofValue? e.expiresHeader = some told ∧ told ≤ e.expires ∧
    e.expires < told + 1000

namespace Capture
variable {k c : Capture} {status : Http.Status} {headers : Http.Headers} {data : List Bytes}
  {now expires : Instant} {text : Bytes} {synthesized : Bool} {e : Entry}

theorem floor_bounds (t : Int) : t / 1000 * 1000 ≤ t ∧ t < t / 1000 * 1000 + 1000 := by
  omega

theorem ofValue?_expiry (h : k.expiry headers = .at expires text synthesized) :
    ofValue? text = some (if synthesized then expires / 1000 * 1000 else expires) := by
  unfold expiry at h
  split at h
  · split at h
    · next hread =>
      split at h
      · cases h
        exact hread
      · cases h
    · cases h
  · dsimp only at h
    split at h
    · next s hs =>
      cases h
      obtain ⟨hstart, hend⟩ := Http.Date.format?_isSome_iff.1 (Option.isSome_of_eq_some hs)
      obtain ⟨s', hs', hread⟩ := Http.Date.ofValue?_format? hstart hend
      rw [hs] at hs'
      cases hs'
      exact hread
    · cases h

section
variable (hawaits : k.state = .awaitingHead) (hhead : k.onHead? status headers = some c)
  (he : (data.foldl onChunk c).finished? now = some e)
include hawaits hhead he

theorem ofValue?_expiresHeader : ofValue? e.expiresHeader =
    some (if headers.get? "expires" = none then e.expires / 1000 * 1000 else e.expires) := by
  obtain ⟨head, body, hstate, rfl⟩ := finished?_eq_some_iff.1 he
  obtain ⟨_, expires, text, synthesized, hexpiry, _, rfl⟩ :=
    head_of_finished hawaits hhead hstate
  have hshown := expiry_shown hexpiry
  dsimp only
  rw [ofValue?_expiry hexpiry]
  cases synthesized with
  | true => exact congrArg some (if_pos hshown).symm
  | false => exact congrArg some (if_neg (hshown ▸ Option.some_ne_none text)).symm

theorem genuine_of_finished (hnow : 0 ≤ now) : e.Genuine := by
  have hread := ofValue?_expiresHeader hawaits hhead he
  obtain ⟨head, body, hstate, rfl⟩ := finished?_eq_some_iff.1 he
  obtain ⟨hallowed, expires, text, synthesized, _, _, rfl⟩ :=
    head_of_finished hawaits hhead hstate
  refine ⟨(headRejection?_eq_none_iff.1 hallowed).1.1, hnow, ?_, _, hread, ?_⟩
  · rw [lastModified?_storableHeaders]
  · split
    · exact floor_bounds expires
    · exact ⟨Int.le_refl expires, Int.lt_add_of_pos_right expires (by decide)⟩

end

end Capture

namespace Entry
variable {e e' : Entry} {since : Option Instant} {r : Http.Response}

theorem eq_of_unused (h : e'.unused = e.unused) :
    e' = { e with lastAccessMs := e'.lastAccessMs } := by
  cases e
  cases e'
  cases h
  rfl

theorem Genuine.congr (h : e.Genuine) (hsame : e'.unused = e.unused) : e'.Genuine := by
  rw [eq_of_unused hsame]
  exact ⟨h.status, h.created, h.lastModified, h.expires⟩

def confirms (e : Entry) (modified : String) (origin : Bytes) (name : String) : List Bytes :=
  if name = originHeader then [origin]
  else if name = "expires" then [e.expiresHeader]
  else if name = "last-modified" then [Bytes.ofText modified]
  else []

theorem notModifiedResponse?_eq_some (h : e.notModifiedResponse? = some r) : r.status = 304 ∧
    r.body = [] ∧ ∃ modified origin, format? e.lastModified = some modified ∧
      e.origin? = some origin ∧ ∀ name, r.headers.getAll name = e.confirms modified origin name := by
  unfold notModifiedResponse? at h
  obtain ⟨modified, hmodified, h⟩ := Option.bind_eq_some_iff.1 h
  obtain ⟨origin, horigin, hr⟩ := Option.bind_eq_some_iff.1 h
  cases hr
  refine ⟨rfl, rfl, modified, origin, hmodified, horigin, fun name => ?_⟩
  have hlast : "last-modified" = name ↔ name = "last-modified" := eq_comm
  have hexpires : "expires" = name ↔ name = "expires" := eq_comm
  have hmark : originHeader = name ↔ name = originHeader := eq_comm
  simp only [Http.Headers.getAll_insert, hlast, hexpires, hmark]
  rfl

theorem get?_expires (h : e.response? since = some r) :
    r.headers.get? "expires" = some e.expiresHeader := by
  unfold Http.Headers.get?
  unfold response? at h
  split at h
  · obtain ⟨_, _, modified, origin, _, _, hfields⟩ := notModifiedResponse?_eq_some h
    rw [hfields]
    rfl
  · obtain ⟨_, _, origin, _, hfields⟩ := fullResponse?_eq_some h
    rw [hfields]
    rfl

theorem getAll_originHeader (h : e.response? since = some r) :
    ∃ origin, e.origin? = some origin ∧ r.headers.getAll originHeader = [origin] := by
  unfold response? at h
  split at h
  · obtain ⟨_, _, modified, origin, _, horigin, hfields⟩ := notModifiedResponse?_eq_some h
    exact ⟨origin, horigin, hfields originHeader⟩
  · obtain ⟨_, _, origin, horigin, hfields⟩ := fullResponse?_eq_some h
    exact ⟨origin, horigin, hfields originHeader⟩

/-- A client that names this date has the entry already. Times before 1970 count as its start. -/
def KnownSince (e : Entry) (since : Option Instant) : Prop :=
  ∃ t, since = some t ∧ wholeSeconds e.lastModified ≤ wholeSeconds t

/-- The answer to a client that names the date `since`, if it names one. -/
structure Answers (e : Entry) (since : Option Instant) (r : Http.Response) : Prop where
  status : r.status = 304 ↔ e.KnownSince since
  known : e.KnownSince since → r.body = [] ∧ ∃ modified origin,
    format? e.lastModified = some modified ∧ e.origin? = some origin ∧
      ∀ name, r.headers.getAll name = e.confirms modified origin name
  changed : ¬e.KnownSince since → r.status = e.status ∧ r.body = e.body ∧
    ∃ origin, e.origin? = some origin ∧ ∀ name, r.headers.getAll name = e.replays origin name

theorem knownSince_iff : e.KnownSince since ↔ since.any e.notModifiedSince = true := by
  unfold KnownSince notModifiedSince
  cases since <;> simp

theorem Genuine.response?_eq_none_iff (h : e.Genuine) : e.response? since = none ↔
    calendarEnd ≤ e.created ∨ e.KnownSince since ∧
      Capture.lastModified? e.headers = some calendarEnd := by
  rw [knownSince_iff]
  have hdate := Http.Date.format?_after h.created
  by_cases hcreated : format? e.created = none
  · refine iff_of_true ?_ (.inl (hdate.1 hcreated))
    unfold response? notModifiedResponse? fullResponse? origin?
    rw [hcreated]
    split
    · cases format? e.lastModified <;> rfl
    · rfl
  · rw [response?_eq_none hcreated h.lastModified, or_iff_right (mt hdate.2 hcreated)]

theorem Genuine.answers (h : e.Genuine) (hr : e.response? since = some r) :
    e.Answers since r := by
  unfold response? at hr
  split at hr
  · next hknown =>
    have hknown := knownSince_iff.2 hknown
    obtain ⟨hstatus, hbody, hfields⟩ := notModifiedResponse?_eq_some hr
    exact ⟨iff_of_true hstatus hknown, fun _ => ⟨hbody, hfields⟩, absurd hknown⟩
  · next hchanged =>
    have hchanged := mt knownSince_iff.1 hchanged
    obtain ⟨hstatus, hbody, hfields⟩ := fullResponse?_eq_some hr
    have hother : r.status ≠ 304 := by
      intro heq
      have hsuccess := h.status
      rw [← hstatus, heq] at hsuccess
      cases hsuccess
    exact ⟨iff_of_false hother hchanged, fun hknown => absurd hknown hchanged,
      fun _ => ⟨hstatus, hbody, hfields⟩⟩

theorem wholeSeconds_floor (t : Int) : wholeSeconds (t / 1000 * 1000) = wholeSeconds t := by
  unfold wholeSeconds
  omega

theorem Genuine.knownSince (h : e.Genuine) (hr : e.response? since = some r) {v : Bytes}
    {t : Instant} (hv : r.headers.get? "last-modified" = some v) (ht : ofValue? v = some t) :
    e.KnownSince (some t) := by
  refine ⟨t, rfl, ?_⟩
  unfold Http.Headers.get? at hv
  unfold response? at hr
  split at hr
  · -- The date was written here, so that it has lost less than a second.
    obtain ⟨_, _, modified, origin, hmodified, _, hfields⟩ := notModifiedResponse?_eq_some hr
    rw [hfields] at hv
    cases hv
    obtain ⟨hstart, hend⟩ := Http.Date.format?_isSome_iff.1 (Option.isSome_of_eq_some hmodified)
    obtain ⟨text, htext, hread⟩ := Http.Date.ofValue?_format? hstart hend
    rw [hmodified] at htext
    cases htext
    rw [hread] at ht
    cases ht
    rw [wholeSeconds_floor]
  · -- The date is the one that the head came with.
    obtain ⟨_, _, origin, _, hfields⟩ := fullResponse?_eq_some hr
    rw [hfields] at hv
    have hnamed : Capture.lastModified? e.headers = some t := by
      unfold Capture.lastModified? Http.Headers.text? Http.Headers.get?
      have hkept : (e.headers.getAll "last-modified").head? = some v := hv
      rw [hkept]
      exact ht
    rw [h.lastModified, hnamed]
    exact Nat.le_refl _

end Entry
end ReverseProxy.Cache
