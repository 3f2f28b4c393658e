import ReverseProxy.Proofs.Cache.Dates
import ReverseProxy.Proofs.Cache.History
import ReverseProxy.Proofs.Forward.Recording

set_option autoImplicit false

namespace ReverseProxy.Cache
open Http.Date (Instant)

def Event.claims (e : Event) (id : Nat) : Bool :=
  match e.op with
  | .capture i _ _ | .commit i | .abort i => i == id
  | _ => false

/-- In a session the capture under `id` was opened at `began` for a request, and it took the head
that is given, if one is. -/
inductive Origin (p : Policy) (id : Nat) (key : Key) (request : Http.Headers) (began : Instant) :
    List Event → Option (Http.Status × Http.Headers) → Prop where
  | opens (es : List Event) :
    Origin p id key request began (es ++ [⟨began, .capture id key request⟩]) none
  | answers (es : List Event) (now : Instant) (status : Http.Status) (headers : Http.Headers)
      (a c : Capture) (origin : Origin p id key request began es none)
      (underWay : ((Session.start p).run es).captures id = some a)
      (awaits : a.state = .awaitingHead) (takes : a.onHead? status headers = some c)
      (records : c.isRecording = true) :
    Origin p id key request began (es ++ [⟨now, .head id status headers⟩]) (some (status, headers))
  | goesOn (es : List Event) (e : Event) (head : Option (Http.Status × Http.Headers))
      (origin : Origin p id key request began es head) (others : e.claims id = false) :
    Origin p id key request began (es ++ [e]) head

/-- The commit of a capture for `request`, which began at `began` and took the head of `status` and
`headers`, put an entry in. -/
def Live.Stems (l : Live) (p : Policy) (es : List Event) (request : Http.Headers) (began : Instant)
    (status : Http.Status) (headers : Http.Headers) : Prop :=
  ∃ before now after id c e, es = before ++ ⟨now, .commit id⟩ :: after ∧
    ((Session.start p).run before).captures id = some c ∧
    Origin p id l.key request began before (some (status, headers)) ∧
    c.Leaves now e ∧ l.entry.unused = e.unused

/-- What an entry has to meet to be let in. -/
structure Live.Admitted (l : Live) (p : Policy) (request : Http.Headers) (began : Instant)
    (status : Http.Status) (headers : Http.Headers) : Prop where
  method : l.key.method = "GET"
  success : Http.Status.isSuccess status = true ∧ status ≠ 206
  status : l.entry.status = status
  directives : (Directives.ofHeaders headers).forbidsStorage = false
  vary : ∀ v ∈ headers.getAll "vary", ∃ s, Bytes.text? v = some s ∧
    ∀ name ∈ (Text.splitOn ',' s).map Text.trim, name ≠ "" →
      Text.equalsIgnoringCase name "accept-encoding" = true
  headers : l.entry.headers = storableHeaders headers
  bare : ∀ name, name ∈ ["etag", "accept-ranges", "expires", "content-length"] ∨
    name ∈ Http.hopByHopNames → l.entry.headers.getAll name = []
  body : l.entry.bodyLength ≤ p.maxFileSize
  expires : 0 < p.defaultTtlMs → began < l.entry.expires
  declared : l.key.secure = true → p.disableSecureWithoutPublic = true →
    (Directives.ofHeaders request).isPublic = true

theorem varyIsKeyed_iff {h : Http.Headers} : varyIsKeyed h = true ↔
    ∀ v ∈ h.getAll "vary", ∃ s, Bytes.text? v = some s ∧
      ∀ name ∈ (Text.splitOn ',' s).map Text.trim, name ≠ "" →
        Text.equalsIgnoringCase name "accept-encoding" = true := by
  unfold varyIsKeyed
  rw [List.all_eq_true]
  refine forall₂_congr fun v _ => ?_
  cases Bytes.text? v with
  | none => simp
  | some s => simp [or_iff_not_imp_left]

namespace Capture

theorem headRejection?_eq_none_iff {c : Capture} {status : Http.Status} {h : Http.Headers} :
    c.headRejection? status h = none ↔ (Http.Status.isSuccess status = true ∧ status ≠ 206) ∧
      (Directives.ofHeaders h).forbidsStorage = false ∧ varyIsKeyed h = true ∧
      (declaredLength? h).any (c.maxFileSize < ·) = false := by
  unfold headRejection?
  cases Http.Status.isSuccess status <;> by_cases hpartial : status = 206 <;>
    cases (Directives.ofHeaders h).forbidsStorage <;> cases varyIsKeyed h <;>
      cases (declaredLength? h).any (c.maxFileSize < ·) <;> simp [hpartial]

theorem onHead?_cases {c d : Capture} {status : Http.Status} {h : Http.Headers}
    (hd : c.onHead? status h = some d) :
    (c.state ≠ .awaitingHead ∧ d = c) ∨ (c.state = .awaitingHead ∧ ∃ why, d = c.reject why) ∨
    (c.state = .awaitingHead ∧ c.headRejection? status h = none ∧
      ∃ expires text synthesized, c.expiry h = .at expires text synthesized ∧
        d = { c with state := .recording ⟨status, storableHeaders h, expires, text, synthesized,
          lastModified? h⟩ {} }) := by
  unfold onHead? at hd
  cases hstate : c.state with
  | recording | rejected =>
    rw [hstate] at hd
    exact .inl ⟨nofun, (Option.some.inj hd).symm⟩
  | awaitingHead =>
    rw [hstate] at hd
    dsimp only at hd
    split at hd
    · exact .inr (.inl ⟨rfl, _, (Option.some.inj hd).symm⟩)
    · next hnone =>
      split at hd
      · next expires text synthesized hexpiry =>
        exact .inr (.inr ⟨rfl, hnone, expires, text, synthesized, hexpiry,
          (Option.some.inj hd).symm⟩)
      · exact .inr (.inl ⟨rfl, _, (Option.some.inj hd).symm⟩)
      · cases hd

theorem onChunk_cases (c : Capture) (data : Bytes) :
    c.onChunk data = c ∨ (∃ why, c.onChunk data = c.reject why) ∨
    ∃ head body, c.state = .recording head body ∧
      body.heapBytes + body.directBytes + data.length ≤ c.maxFileSize ∧
      c.onChunk data = { c with state := .recording head (body.push data) } := by
  unfold onChunk
  split
  · next head body hstate =>
    split
    · exact .inl rfl
    · split
      · exact .inr (.inl ⟨_, rfl⟩)
      · next hfits => exact .inr (.inr ⟨head, body, hstate, Nat.not_lt.1 hfits, rfl⟩)
  · exact .inl rfl

theorem expiry_later {c : Capture} {h : Http.Headers} {expires : Instant} {text : Bytes}
    {synthesized : Bool} (he : c.expiry h = .at expires text synthesized)
    (hlife : 0 < c.defaultTtlMs) : c.started < expires := by
  unfold expiry at he
  split at he
  · split at he
    · split at he
      · next hlater =>
        cases he
        exact hlater
      · cases he
    · cases he
  · dsimp only at he
    split at he
    · cases he
      exact Int.lt_add_of_pos_right _ (Int.natCast_pos.2 hlife)
    · cases he

theorem beginCapture_declared {s : Store} {key : Key} {request : Http.Headers} {now : Instant}
    {c : Capture} (h : s.beginCapture key request now = some c) :
    key.method = "GET" ∧ (key.secure = true → s.policy.disableSecureWithoutPublic = true →
      (Directives.ofHeaders request).isPublic = true) := by
  unfold Store.beginCapture at h
  dsimp only at h
  split at h
  · cases h
  · next hget =>
    split at h
    · cases h
    · next hdeclared =>
      simp only [Bool.or_eq_true, bne_iff_ne, not_or, not_not] at hget
      refine ⟨hget.2, fun hsecure hdisable => ?_⟩
      simpa [hsecure, hdisable] using hdeclared

structure Opened (c : Capture) (p : Policy) (request : Http.Headers) : Prop where
  method : c.key.method = "GET"
  declared : c.key.secure = true → p.disableSecureWithoutPublic = true →
    (Directives.ofHeaders request).isPublic = true
  limit : c.maxFileSize = p.maxFileSize
  lifetime : c.defaultTtlMs = p.defaultTtlMs

structure Keeps (c : Capture) (status : Http.Status) (headers : Http.Headers)
    (head : CapturedHead) (body : CapturedBody) : Prop where
  accepted : c.headRejection? status headers = none
  status : head.status = status
  headers : head.headers = storableHeaders headers
  expires : 0 < c.defaultTtlMs → c.started < head.expires
  counted : body.chunks.flatten.length = body.heapBytes + body.directBytes
  fits : body.heapBytes + body.directBytes ≤ c.maxFileSize

theorem Keeps.push {c : Capture} {status : Http.Status} {headers : Http.Headers}
    {head : CapturedHead} {body : CapturedBody} (h : c.Keeps status headers head body)
    {data : Bytes} (hfits : body.heapBytes + body.directBytes + data.length ≤ c.maxFileSize) :
    c.Keeps status headers head (body.push data) := by
  have hflatten : (body.push data).chunks.flatten = body.chunks.flatten ++ data := by
    simp [CapturedBody.push]
  refine ⟨h.accepted, h.status, h.headers, h.expires, ?_, ?_⟩
  · rw [hflatten, List.length_append, h.counted, body.push_bytes]
  · rw [body.push_bytes]
    exact hfits

/-- What a capture that is open in a session goes back to. -/
structure Sourced (c : Capture) (p : Policy) (id : Nat) (es : List Event)
    (request : Http.Headers) : Prop where
  opened : c.Opened p request
  awaits : c.state = .awaitingHead → Origin p id c.key request c.started es none
  records : ∀ head body, c.state = .recording head body → ∃ status headers,
    Origin p id c.key request c.started es (some (status, headers)) ∧
      c.Keeps status headers head body

section
variable {c : Capture} {p : Policy} {id : Nat} {es : List Event} {request : Http.Headers}

theorem Sourced.goesOn (h : c.Sourced p id es request) {e : Event} (he : e.claims id = false) :
    c.Sourced p id (es ++ [e]) request where
  opened := h.opened
  awaits hstate := .goesOn es e none (h.awaits hstate) he
  records head body hstate := by
    obtain ⟨status, headers, horigin, hkeeps⟩ := h.records head body hstate
    exact ⟨status, headers, .goesOn es e _ horigin he, hkeeps⟩

theorem sourced_opened (id : Nat) (es : List Event) {key : Key} {now : Instant} {s : Store}
    (h : s.beginCapture key request now = some c) :
    c.Sourced s.policy id (es ++ [⟨now, .capture id key request⟩]) request := by
  obtain ⟨hmethod, hdeclared⟩ := beginCapture_declared h
  rw [beginCapture_eq h]
  exact ⟨⟨hmethod, hdeclared, rfl, rfl⟩, fun _ => .opens es, nofun⟩

theorem Sourced.onHead (h : c.Sourced p id es request)
    (hc : ((Session.start p).run es).captures id = some c) (now : Instant) (status : Http.Status)
    (headers : Http.Headers) :
    ((c.onHead? status headers).getD c).Sourced p id (es ++ [⟨now, .head id status headers⟩])
      request := by
  have hsame : c.Sourced p id (es ++ [⟨now, .head id status headers⟩]) request := h.goesOn rfl
  cases hd : c.onHead? status headers with
  | none => exact hsame
  | some d =>
    rcases onHead?_cases hd with ⟨_, rfl⟩ | ⟨_, why, rfl⟩ |
      ⟨hawaits, hnone, expires, text, synthesized, hexpiry, rfl⟩
    · exact hsame
    · exact ⟨⟨h.opened.method, h.opened.declared, h.opened.limit, h.opened.lifetime⟩, nofun, nofun⟩
    · refine ⟨⟨h.opened.method, h.opened.declared, h.opened.limit, h.opened.lifetime⟩, nofun,
        fun head body hstate => ⟨status, headers, ?_, ?_⟩⟩
      · exact .answers es now status headers c _ (h.awaits hawaits) hc hawaits hd rfl
      · cases hstate
        exact ⟨hnone, rfl, rfl, expiry_later hexpiry, rfl, Nat.zero_le _⟩

theorem Sourced.onChunk (h : c.Sourced p id es request) (now : Instant) (data : Bytes) :
    (c.onChunk data).Sourced p id (es ++ [⟨now, .chunk id data⟩]) request := by
  have hsame : c.Sourced p id (es ++ [⟨now, .chunk id data⟩]) request := h.goesOn rfl
  rcases c.onChunk_cases data with heq | ⟨why, heq⟩ | ⟨head, body, hstate, hfits, heq⟩ <;> rw [heq]
  · exact hsame
  · exact ⟨⟨h.opened.method, h.opened.declared, h.opened.limit, h.opened.lifetime⟩, nofun, nofun⟩
  · refine ⟨⟨h.opened.method, h.opened.declared, h.opened.limit, h.opened.lifetime⟩, nofun,
      fun head' body' hstate' => ?_⟩
    cases hstate'
    obtain ⟨status, headers, horigin, hkeeps⟩ := hsame.records head body hstate
    have hpushed := hkeeps.push hfits
    exact ⟨status, headers, horigin, hpushed.accepted, hpushed.status, hpushed.headers,
      hpushed.expires, hpushed.counted, hpushed.fits⟩

theorem Sourced.admitted (h : c.Sourced p id es request) {l : Live} {now : Instant}
    (hkey : c.key = l.key) (hl : c.finished? now = some l.entry) : ∃ status headers,
      Origin p id l.key request c.started es (some (status, headers)) ∧
        l.Admitted p request c.started status headers := by
  obtain ⟨head, body, hstate, hentry⟩ := finished?_eq_some_iff.1 hl
  obtain ⟨status, headers, horigin, hkeeps⟩ := h.records head body hstate
  obtain ⟨hsuccess, hdirectives, hvary, _⟩ := headRejection?_eq_none_iff.1 hkeeps.accepted
  have hstored : l.entry.headers = storableHeaders headers := by
    rw [hentry]
    exact hkeeps.headers
  refine ⟨status, headers, hkey ▸ horigin, hkey ▸ h.opened.method, hsuccess, ?_, hdirectives,
    varyIsKeyed_iff.1 hvary, hstored, fun name hname => ?_, ?_, fun hlife => ?_, fun hsecure => ?_⟩
  · rw [hentry]
    exact hkeeps.status
  · have hvolatile : isVolatile name = true := by
      simpa [isVolatile, Http.isHopByHop] using hname
    rw [hstored, getAll_storableHeaders, if_pos hvolatile]
  · have hlength : l.entry.bodyLength = body.heapBytes + body.directBytes := by
      rw [hentry]
      exact hkeeps.counted
    rw [hlength, ← h.opened.limit]
    exact hkeeps.fits
  · rw [hentry]
    exact hkeeps.expires (h.opened.lifetime ▸ hlife)
  · exact h.opened.declared (hkey ▸ hsecure)

end

end Capture

theorem Live.Stems.goesOn {l : Live} {p : Policy} {es : List Event} {request : Http.Headers}
    {began : Instant} {status : Http.Status} {headers : Http.Headers}
    (h : l.Stems p es request began status headers) (e : Event) :
    l.Stems p (es ++ [e]) request began status headers := by
  obtain ⟨before, now, after, id, c, entry, rfl, hc⟩ := h
  exact ⟨before, now, after ++ [e], id, c, entry, by simp, hc⟩

namespace Session

/-- Everything in a session under a policy goes back to events of it. -/
structure Traced (s : Session) (p : Policy) (es : List Event) : Prop where
  policy : s.store.policy = p
  captures : ∀ id c, s.captures id = some c → ∃ request, c.Sourced p id es request
  entries : ∀ l ∈ s.store.live, ∃ request began status headers,
    l.Stems p es request began status headers ∧ l.Admitted p request began status headers

theorem step_claimed {s : Session} {e : Event} {id : Nat} (hclaims : e.claims id = true)
    {c : Capture} (hc : (s.step e).captures id = some c) :
    ∃ key request, e.op = .capture id key request ∧
      s.store.beginCapture key request e.now = some c := by
  cases ho : e.op with
  | head | chunk | lookup | sweep => simp [Event.claims, ho] at hclaims
  | capture i key request =>
    obtain rfl : i = id := by simpa [Event.claims, ho] using hclaims
    simp only [step, ho, setCapture, if_true] at hc
    exact ⟨key, request, rfl, hc⟩
  | abort i =>
    obtain rfl : i = id := by simpa [Event.claims, ho] using hclaims
    simp [step, ho, setCapture] at hc
  | commit i =>
    obtain rfl : i = id := by simpa [Event.claims, ho] using hclaims
    simp only [step, ho] at hc
    split at hc
    · simp [setCapture] at hc
    · next hnone =>
      rw [hnone] at hc
      cases hc

section
variable {p : Policy} {es : List Event} (h : ((start p).run es).Traced p es) (e : Event)

include h

theorem step_captures_sourced (id : Nat) (c : Capture)
    (hc : (((start p).run es).step e).captures id = some c) :
    ∃ request, c.Sourced p id (es ++ [e]) request := by
  obtain ⟨now, op⟩ := e
  by_cases hclaims : Event.claims ⟨now, op⟩ id = true
  · obtain ⟨key, request, rfl, hb⟩ := step_claimed hclaims hc
    have hopened := Capture.sourced_opened id es hb
    rw [h.policy] at hopened
    exact ⟨request, hopened⟩
  · rw [Bool.not_eq_true] at hclaims
    rcases step_capture hc with hc | ⟨key, request, rfl, _⟩ | ⟨a, status, headers, rfl, ha, rfl⟩ |
      ⟨a, data, rfl, ha, rfl⟩
    · obtain ⟨request, hsourced⟩ := h.captures id c hc
      exact ⟨request, hsourced.goesOn hclaims⟩
    · simp [Event.claims] at hclaims
    · obtain ⟨request, hsourced⟩ := h.captures id a ha
      exact ⟨request, hsourced.onHead ha now status headers⟩
    · obtain ⟨request, hsourced⟩ := h.captures id a ha
      exact ⟨request, hsourced.onChunk now data⟩

theorem step_entries_admitted (l : Live) (hl : l ∈ (((start p).run es).step e).store.live) :
    ∃ request began status headers, l.Stems p (es ++ [e]) request began status headers ∧
      l.Admitted p request began status headers := by
  rcases step_live (run_balanced p es).distinct hl with ⟨a, ha, rfl | rfl⟩ |
    ⟨id, c, ho, hc, hkey, hf⟩
  · obtain ⟨request, began, status, headers, hstems, hadmitted⟩ := h.entries l ha
    exact ⟨request, began, status, headers, hstems.goesOn e, hadmitted⟩
  · -- The time of its last use is all that a look-up changes of an entry.
    obtain ⟨request, began, status, headers, hstems, hadmitted⟩ := h.entries a ha
    exact ⟨request, began, status, headers, hstems.goesOn e, hadmitted.method, hadmitted.success,
      hadmitted.status, hadmitted.directives, hadmitted.vary, hadmitted.headers, hadmitted.bare,
      hadmitted.body, hadmitted.expires, hadmitted.declared⟩
  · obtain ⟨now, op⟩ := e
    obtain rfl : op = .commit id := ho
    obtain ⟨request, hsourced⟩ := h.captures id c hc
    obtain ⟨status, headers, horigin, hadmitted⟩ := hsourced.admitted hkey hf
    exact ⟨request, c.started, status, headers, ⟨es, now, [], id, c, l.entry, rfl, hc, horigin,
      Capture.finished?_eq_some_iff.1 hf, rfl⟩, hadmitted⟩

theorem step_traced : (((start p).run es).step e).Traced p (es ++ [e]) where
  policy := (step_policy (run_balanced p es).distinct e).trans h.policy
  captures := step_captures_sourced h e
  entries := step_entries_admitted h e

end

theorem run_traced (p : Policy) (es : List Event) : ((start p).run es).Traced p es := by
  induction es using List.reverseRecOn with
  | nil => exact ⟨rfl, nofun, by simp [start, run]⟩
  | append_singleton es e ih =>
    rw [run_concat]
    exact step_traced ih e

/-- In every state of every session, whatever is done to captures in whatever order, each live entry
was put in by a commit of a capture that a request opened and that took the head of a response, and
it meets all that is asked of the request, of the head and of the body. -/
theorem admitted_of_live (p : Policy) (es : List Event) (l : Live)
    (hl : l ∈ ((start p).run es).store.live) :
    ∃ request began status headers, l.Stems p es request began status headers ∧
      l.Admitted p request began status headers :=
  (run_traced p es).entries l hl

theorem admitted_of_live_secure :
    let p : Policy := ⟨true, 100, 100, true, 1000, 1000⟩
    let key : Key := ⟨"GET", true, "site.test", "/", ""⟩
    let s := (start p).run [
      ⟨5, .capture 7 key (.append .empty "cache-control" (Bytes.ofText "public"))⟩,
      ⟨6, .head 7 200 (.append .empty "vary" (Bytes.ofText "Accept-Encoding"))⟩,
      ⟨7, .chunk 7 [104, 105]⟩, ⟨8, .commit 7⟩]
    ∃ l, s.store.find? key = some l ∧ l.entry.bodyLength ≤ 100 ∧
      ∃ request began, (Directives.ofHeaders request).isPublic = true ∧
        began < l.entry.expires := by
  intro p key s
  have hfound : (s.store.find? key).isSome = true := by decide +kernel
  obtain ⟨l, hl⟩ := Option.isSome_iff_exists.1 hfound
  obtain ⟨hlive, hkey⟩ := (Store.find?_eq_some_iff (run_balanced p _).distinct).1 hl
  obtain ⟨request, began, status, headers, _, hadmitted⟩ := admitted_of_live p _ l hlive
  have hsecure : l.key.secure = true := by rw [hkey]
  exact ⟨l, hl, hadmitted.body, request, began, hadmitted.declared hsecure rfl,
    hadmitted.expires (by decide)⟩

end Session
end ReverseProxy.Cache
