import ReverseProxy.Config.Validation
import ReverseProxy.Proofs.Cache.Session
import ReverseProxy.Proofs.Http.Dates

set_option autoImplicit false

namespace ReverseProxy.Cache
open Http.Date (Instant calendarStart calendarEnd)

def nextCentury : Int := 4102444800000

def InCentury (now : Int) : Prop := 0 ≤ now ∧ now < nextCentury

instance (now : Int) : Decidable (InCentury now) := inferInstanceAs (Decidable (_ ∧ _))

theorem InCentury.hasDate {now : Int} (h : InCentury now) : Http.Date.format? now ≠ none := by
  have hend : nextCentury ≤ calendarEnd := by decide
  rw [ne_eq, Http.Date.format?_after h.1]
  exact Int.not_le.2 (Int.lt_of_lt_of_le h.2 hend)

namespace Capture

theorem lastModified?_storableHeaders (h : Http.Headers) :
    lastModified? (storableHeaders h) = lastModified? h := by
  have hstays : isVolatile "last-modified" = false := by decide
  unfold lastModified? Http.Headers.text? Http.Headers.get?
  rw [getAll_storableHeaders, hstays, if_neg Bool.false_ne_true]

theorem expiry_eq_outOfCalendar_iff {c : Capture} (hc : 0 ≤ c.started) {h : Http.Headers} :
    c.expiry h = .outOfCalendar ↔
      h.get? "expires" = none ∧ calendarEnd ≤ c.started + c.defaultTtlMs := by
  have hlater : (0 : Int) ≤ c.started + c.defaultTtlMs :=
    Int.add_nonneg hc (Int.natCast_nonneg c.defaultTtlMs)
  unfold expiry
  cases hget : h.get? "expires" with
  | some value =>
    refine iff_of_false ?_ fun h => Option.some_ne_none value h.1
    dsimp only
    split
    · split <;> exact Expiry.noConfusion
    · exact Expiry.noConfusion
  | none =>
    rw [← Http.Date.format?_after hlater]
    dsimp only
    cases Http.Date.format? (c.started + c.defaultTtlMs) with
    | some s => simp
    | none => simp

theorem onHead?_eq_none_iff {c : Capture} (hc : 0 ≤ c.started) {status : Http.Status}
    {h : Http.Headers} : c.onHead? status h = none ↔
      c.state = .awaitingHead ∧ c.headRejection? status h = none ∧ h.get? "expires" = none ∧
        calendarEnd ≤ c.started + c.defaultTtlMs := by
  rw [← expiry_eq_outOfCalendar_iff hc]
  unfold onHead?
  cases hstate : c.state with
  | recording | rejected => simp
  | awaitingHead =>
    cases hreject : c.headRejection? status h with
    | some why => simp
    | none => cases hexpiry : c.expiry h <;> simp

theorem beginCapture_eq {s : Store} {key : Key} {request : Http.Headers} {now : Instant}
    {c : Capture} (h : s.beginCapture key request now = some c) : c = {
      key
      maxFileSize := s.policy.maxFileSize
      defaultTtlMs := s.policy.defaultTtlMs
      started := now } := by
  unfold Store.beginCapture at h
  dsimp only at h
  split at h
  · cases h
  · split at h
    · cases h
    · exact (Option.some.inj h).symm

theorem beginCapture_enabled {s : Store} {key : Key} {request : Http.Headers} {now : Instant}
    {c : Capture} (h : s.beginCapture key request now = some c) : s.policy.enabled = true := by
  unfold Store.beginCapture at h
  dsimp only at h
  split at h
  · cases h
  · next hopen =>
    simp only [Bool.or_eq_true, Bool.not_eq_true', not_or, Bool.not_eq_false] at hopen
    exact hopen.1

/-- A capture under a policy that began in the century and keeps what its head says. -/
structure Dated (c : Capture) (p : Policy) : Prop where
  started : InCentury c.started
  lifetime : c.defaultTtlMs = p.defaultTtlMs
  lastModified : ∀ head body, c.state = .recording head body →
    head.lastModified = lastModified? head.headers

variable {c : Capture} {p : Policy}

theorem dated_reject (h : c.Dated p) (why : Rejection) : (c.reject why).Dated p where
  started := h.started
  lifetime := h.lifetime
  lastModified := nofun

theorem Dated.onHead? {d : Capture} (h : c.Dated p) {status : Http.Status}
    {headers : Http.Headers} (hd : c.onHead? status headers = some d) : d.Dated p := by
  unfold Capture.onHead? at hd
  split at hd
  · split at hd
    · cases hd
      exact dated_reject h _
    · split at hd
      · cases hd
        refine ⟨h.started, h.lifetime, fun head body hs => ?_⟩
        cases hs
        exact (lastModified?_storableHeaders headers).symm
      · cases hd
        exact dated_reject h _
      · cases hd
  · cases hd
    exact h

theorem Dated.onChunk (h : c.Dated p) (data : Bytes) : (c.onChunk data).Dated p := by
  unfold Capture.onChunk
  split
  · next head body hs =>
    split
    · exact h
    · split
      · exact dated_reject h _
      · refine ⟨h.started, h.lifetime, fun head' body' hs' => ?_⟩
        cases hs'
        exact h.lastModified head body hs
  · exact h

end Capture

structure Entry.Dated (e : Entry) : Prop where
  created : InCentury e.created
  lastModified : e.lastModified = (Capture.lastModified? e.headers).getD e.created

theorem Capture.Dated.finished? {c : Capture} {p : Policy} (h : c.Dated p) {now : Instant}
    (hnow : InCentury now) {e : Entry} (he : c.finished? now = some e) : e.Dated := by
  unfold Capture.finished? at he
  split at he
  · next head body hs =>
    cases he
    refine ⟨hnow, ?_⟩
    rw [h.lastModified head body hs]
  · cases he

namespace Entry
variable {e : Entry}

section
variable (hcreated : Http.Date.format? e.created ≠ none)
  (hlast : e.lastModified = (Capture.lastModified? e.headers).getD e.created)
include hcreated hlast

theorem format?_lastModified : Http.Date.format? e.lastModified = none ↔
    Capture.lastModified? e.headers = some calendarEnd := by
  rw [hlast]
  cases hnamed : Capture.lastModified? e.headers with
  | none => exact iff_of_false hcreated nofun
  | some t =>
    obtain ⟨s, _, hparse⟩ := Option.bind_eq_some_iff.1 hnamed
    have hbounds := Http.Date.parse?_bounds hparse
    rw [Option.getD_some, Option.some.injEq, Http.Date.format?_eq_none_iff]
    change _ ↔ @Eq Int t calendarEnd
    omega

theorem response?_eq_none (since : Option Instant) : e.response? since = none ↔
    since.any e.notModifiedSince = true ∧
      Capture.lastModified? e.headers = some calendarEnd := by
  have horigin : e.origin? ≠ none := by
    unfold Entry.origin?
    rw [ne_eq, Option.map_eq_none_iff]
    exact hcreated
  obtain ⟨origin, horigin⟩ := Option.ne_none_iff_exists'.1 horigin
  rw [← format?_lastModified hcreated hlast]
  unfold Entry.response?
  split
  · next hsince =>
    rw [hsince, eq_self_iff_true, true_and]
    unfold notModifiedResponse?
    rw [horigin]
    cases Http.Date.format? e.lastModified <;> simp
  · next hsince =>
    refine iff_of_false ?_ fun h => hsince h.1
    unfold fullResponse?
    rw [horigin]
    simp

end

theorem Dated.response? (h : e.Dated) (since : Option Instant) : e.response? since = none ↔
    since.any e.notModifiedSince = true ∧
      Capture.lastModified? e.headers = some calendarEnd :=
  response?_eq_none h.created.hasDate h.lastModified since

end Entry

theorem Store.policy_commit (s : Store) (c : Capture) (now : Instant) :
    (s.commit c now).2.policy = s.policy := by
  rcases s.commit_cases c now with ⟨_, h⟩ | ⟨e, _, h⟩ <;> rw [h]
  rfl

theorem Store.policy_removeExact (s : Store) (key : Key) (serial : Nat) :
    (s.removeExact key serial).2.policy = s.policy := by
  unfold removeExact
  split <;> rfl

theorem Store.policy_lookup (s : Store) (key : Key) (now : Instant) :
    (s.lookup key now).2.policy = s.policy := by
  unfold lookup
  split
  · rfl
  · next l _ =>
    split
    · have hremoved := s.policy_removeExact key l.serial
      dsimp only
      split <;> exact hremoved
    · rfl

theorem Store.policy_sweep {s : Store} (hd : s.Distinct) (now : Instant) :
    (s.sweep now).2.policy = s.policy := by
  obtain ⟨n, m, t, u, ht, hu, _, h⟩ := sweep_cases hd now
  have hsame : u.policy = s.policy := hu.frame.1.trans ht.frame.1
  rw [h]
  split <;> exact hsame

namespace Session

/-- What a session under a policy holds that so far took place in the century. -/
structure Dated (s : Session) (p : Policy) : Prop where
  balanced : s.store.Balanced
  policy : s.store.policy = p
  captures : ∀ id c, s.captures id = some c → c.Dated p
  entries : ∀ l ∈ s.store.live, l.entry.Dated

variable {s : Session} {p : Policy}

theorem start_dated (p : Policy) : (start p).Dated p where
  balanced := start_balanced p
  policy := rfl
  captures := nofun
  entries := by simp [start]

theorem step_policy (hd : s.store.Distinct) (e : Event) :
    (s.step e).store.policy = s.store.policy := by
  rcases step_store s e with h | ⟨_, c, _, _, h⟩ | ⟨key, _, h⟩ | ⟨_, h⟩ <;> rw [h]
  · exact s.store.policy_commit c e.now
  · exact s.store.policy_lookup key e.now
  · exact Store.policy_sweep hd e.now

theorem step_captures_dated (h : s.Dated p) {e : Event} (he : InCentury e.now) (id : Nat)
    (c : Capture) (hc : (s.step e).captures id = some c) : c.Dated p := by
  rcases step_capture hc with hc | ⟨key, request, _, hb⟩ | ⟨a, status, headers, _, ha, rfl⟩ |
    ⟨a, data, _, ha, rfl⟩
  · exact h.captures id c hc
  · rw [Capture.beginCapture_eq hb]
    exact ⟨he, congrArg Policy.defaultTtlMs h.policy, nofun⟩
  · cases hd : a.onHead? status headers with
    | none => exact h.captures id a ha
    | some d => exact (h.captures id a ha).onHead? hd
  · exact (h.captures id a ha).onChunk data

theorem step_entries_dated (h : s.Dated p) {e : Event} (he : InCentury e.now) (l : Live)
    (hl : l ∈ (s.step e).store.live) : l.entry.Dated := by
  rcases step_live h.balanced.distinct hl with ⟨a, ha, rfl | rfl⟩ | ⟨id, c, _, hc, _, hf⟩
  · exact h.entries l ha
  · exact ⟨(h.entries a ha).created, (h.entries a ha).lastModified⟩
  · exact (h.captures id c hc).finished? he hf

theorem step_dated (h : s.Dated p) {e : Event} (he : InCentury e.now) : (s.step e).Dated p where
  balanced := step_balanced h.balanced e
  policy := (step_policy h.balanced.distinct e).trans h.policy
  captures := step_captures_dated h he
  entries := step_entries_dated h he

theorem run_dated (h : s.Dated p) {es : List Event} (hes : ∀ e ∈ es, InCentury e.now) :
    (s.run es).Dated p := by
  induction es generalizing s with
  | nil => exact h
  | cons e es ih =>
    have hstep := step_dated h (hes e List.mem_cons_self)
    exact ih hstep fun a ha => hes a (List.mem_cons_of_mem e ha)

/-- In every session that takes place in the century, a capture fails to take a head just if it has
to work out the expiry itself and the default lifetime reaches the end of the calendar, and an entry
that was found fails to be served just if the client has it already and it was last changed in the
leap second at that end. No other step of a capture can fail, and a lifetime that stays inside the
calendar lets no head fail. -/
theorem dates_of_session (p : Policy) (es : List Event) (hes : ∀ e ∈ es, InCentury e.now) :
    let s := (start p).run es
    (∀ id c, s.captures id = some c → ∀ status h, c.onHead? status h = none ↔
      c.state = .awaitingHead ∧ c.headRejection? status h = none ∧ h.get? "expires" = none ∧
        calendarEnd ≤ c.started + p.defaultTtlMs) ∧
    (∀ key now e, (s.store.lookup key now).1 = some e → ∀ since, e.response? since = none ↔
      since.any e.notModifiedSince = true ∧
        Capture.lastModified? e.headers = some calendarEnd) ∧
    (p.defaultTtlMs + nextCentury ≤ calendarEnd →
      ∀ id c, s.captures id = some c → ∀ status h, ∃ d, c.onHead? status h = some d) := by
  intro s
  have h : s.Dated p := run_dated (start_dated p) hes
  have hhead (id : Nat) (c : Capture) (hc : s.captures id = some c) (status : Http.Status)
      (headers : Http.Headers) : c.onHead? status headers = none ↔ c.state = .awaitingHead ∧
        c.headRejection? status headers = none ∧ headers.get? "expires" = none ∧
          calendarEnd ≤ c.started + p.defaultTtlMs := by
    have hdated := h.captures id c hc
    rw [← hdated.lifetime]
    exact Capture.onHead?_eq_none_iff hdated.started.1
  refine ⟨hhead, fun key now e he since => ?_, fun hshort id c hc status headers => ?_⟩
  · have hd := h.balanced.distinct
    rcases Store.lookup_cases hd key now with ⟨_, hl⟩ | ⟨l, _, _, hl⟩ | ⟨l, hf, _, hl⟩
    · rw [hl] at he
      cases he
    · rw [hl] at he
      cases he
    · rw [hl] at he
      have hdated := h.entries l ((Store.find?_eq_some_iff hd).1 hf).1
      have hmarked : (l.mark now).entry.Dated := ⟨hdated.created, hdated.lastModified⟩
      rw [← Option.some.inj he]
      exact hmarked.response? since
  · rw [← Option.ne_none_iff_exists', ne_eq, hhead id c hc]
    rintro ⟨_, _, _, hlate⟩
    have hstarted := (h.captures id c hc).started.2
    change (calendarEnd : Int) ≤ c.started + p.defaultTtlMs at hlate
    omega

theorem dates_of_session_default :
    let p := Policy.ofConfig {}
    let key : Key := ⟨"GET", false, "site.test", "/", ""⟩
    let s := (start p).run [⟨1000, .capture 7 key .empty⟩, ⟨1000, .head 7 200 .empty⟩,
      ⟨2000, .commit 7⟩, ⟨3000, .capture 8 key .empty⟩]
    (∃ c, s.captures 8 = some c ∧ ∀ status h, ∃ d, c.onHead? status h = some d) ∧
      ∃ e, (s.store.lookup key 4000).1 = some e ∧ e.response? (some 4000) ≠ none := by
  intro p key s
  obtain ⟨_, hserved, hheads⟩ := dates_of_session p [⟨1000, .capture 7 key .empty⟩,
    ⟨1000, .head 7 200 .empty⟩, ⟨2000, .commit 7⟩, ⟨3000, .capture 8 key .empty⟩] (by decide)
  have hopen : (s.captures 8).isSome = true := by decide +kernel
  have hstored : ((s.store.lookup key 4000).1.map fun e => Capture.lastModified? e.headers) =
      some none := by decide +kernel
  obtain ⟨c, hc⟩ := Option.isSome_iff_exists.1 hopen
  obtain ⟨e, he, hplain⟩ := Option.map_eq_some_iff.1 hstored
  refine ⟨⟨c, hc, hheads (by decide +kernel) 8 c hc⟩, e, he, fun hnone => ?_⟩
  obtain ⟨_, hleap⟩ := (hserved key 4000 e he (some 4000)).1 hnone
  rw [hplain] at hleap
  cases hleap

/-- A valid configuration may ask for a lifetime that ends after the calendar, and a response may
name its last second. -/
theorem valid_cache_leaves_calendar :
    let long : Config := { cache := { defaultTtlSecs := 10000000000000 } }
    let key : Key := ⟨"GET", false, "site.test", "/", ""⟩
    let leap := Http.Headers.empty.append "last-modified"
      (Bytes.ofText "Mon, 31 Dec +262142 23:59:60 GMT")
    let now : Instant := 1700000000000
    long.Valid ∧
      (((start (.ofConfig long.cache)).run [⟨now, .capture 7 key .empty⟩]).captures 7).map
        (·.onHead? 200 .empty) = some none ∧
      Config.Valid {} ∧
      (((start (.ofConfig {})).run [⟨now, .capture 7 key .empty⟩, ⟨now, .head 7 200 leap⟩,
          ⟨now, .commit 7⟩]).store.lookup key now).1.map
        (·.response? (some calendarEnd)) = some none := by
  decide +kernel

end Session

end ReverseProxy.Cache
