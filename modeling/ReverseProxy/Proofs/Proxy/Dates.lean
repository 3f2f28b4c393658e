import ReverseProxy.Proofs.Cache.Conditional
import ReverseProxy.Proofs.Proxy.Bare
import ReverseProxy.Proofs.Proxy.Replays

set_option autoImplicit false

namespace ReverseProxy.Proxy
open Request
open Calendar (Day minYear maxYear)
open Http.Date (Instant calendarStart calendarEnd format? parse? ofValue?)

section
variable {p : Proxy} {H : List Moment} {id : Nat} {k : Cache.Capture} {e : Cache.Entry}
  {change : Change} {connection : Connection} {r : Incoming}

theorem Recalled.genuine (h : Recalled H p) (hp : p.Held) (hc : Commits id k e (p, change)) :
    e.Genuine := by
  obtain ⟨f, _, _, status, headers, shown, ⟨_, hshows⟩, hk⟩ := h.of_commits hp hc
  obtain ⟨k₀, hopened, hhead⟩ := hshows shown rfl
  have hfinished := hc.finished
  rw [hk] at hfinished
  exact Cache.Capture.genuine_of_finished hopened.awaits hhead hfinished (Int.natCast_nonneg _)

theorem served_of_hit (he : e.Genuine) (hhit : p.hit? connection r = some e) :
    let since := ifModifiedSince? r.head.headers
    let o := (p.change (.event (.request connection r))).1
    (o = .crashed ↔ calendarEnd ≤ e.created ∨ e.KnownSince since ∧
      Cache.Capture.lastModified? e.headers = some calendarEnd) ∧
    (o ≠ .crashed → ∃ shown, e.response? since = some shown ∧
      o = .response (fromEntry (p.contextFor connection r) shown) ∧ e.Answers since shown) := by
  intro since o
  have ho : o = _ := outcome_of_hit hhit
  rw [← he.response?_eq_none_iff, ho]
  cases hresponse : e.response? since with
  | none => exact ⟨iff_of_true rfl rfl, fun h => absurd rfl h⟩
  | some shown => exact ⟨by simp, fun _ => ⟨shown, rfl, rfl, he.answers hresponse⟩⟩

end

theorem genuine_new (c : Config) (mapper : Routing.Mapper) (pages : Pages) (keepsLog : Bool)
    (nowMs : Nat) (cs : List Change) (hothers : ∀ store, .cache store ∈ cs →
      Kept (.ofConfig c.cache) store ∧ ∀ l ∈ store.live, l.entry.Genuine) :
    let p := (new c mapper pages keepsLog nowMs).after cs
    p.cache.Distinct ∧ ∀ l ∈ p.cache.live, l.entry.Genuine := by
  have hstart := held_new c mapper pages keepsLog nowMs
  have hempty := kept_new c mapper pages keepsLog nowMs
  refine ⟨(hstart.kept_after hempty fun store h => (hothers store h).1).1.distinct, ?_⟩
  refine hstart.entries_after (P := fun _ _ e => e.Genuine) hempty (fun _ _ _ _ h => h)
    (fun _ _ _ _ h => h.congr rfl) (fun l hl => (List.not_mem_nil hl).elim)
    (fun cs change id k e hc => ?_) fun store h => ⟨(hothers store h).1, fun _ => (hothers store h).2⟩
  exact (recalled_new c mapper pages keepsLog nowMs cs).genuine (hstart.after cs) hc

/-- A request for which an entry is found is answered with a 304 just if its client has what was last
changed then, and in full otherwise. A response with a date that can be read is enough to be answered
with a 304 the next time. The proxy breaks off instead where it would have to write a date outside
the calendar: of an entry that was stored there, or to a client that has what was last changed in
the leap second at the end of the calendar. -/
theorem conditional_hits (c : Config) (mapper : Routing.Mapper) (pages : Pages) (keepsLog : Bool)
    (nowMs : Nat) (cs : List Change) (hothers : ∀ store, .cache store ∈ cs →
      Kept (.ofConfig c.cache) store ∧ ∀ l ∈ store.live, l.entry.Genuine) :
    let p := (new c mapper pages keepsLog nowMs).after cs
    ∀ connection r e, p.hit? connection r = some e →
      let since := ifModifiedSince? r.head.headers
      let leaps := Cache.Capture.lastModified? e.headers = some calendarEnd
      let o := (p.change (.event (.request connection r))).1
      (o = .crashed ↔ calendarEnd ≤ e.created ∨ e.KnownSince since ∧ leaps) ∧
      (o ≠ .crashed → ∃ shown, o = .response (fromEntry (p.contextFor connection r) shown) ∧
        e.Answers since shown ∧
        ∀ v t, shown.headers.get? "last-modified" = some v → ofValue? v = some t →
          ∀ later connection' r' e', (p.after later).hit? connection' r' = some e' →
            e'.unused = e.unused → r'.head.headers.get? "if-modified-since" = some v →
            let p' := p.after later
            let o' := (p'.change (.event (.request connection' r'))).1
            (o' = .crashed ↔ leaps) ∧
            (o' ≠ .crashed → ∃ again,
              o' = .response (fromEntry (p'.contextFor connection' r') again) ∧
              again.status = 304 ∧ e.Answers (some t) again)) := by
  intro p connection r e hhit since leaps o
  obtain ⟨hdistinct, hlive⟩ := genuine_new c mapper pages keepsLog nowMs cs hothers
  have he : e.Genuine := by
    obtain ⟨l, hl, ms, rfl, _⟩ := live_of_hit hdistinct hhit
    exact (hlive l hl).congr rfl
  obtain ⟨hcrash, hserves⟩ := served_of_hit he hhit
  refine ⟨hcrash, fun hlasts => ?_⟩
  obtain ⟨shown, hshown, ho, hanswers⟩ := hserves hlasts
  refine ⟨shown, ho, hanswers, ?_⟩
  intro v t hv ht later connection' r' e' hhit' hsame hsent p' o'
  have hread : ifModifiedSince? r'.head.headers = some t := by
    unfold ifModifiedSince? Http.Headers.text?
    rw [hsent]
    exact ht
  have hknown : e.KnownSince (some t) := he.knownSince hshown hv ht
  have hinside : ¬(calendarEnd : Int) ≤ e.created := fun hlate => hlasts (hcrash.2 (.inl hlate))
  obtain ⟨hcrash', hserves'⟩ := served_of_hit (he.congr hsame) hhit'
  rw [hread, Cache.Entry.eq_of_unused hsame] at hcrash' hserves'
  refine ⟨hcrash'.trans ?_, fun hlasts' => ?_⟩
  · exact (or_iff_right hinside).trans (and_iff_right hknown)
  · obtain ⟨again, _, ho', hanswers'⟩ := hserves' hlasts'
    exact ⟨again, ho', hanswers'.status.2 hknown,
      hanswers'.status, hanswers'.known, hanswers'.changed⟩

theorem conditional_hits_dated :
    let connection : Connection := ⟨.v4 [127, 0, 0, 1] 50000, .v4 [127, 0, 0, 1] 8080, none⟩
    let date := Bytes.ofText "Sun, 06 Nov 1994 08:49:37 GMT"
    let r (headers : Http.Headers) : Incoming :=
      ⟨⟨"GET", ⟨none, none, "/page", none⟩, .http11, headers⟩, []⟩
    let mapper : Routing.Mapper := ⟨.constant (some (.proxy "site" ⟨"10.0.0.1", 80⟩ true)), [], {}⟩
    let p := (new {} mapper .empty true 0).after
      [.event (.request connection (r .empty)),
        .event (.forward 1 (.headArrives 200 (Http.Headers.empty.insert "last-modified" date))),
        .event (.forward 1 (.body (.chunk [1, 2]))), .event (.forward 1 (.body .complete))]
    let later := p.after [.event (.clockSet 1000)]
    let asks := r (Http.Headers.empty.insert "if-modified-since" date)
    (∃ full, (p.change (.event (.request connection (r .empty)))).1 =
      .response (fromEntry (p.contextFor connection (r .empty)) full) ∧ full.body = [1, 2]) ∧
      ∃ again, (later.change (.event (.request connection asks))).1 =
        .response (fromEntry (later.contextFor connection asks) again) ∧ again.status = 304 := by
  intro connection date r mapper p later asks
  have hfound : (p.hit? connection (r .empty)).map (fun e =>
      (e.headers.getAll "last-modified", e.body, e.unused)) =
        (later.hit? connection asks).map fun e => ([date], [1, 2], e.unused) := by decide +kernel
  have hsome : (later.hit? connection asks).isSome = true := by decide +kernel
  have hread : ofValue? date = some 784111777000 := by decide +kernel
  obtain ⟨e', he'⟩ := Option.isSome_iff_exists.1 hsome
  rw [he', Option.map_some] at hfound
  obtain ⟨e, he, hsame⟩ := Option.map_eq_some_iff.1 hfound
  obtain ⟨hdate, hsame⟩ := Prod.mk.inj hsame
  obtain ⟨hbody, hunused⟩ := Prod.mk.inj hsame
  obtain ⟨_, hserves⟩ := conditional_hits {} mapper .empty true 0
    [.event (.request connection (r .empty)),
      .event (.forward 1 (.headArrives 200 (Http.Headers.empty.insert "last-modified" date))),
      .event (.forward 1 (.body (.chunk [1, 2]))), .event (.forward 1 (.body .complete))]
    (by simp) connection (r .empty) e he
  obtain ⟨full, hfull, hanswers, hlater⟩ := hserves (by decide +kernel)
  have hchanged : ¬e.KnownSince (ifModifiedSince? (r .empty).head.headers) := by
    rintro ⟨t, ht, _⟩
    cases ht
  obtain ⟨_, hfullbody, origin, _, hfields⟩ := hanswers.changed hchanged
  have hsent : full.headers.get? "last-modified" = some date :=
    congrArg List.head? ((hfields "last-modified").trans hdate)
  have hasks : asks.head.headers.get? "if-modified-since" = some date := by decide +kernel
  obtain ⟨_, hconfirms⟩ := hlater date _ hsent hread [.event (.clockSet 1000)] connection asks e'
    he' hunused.symm hasks
  obtain ⟨again, hagain, hstatus, _⟩ := hconfirms (by decide +kernel)
  exact ⟨⟨full, hfull, hfullbody.trans hbody⟩, again, hagain, hstatus⟩

/-- A page that names the leap second at the end of the calendar is served with this date, but not
to a client that sends the date back. -/
theorem leap_second_not_confirmed :
    let connection : Connection := ⟨.v4 [127, 0, 0, 1] 50000, .v4 [127, 0, 0, 1] 8080, none⟩
    let date := Bytes.ofText "Mon, 31 Dec +262142 23:59:60 GMT"
    let r (headers : Http.Headers) : Incoming :=
      ⟨⟨"GET", ⟨none, none, "/page", none⟩, .http11, headers⟩, []⟩
    let mapper : Routing.Mapper := ⟨.constant (some (.proxy "site" ⟨"10.0.0.1", 80⟩ true)), [], {}⟩
    let p := (new {} mapper .empty true 0).after
      [.event (.request connection (r .empty)),
        .event (.forward 1 (.headArrives 200 (Http.Headers.empty.insert "last-modified" date))),
        .event (.forward 1 (.body (.chunk [1, 2]))), .event (.forward 1 (.body .complete))]
    let asks := r (Http.Headers.empty.insert "if-modified-since" date)
    ((p.change (.event (.request connection (r .empty)))).1.headers?.map
      (·.getAll "last-modified")) = some [date] ∧
    ofValue? date = some calendarEnd ∧ (p.hit? connection asks).isSome = true ∧
      (p.change (.event (.request connection asks))).1 = .crashed := by
  decide +kernel

/-- Every instant of the calendar, before 1970 or after, can be written as a date, and the date is
read as the instant rounded down to a whole second. So when a response is stored, its client was
told when it expires to the second, and exactly if the response came with an expiry of its own; and
whoever is answered with what was stored is told the same. -/
theorem expiry_of_commits :
    (∀ t : Int, minYear ≤ (Day.ofDays (t / 86400000)).year →
      (Day.ofDays (t / 86400000)).year ≤ maxYear →
        ∃ text, format? t = some text ∧ parse? text = some (t / 1000 * 1000)) ∧
    ∀ (c : Config) (mapper : Routing.Mapper) (pages : Pages) (keepsLog : Bool) (nowMs : Nat)
      (cs : List Change) (ends : Change),
      let start := new c mapper pages keepsLog nowMs
      let H := start.history cs
      ∀ s connection r k e, (s, .event (.request connection r)) ∈ H →
        Commits s.nextId k e (start.after cs, ends) →
        ∃ u status headers live told,
          (u, .event (.forward s.nextId (.headArrives status headers))) ∈ H ∧
          (u.change (.event (.forward s.nextId (.headArrives status headers)))).1 =
            .streaming status
              (Routing.applyMutations live (s.contextFor connection r).decision.headers) ∧
          live.get? "expires" = some e.expiresHeader ∧ ofValue? e.expiresHeader = some told ∧
          told ≤ e.expires ∧ e.expires < told + 1000 ∧
          (headers.getAll "expires" = [] → told = e.expires / 1000 * 1000) ∧
          (headers.getAll "expires" ≠ [] → told = e.expires) ∧
          ∀ ms since shown, Cache.Entry.response? { e with lastAccessMs := ms } since = some shown →
            shown.headers.get? "expires" = some e.expiresHeader := by
  refine ⟨fun t hmin hmax => ?_, ?_⟩
  · obtain ⟨hstart, hend⟩ := Http.Date.calendar_iff_year.2 ⟨hmin, hmax⟩
    obtain ⟨text, htext, _, hparse⟩ := Http.Date.parse?_format? hstart hend
    exact ⟨text, htext, hparse⟩
  · intro c mapper pages keepsLog nowMs cs ends start H s connection r k e hs hc
    have hp : (start.after cs).Held := (held_new c mapper pages keepsLog nowMs).after cs
    have hrecalled : Recalled H (start.after cs) := recalled_new c mapper pages keepsLog nowMs cs
    obtain ⟨status, headers, shown, k₀, _, _, hopened, hhead, hk, u, hu, hsent⟩ :=
      hrecalled.head_of_commits hp hs hc
    have hfinished := hc.finished
    rw [hk] at hfinished
    obtain ⟨_, _, hlive⟩ := Cache.Capture.standsFor_of_finished hopened.awaits hhead hfinished
    have hread := Cache.Capture.ofValue?_expiresHeader hopened.awaits hhead hfinished
    have hnone : headers.stripHopByHop.get? "expires" = none ↔ headers.getAll "expires" = [] := by
      unfold Http.Headers.get? Http.Headers.stripHopByHop
      rw [Http.Headers.getAll_removeIf, if_neg (by decide), List.head?_eq_none_iff]
    have hbounds := Cache.Capture.floor_bounds e.expires
    refine ⟨u, status, headers, _, _, hu, hsent,
      (get?_clientHeaders (some shown) headers.stripHopByHop).trans hlive, hread, ?_, ?_, ?_, ?_,
      fun ms since shown => Cache.Entry.get?_expires⟩
    · split
      · exact hbounds.1
      · exact Int.le_refl _
    · split
      · exact hbounds.2
      · exact Int.lt_add_of_pos_right _ (by decide)
    · exact fun h => if_pos (hnone.2 h)
    · exact fun h => if_neg (mt hnone.1 h)

theorem expiry_of_commits_default :
    let connection : Connection := ⟨.v4 [127, 0, 0, 1] 50000, .v4 [127, 0, 0, 1] 8080, none⟩
    let r : Incoming := ⟨⟨"GET", ⟨none, none, "/page", none⟩, .http11, .empty⟩, []⟩
    let mapper : Routing.Mapper := ⟨.constant (some (.proxy "site" ⟨"10.0.0.1", 80⟩ true)), [], {}⟩
    let start := new {} mapper .empty true 500
    let cs := [Change.event (.request connection r), .event (.forward 1 (.headArrives 200 .empty)),
      .event (.forward 1 (.body (.chunk [1, 2])))]
    (∃ text, format? (-1) = some text ∧ parse? text = some (-1000)) ∧
      ∃ k e, Commits 1 k e (start.after cs, .event (.forward 1 (.body .complete))) ∧
        e.expires = 300500 ∧ ofValue? e.expiresHeader = some 300000 := by
  intro connection r mapper start cs
  obtain ⟨hdates, htold⟩ := expiry_of_commits
  have hrecords : (((start.after cs).pump? 1).bind fun stream => if stream.2.phase = .reading then
      stream.2.capture.bind fun k => (k.finished? (start.after cs).nowMs).map (·.expires)
    else none) = some 300500 := by
    decide +kernel
  obtain ⟨k, e, hcommits, hexpires⟩ := exists_commits hrecords
  refine ⟨hdates (-1) (by decide +kernel) (by decide +kernel), k, e, hcommits, hexpires, ?_⟩
  have hs : (start, .event (.request connection r)) ∈ start.history cs := List.mem_cons_self
  obtain ⟨u, status, headers, live, told, hu, _, _, hread, _, _, hnone, _⟩ :=
    htold {} mapper .empty true 500 cs _ start connection r k e hs hcommits
  have hmem := snd_mem_of_history hu
  simp only [cs, List.mem_cons, List.not_mem_nil, reduceCtorEq, Change.event.injEq,
    Event.forward.injEq, Forward.Event.headArrives.injEq, and_false, or_false, false_or] at hmem
  obtain ⟨_, _, rfl⟩ := hmem
  rw [hread, hnone rfl, hexpires]
  rfl

end ReverseProxy.Proxy
