import ReverseProxy.Proofs.Proxy.Fields

set_option autoImplicit false

namespace ReverseProxy.Proxy
open Request
open Cache (originHeader)
open Http.Date (format? parse?)
open Routing (changed)

def Change.brings (name : String) : Change → List Bytes
  | .event (.forward _ e) => e.brings name
  | _ => []

def answeredFrom? (p : Proxy) : Change → Option Cache.Entry
  | .event (.request connection r) => p.hit? connection r
  | _ => none

/-- The entry was stored at the time of its creation, when a body came to its end. -/
def StoredIn (H : List Moment) (e : Cache.Entry) : Prop :=
  ∃ s change id k stored, (s, change) ∈ H ∧ Commits id k stored (s, change) ∧
    stored.unused = e.unused ∧ e.created = s.nowMs

section
variable {p : Proxy} {H : List Moment} {id : Nat} {k : Cache.Capture} {e e' : Cache.Entry}
  {change : Change} {h : Http.Headers} {connection : Connection} {r : Incoming}

theorem StoredIn.later (h : StoredIn H e) (m : Moment) : StoredIn (H ++ [m]) e := by
  obtain ⟨s, change, id, k, stored, hmem, hstored⟩ := h
  exact ⟨s, change, id, k, stored, List.mem_append_left _ hmem, hstored⟩

theorem StoredIn.congr (h : StoredIn H e) (hsame : e'.unused = e.unused) : StoredIn H e' := by
  obtain ⟨s, change, id, k, stored, hmem, hcommits, hstored, hcreated⟩ := h
  have hcreated' : e'.unused.created = e.unused.created := congrArg Cache.Entry.created hsame
  exact ⟨s, change, id, k, stored, hmem, hcommits, hstored.trans hsame.symm,
    hcreated'.trans hcreated⟩

theorem Commits.storedIn (h : Commits id k e (p, change)) (hmem : (p, change) ∈ H) :
    StoredIn H e := by
  obtain ⟨head, body, _, he⟩ := Cache.Capture.finished?_eq_some_iff.1 h.finished
  exact ⟨p, change, id, k, e, hmem, h, rfl, he ▸ rfl⟩

theorem storedIn_new (c : Config) (mapper : Routing.Mapper) (pages : Pages) (keepsLog : Bool)
    (nowMs : Nat) (cs : List Change) (hothers : ∀ store, .cache store ∉ cs) :
    let start := new c mapper pages keepsLog nowMs
    (start.after cs).cache.Distinct ∧
      ∀ l ∈ (start.after cs).cache.live, StoredIn (start.history cs) l.entry := by
  intro start
  have hstart : start.Held := held_new c mapper pages keepsLog nowMs
  have hempty := kept_new c mapper pages keepsLog nowMs
  refine ⟨(hstart.kept_after hempty fun store hmem => absurd hmem (hothers store)).1.distinct, ?_⟩
  refine hstart.entries_after (P := fun H _ e => StoredIn H e) hempty
    (fun _ m _ _ h => h.later m) (fun _ _ _ _ h => h.congr rfl)
    (fun l hl => (List.not_mem_nil hl).elim) (fun cs change id k e hc => ?_)
    fun store hmem => absurd hmem (hothers store)
  rw [history_append]
  exact hc.storedIn (List.mem_append_right _ List.mem_cons_self)

theorem storedIn_of_hit (hd : p.cache.Distinct) (hlive : ∀ l ∈ p.cache.live, StoredIn H l.entry)
    (hhit : p.hit? connection r = some e) : StoredIn H e := by
  obtain ⟨l, hl, ms, rfl, _⟩ := live_of_hit hd hhit
  exact (hlive l hl).congr rfl

theorem outset_of_miss (hmiss : p.answeredFrom? change = none) (name : String) :
    p.outset name change = change.brings name := by
  cases change with
  | mapper | cache | reload | forgo | dispose => rfl
  | event event =>
    cases event with
    | timePasses | clockSet | sweep | forward => rfl
    | request connection r => exact servedValues_of_miss p name hmiss

theorem exists_of_answeredFrom? (hhit : p.answeredFrom? change = some e) :
    ∃ connection r, change = .event (.request connection r) ∧ p.hit? connection r = some e := by
  cases change with
  | mapper | cache | reload | forgo | dispose => cases hhit
  | event event =>
    cases event with
    | timePasses | clockSet | sweep | forward => cases hhit
    | request connection r => exact ⟨connection, r, rfl, hhit⟩

/-- A response from the cache starts out with the mark of its entry alone, whatever marks were
stored with the entry. -/
theorem outset_of_hit (hhit : p.answeredFrom? change = some e)
    (hh : h ∈ (p.change change).1.headers?) :
    ∃ origin, e.origin? = some origin ∧ p.outset originHeader change = [origin] := by
  obtain ⟨connection, r, rfl, hfound⟩ := exists_of_answeredFrom? hhit
  have ho : (p.change (.event (.request connection r))).1 = _ := outcome_of_hit hfound
  rw [ho] at hh
  cases hresponse : e.response? (ifModifiedSince? r.head.headers) with
  | none =>
    rw [hresponse] at hh
    cases hh
  | some s =>
    obtain ⟨origin, horigin, hmarks⟩ := Cache.Entry.getAll_originHeader hresponse
    refine ⟨origin, horigin, ?_⟩
    change p.servedValues originHeader connection r = [origin]
    unfold servedValues
    rw [hfound, Option.bind_some, hresponse]
    exact hmarks

theorem origin?_eq_some {origin : Bytes} (h : e.origin? = some origin) :
    ∃ date, origin = Bytes.ofText ("hit; created=" ++ date) ∧
      parse? date = some (e.created / 1000 * 1000) := by
  obtain ⟨date, hdate, rfl⟩ := Option.map_eq_some_iff.1 h
  obtain ⟨hstart, hend⟩ := Http.Date.format?_isSome_iff.1 (Option.isSome_of_eq_some hdate)
  obtain ⟨text, htext, _, hread⟩ := Http.Date.parse?_format? hstart hend
  rw [hdate] at htext
  cases htext
  exact ⟨date, rfl, hread⟩

end

/-- Before the changes that its decision asks for, a response from the cache has one mark, which
names the second in which the proxy stored its entry, and any other response has just the marks of
the head that arrived for it. So a response whose decision leaves marks alone has one exactly if it
comes from the cache, or from a backend that sent one. -/
theorem marks_of_responses (c : Config) (mapper : Routing.Mapper) (pages : Pages) (keepsLog : Bool)
    (nowMs : Nat) (cs : List Change) (hmapper : mapper.Plain)
    (hmappers : ∀ m, .mapper m ∈ cs → m.Plain) (change : Change) (h : Http.Headers) :
    let start := new c mapper pages keepsLog nowMs
    let p := start.after cs
    let marks := changed (p.mutations change) originHeader
    h ∈ (p.change change).1.headers? →
      (∀ e, p.answeredFrom? change = some e →
        (∃ date, h.getAll originHeader = marks [Bytes.ofText ("hit; created=" ++ date)] ∧
          parse? date = some (e.created / 1000 * 1000)) ∧
        ((∀ store, .cache store ∉ cs) → StoredIn (start.history cs) e)) ∧
      (p.answeredFrom? change = none →
        h.getAll originHeader = marks (change.brings originHeader)) ∧
      ((∀ m ∈ p.mutations change, m.field ≠ originHeader) →
        (h.contains originHeader = true ↔
          (p.answeredFrom? change).isSome ∨ change.brings originHeader ≠ [])) := by
  intro start p marks hh
  have hplain : p.Plain := by
    refine Plain.after ⟨hmapper, fun f hf => ?_⟩ hmappers
    exact (List.not_mem_nil hf).elim
  have hvalues : h.getAll originHeader = marks (p.outset originHeader change) :=
    (shows_outset (by decide) hplain change).values h hh
  have hmiss (hnone : p.answeredFrom? change = none) :
      h.getAll originHeader = marks (change.brings originHeader) := by
    rw [hvalues, outset_of_miss hnone]
  refine ⟨fun e hhit => ⟨?_, fun hown => ?_⟩, hmiss, fun hothers => ?_⟩
  · obtain ⟨origin, horigin, hmark⟩ := outset_of_hit hhit hh
    obtain ⟨date, rfl, hdate⟩ := origin?_eq_some horigin
    exact ⟨date, by rw [hvalues, hmark], hdate⟩
  · obtain ⟨hdistinct, hlive⟩ := storedIn_new c mapper pages keepsLog nowMs cs hown
    obtain ⟨connection, r, _, hfound⟩ := exists_of_answeredFrom? hhit
    exact storedIn_of_hit hdistinct hlive hfound
  · have hkept (vs : List Bytes) : marks vs = vs := Routing.changed_of_others hothers vs
    rw [Http.Headers.contains_iff]
    cases hfrom : p.answeredFrom? change with
    | none =>
      rw [hmiss hfrom, hkept]
      simp
    | some e =>
      obtain ⟨origin, _, hmark⟩ := outset_of_hit hfrom hh
      rw [hvalues, hmark, hkept]
      simp

theorem marks_of_responses_hit :
    let connection : Connection := ⟨.v4 [127, 0, 0, 1] 50000, .v4 [127, 0, 0, 1] 8080, none⟩
    let r : Incoming := ⟨⟨"GET", ⟨none, none, "/page", none⟩, .http11, .empty⟩, []⟩
    let mapper : Routing.Mapper := ⟨.constant (some (.proxy "site" ⟨"10.0.0.1", 80⟩ true)), [], {}⟩
    let other := Http.Headers.empty.insert originHeader (Bytes.ofText "hit; created=before")
    let p := (new {} mapper .empty true 784111777500).after
      [.event (.request connection r), .event (.forward 1 (.headArrives 200 other)),
        .event (.forward 1 (.body (.chunk [1, 2]))), .event (.forward 1 (.body .complete))]
    ∃ h date, h ∈ (p.change (.event (.request connection r))).1.headers? ∧
      h.getAll originHeader = [Bytes.ofText ("hit; created=" ++ date)] ∧
      parse? date = some 784111777000 := by
  intro connection r mapper other p
  have hmapper : mapper.Plain := by
    refine ⟨fun d hd => ?_, nofun, nofun⟩
    cases hd
    exact nofun
  have hcreated : (p.answeredFrom? (.event (.request connection r))).map (·.created) =
      some 784111777500 := by
    decide +kernel
  have hmutations : p.mutations (.event (.request connection r)) = [] := by decide +kernel
  have hsome : (p.change (.event (.request connection r))).1.headers?.isSome = true := by
    decide +kernel
  obtain ⟨e, he, hcreated⟩ := Option.map_eq_some_iff.1 hcreated
  obtain ⟨h, hh⟩ := Option.isSome_iff_exists.1 hsome
  obtain ⟨hhit, _⟩ := marks_of_responses {} mapper .empty true 784111777500
    [.event (.request connection r), .event (.forward 1 (.headArrives 200 other)),
      .event (.forward 1 (.body (.chunk [1, 2]))), .event (.forward 1 (.body .complete))]
    hmapper (by simp) (.event (.request connection r)) h hh
  obtain ⟨⟨date, hmarks, hdate⟩, _⟩ := hhit e he
  rw [hcreated] at hdate
  rw [hmutations] at hmarks
  exact ⟨h, date, hh, hmarks, hdate⟩

/-- A page that is fetched from a backend goes to the client with a mark if the backend set one. -/
theorem mark_of_backend_passed_on :
    let connection : Connection := ⟨.v4 [127, 0, 0, 1] 50000, .v4 [127, 0, 0, 1] 8080, none⟩
    let r : Incoming := ⟨⟨"GET", ⟨none, none, "/page", none⟩, .http11, .empty⟩, []⟩
    let mapper : Routing.Mapper := ⟨.constant (some (.proxy "site" ⟨"10.0.0.1", 80⟩ true)), [], {}⟩
    let mark := Bytes.ofText "hit; created=Sun, 06 Nov 1994 08:49:37 GMT"
    let p := (new {} mapper .empty true 0).after [.event (.request connection r)]
    let arrives := Change.event
      (.forward 1 (.headArrives 200 (Http.Headers.empty.insert originHeader mark)))
    p.answeredFrom? arrives = none ∧ p.mutations arrives = [] ∧
      (p.change arrives).1.headers?.map (·.getAll originHeader) = some [mark] := by
  decide +kernel

end ReverseProxy.Proxy
