import ReverseProxy.Proofs.Cache.Replay
import ReverseProxy.Proofs.Proxy.Caching
import ReverseProxy.Proofs.Proxy.Origins

set_option autoImplicit false

namespace ReverseProxy
open Request
open Http.Date (Instant calendarEnd)

/-- The values that a field of a response from the cache has, before the changes that the decision
of the request asks for. -/
def Request.Context.replayed (c : Context) (headers : Http.Headers) (body expires origin : Bytes)
    (name : String) : List Bytes :=
  if name = "connection" then
    if c.head.keepAlive && c.head.version.isHttp1 then [Bytes.ofText "keep-alive"] else []
  else if name = Cache.originHeader then [origin]
  else if name = "content-length" then [Bytes.ofText (Text.ofNat body.length)]
  else if name = "expires" then [expires]
  else if Cache.isVolatile name then [] else headers.getAll name

/-- A response from the cache stands for one that came with this head and body, was stored at `now`
and was shown to expire at `expires`. -/
structure Request.Context.Replays (c : Context) (status : Http.Status) (headers : Http.Headers)
    (body expires : Bytes) (now : Instant) (s : Http.Response) : Prop where
  code : s.status = status
  bytes : s.body = body
  fields : ∃ shown date, s.headers = Routing.applyMutations shown c.decision.headers ∧
    Http.Date.format? now = some date ∧ ∀ name, shown.getAll name =
      c.replayed headers body expires (Bytes.ofText ("hit; created=" ++ date)) name

theorem Routing.get?_applyMutations {h h' : Http.Headers} {name : String}
    (heq : h.get? name = h'.get? name) (ms : List Mutation) :
    (applyMutations h ms).get? name = (applyMutations h' ms).get? name := by
  induction ms generalizing h h' with
  | nil => exact heq
  | cons m ms ih =>
    refine ih ?_
    unfold Http.Headers.get? at heq ⊢
    cases m with
    | set other value =>
      simp only [Mutation.apply, Http.Headers.getAll_insert]
      split
      · rfl
      · exact heq
    | add other value =>
      simp only [Mutation.apply, Http.Headers.getAll_append, List.head?_append, heq]
    | remove other =>
      simp only [Mutation.apply, Http.Headers.getAll_remove]
      split
      · rfl
      · exact heq

theorem Request.Context.Replays.get?_expires {c : Context} {status : Http.Status}
    {headers live : Http.Headers} {body expires : Bytes} {now : Instant} {s : Http.Response}
    (h : c.Replays status headers body expires now s) (hlive : live.get? "expires" = some expires) :
    s.headers.get? "expires" =
      (Routing.applyMutations live c.decision.headers).get? "expires" := by
  obtain ⟨shown, date, hheaders, _, hvalues⟩ := h.fields
  have hvalue : shown.getAll "expires" = [expires] := hvalues "expires"
  have hshown : shown.get? "expires" = live.get? "expires" := by
    rw [hlive, Http.Headers.get?, hvalue]
    rfl
  rw [hheaders]
  exact Routing.get?_applyMutations hshown _

theorem Reply.getAll_confirmKeepAlive (c : Context) (h : Http.Headers) (name : String) :
    (confirmKeepAlive c h).getAll name =
      if name = "connection" ∧ (c.head.keepAlive && c.head.version.isHttp1) = true then
        [Bytes.ofText "keep-alive"] else h.getAll name := by
  unfold confirmKeepAlive
  cases c.head.keepAlive && c.head.version.isHttp1 with
  | false => simp
  | true => simp [Http.Headers.getAll_insert, eq_comm]

theorem Reply.getAll_plain (c : Context) (r : Http.Response) {name : String}
    (hlength : name ≠ "content-length") (hconnection : name ≠ "connection") :
    (plain c r).headers.getAll name = r.headers.getAll name := by
  unfold plain
  dsimp only
  rw [getAll_confirmKeepAlive, if_neg fun h => hconnection h.1, Http.Headers.getAll_insert,
    if_neg hlength.symm]

namespace Proxy

section
variable {p s : Proxy} {H : List Moment} {id : Nat} {k : Cache.Capture} {e : Cache.Entry}
  {c : Context} {status : Http.Status} {headers : Http.Headers} {body : Bytes} {now : Instant}
  {change : Change} {connection : Connection} {r : Incoming}

theorem get?_clientHeaders (shown : Option Cache.Capture) (h : Http.Headers) :
    (clientHeaders shown h).get? "expires" =
      (shown.bind (·.synthesizedExpires?)).or (h.get? "expires") := by
  unfold clientHeaders
  cases shown.bind (·.synthesizedExpires?) with
  | none => rfl
  | some expires =>
    unfold Http.Headers.get?
    rw [Http.Headers.getAll_insert, if_pos rfl]
    rfl

theorem getAll_clientHeaders (shown : Option Cache.Capture) (h : Http.Headers) {name : String}
    (hname : name ≠ "expires") : (clientHeaders shown h).getAll name = h.getAll name := by
  unfold clientHeaders
  cases shown.bind (·.synthesizedExpires?) with
  | none => rfl
  | some expires => rw [Http.Headers.getAll_insert, if_neg hname.symm]

/-- A capture that is committed was shown a head that was sent on, and all data that came since. -/
theorem Recalled.of_commits (h : Recalled H p) (hp : p.Held) (hc : Commits id k e (p, change)) :
    ∃ f ∈ p.forwards, f.context.id = id ∧ ∃ status headers shown,
      Heads H f.context status headers (some shown) ∧
        k = (frames id H).foldl Cache.Capture.onChunk shown := by
  obtain ⟨l, pump, hpump, hreading, hcapture⟩ := hc.records
  obtain ⟨f, hf, hstage⟩ := pump?_eq_some_iff.1 hpump
  obtain ⟨hmem, hid⟩ := hp.forward?_iff.1 hf
  obtain ⟨status, headers, shown, passed, hheads, hrelays⟩ := (h.forwards f hmem).sent l pump hstage
  have hrecords := hrelays.capture
  rw [hrelays.reading hreading, hcapture, hid] at hrecords
  obtain ⟨first, hfirst, hk⟩ := Option.map_eq_some_iff.1 hrecords.symm
  have hshown : shown = some first := (Option.filter_eq_some_iff.1 hfirst).1
  rw [hshown] at hheads
  exact ⟨f, hmem, hid, status, headers, first, hheads, hk.symm⟩

/-- The client of a request was sent a head that came from the backend, and an entry stands for the
response with that head and the data that came since. -/
structure Captured (H : List Moment) (s : Proxy) (connection : Connection) (r : Incoming)
    (e : Cache.Entry) (now : Instant) (status : Http.Status) (headers live : Http.Headers) :
    Prop where
  sent : ∃ u, (u, .event (.forward s.nextId (.headArrives status headers))) ∈ H ∧
    (u.change (.event (.forward s.nextId (.headArrives status headers)))).1 = .streaming status
      (Routing.applyMutations live (s.contextFor connection r).decision.headers)
  passed : ∀ name, name ≠ "expires" → live.getAll name = headers.stripHopByHop.getAll name
  expires : live.get? "expires" = some e.expiresHeader
  stands : e.StandsFor status headers.stripHopByHop (frames s.nextId H).flatten now

theorem Recalled.head_of_commits (h : Recalled H p) (hp : p.Held)
    (hs : (s, .event (.request connection r)) ∈ H) (hc : Commits s.nextId k e (p, change)) :
    ∃ status headers shown k₀ c, (s.contextFor connection r).Resumes c ∧ Opened H c k₀ ∧
      k₀.onHead? status headers.stripHopByHop = some shown ∧
      k = (frames s.nextId H).foldl Cache.Capture.onChunk shown ∧
      ∃ u, (u, .event (.forward s.nextId (.headArrives status headers))) ∈ H ∧
        (u.change (.event (.forward s.nextId (.headArrives status headers)))).1 =
          .streaming status (Routing.applyMutations
            (clientHeaders (some shown) headers.stripHopByHop)
            (s.contextFor connection r).decision.headers) := by
  obtain ⟨f, hf, hid, status, headers, shown, hheads, hk⟩ := h.of_commits hp hc
  have hresumes := (h.forwards f hf).request s connection r hs hid.symm
  obtain ⟨⟨u, hu, hsent⟩, hshows⟩ := hheads
  obtain ⟨k₀, hopened, hhead⟩ := hshows shown rfl
  rw [hid] at hu hsent
  rw [hresumes.decision] at hsent
  exact ⟨status, headers, shown, k₀, _, hresumes, hopened, hhead, hk, u, hu, hsent⟩

theorem Recalled.captured (h : Recalled H p) (hp : p.Held)
    (hs : (s, .event (.request connection r)) ∈ H) (hc : Commits s.nextId k e (p, change)) :
    (∃ m ∈ H, m.1.cache.policy.enabled = true) ∧
      k.key = .ofRequest r.head.method r.head.uri r.head.headers connection.isSecure ∧
      ∃ status headers live, Captured H s connection r e p.nowMs status headers live := by
  obtain ⟨status, headers, shown, k₀, _, hresumes, hopened, hhead, hk, u, hu, hsent⟩ :=
    h.head_of_commits hp hs hc
  have hfinished := hc.finished
  rw [hk] at hfinished
  obtain ⟨hsame, hstands, hexpires⟩ :=
    Cache.Capture.standsFor_of_finished hopened.awaits hhead hfinished
  refine ⟨hopened.enabled, ?_, status, headers, _, ⟨u, hu, hsent⟩,
    fun name hname => getAll_clientHeaders _ _ hname, ?_, hstands⟩
  · rw [hk, hsame, hopened.key, key_of_resumes hresumes]
    rfl
  · exact (get?_clientHeaders (some shown) headers.stripHopByHop).trans hexpires

theorem hit?_of_stored (hd : p.cache.Distinct) (henabled : p.cache.policy.enabled = true)
    (hmethod : r.head.method = "GET")
    (haction : (p.contextFor connection r).decision.action = .proxyAndCache)
    (hstored : p.cache.stored? (.ofRequest r.head.method r.head.uri r.head.headers
      connection.isSecure) = some e.unused)
    (hfresh : (p.nowMs : Instant) < e.expires) :
    p.hit? connection r = some { e with lastAccessMs := Http.Date.unixMillis p.nowMs } := by
  unfold hit?
  rw [if_pos ⟨haction, henabled, hmethod⟩, Cache.Store.lookup_eq_some_iff hd]
  exact ⟨e.unused, hstored, hfresh, rfl⟩

theorem Held.answered_of_hit (hp : p.Held) (hhit : p.hit? connection r = some e) :
    let q := p.change (.event (.request connection r))
    q.2.forwards = p.forwards ∧ q.2.pools = p.pools ∧
      ∀ s, p.served? connection r = some s → q.1 = .response s := by
  intro q
  cases intake_receive (fun f hf => Nat.ne_of_lt (hp.fresh f hf)) connection r with
  | answered p' c now admits forwards pending pools books id decision told fromCache served
      starts =>
    exact ⟨forwards.trans admits.forwards, pools.trans admits.pools, served⟩
  | forwarded p' e admits served starts turn =>
    rw [startsTo?_of_hit hhit] at starts
    cases starts

theorem replayed_of_standsFor (hs : e.StandsFor status headers.stripHopByHop body now)
    {s : Http.Response} {origin : Bytes}
    (hfields : ∀ name, s.headers.getAll name = e.replays origin name) (name : String) :
    (Reply.confirmKeepAlive c s.headers).getAll name =
      c.replayed headers body e.expiresHeader origin name := by
  rw [Reply.getAll_confirmKeepAlive, hfields]
  unfold Context.replayed Cache.Entry.replays
  rw [hs.fields, hs.body, Cache.getAll_storableHeaders]
  by_cases hconnection : name = "connection"
  · subst hconnection
    have hvolatile : Cache.isVolatile "connection" = true := by decide
    have hmark : "connection" ≠ Cache.originHeader := by decide
    simp [hvolatile, hmark]
  · have hplain : (if Cache.isVolatile name then [] else headers.stripHopByHop.getAll name) =
        if Cache.isVolatile name then [] else headers.getAll name := by
      split
      · rfl
      · next hkept =>
        have hlasting : ¬Http.isHopByHop name = true := fun h =>
          hkept (Bool.or_eq_true_iff.2 (.inr h))
        unfold Http.Headers.stripHopByHop
        rw [Http.Headers.getAll_removeIf, if_neg hlasting]
    rw [hplain, if_neg fun h => hconnection h.1, if_neg hconnection]

theorem exists_served (hhit : p.hit? connection r =
      some { e with lastAccessMs := Http.Date.unixMillis p.nowMs })
    (hs : e.StandsFor status headers.stripHopByHop body now) (hbegan : 0 ≤ now)
    (hinside : now < calendarEnd)
    (hchanged : (ifModifiedSince? r.head.headers).any e.notModifiedSince = false) :
    ∃ s, p.served? connection r = some s ∧
      (p.contextFor connection r).Replays status headers body e.expiresHeader now s := by
  obtain ⟨full, hfull⟩ := hs.exists_fullResponse hbegan hinside
  obtain ⟨hstatus, hbody, origin, horigin, hfields⟩ := Cache.Entry.fullResponse?_eq_some hfull
  obtain ⟨date, hdate, rfl⟩ := Option.map_eq_some_iff.1 horigin
  rw [hs.created] at hdate
  refine ⟨fromEntry (p.contextFor connection r) full, ?_, hstatus.trans hs.status,
    hbody.trans hs.body, _, date, rfl, hdate, fun name => replayed_of_standsFor hs hfields name⟩
  have hresponse : ({ e with lastAccessMs := Http.Date.unixMillis p.nowMs } :
      Cache.Entry).response? (ifModifiedSince? r.head.headers) = some full := by
    have hneither : ¬(ifModifiedSince? r.head.headers).any e.notModifiedSince = true :=
      Bool.eq_false_iff.1 hchanged
    exact (if_neg hneither).trans hfull
  unfold served?
  rw [hhit, Option.bind_some, hresponse]
  rfl

end

theorem kept_new (c : Config) (mapper : Routing.Mapper) (pages : Pages) (keepsLog : Bool)
    (nowMs : Nat) : Kept (.ofConfig c.cache) (new c mapper pages keepsLog nowMs).cache :=
  ⟨List.nodup_nil, rfl⟩

/-- A request whose capture was committed was sent a response on the way. As long as nothing
disturbs what was stored, and until that expires, a later request of the same kind that may be
answered from the cache is not forwarded. Unless its client has the response already it is answered
with the status and all the data of that response and with its fields, and is shown the same date of
expiry. -/
theorem replays_of_commits (c : Config) (mapper : Routing.Mapper) (pages : Pages) (keepsLog : Bool)
    (nowMs : Nat) (before since : List Change) (ends : Change)
    (hothers : ∀ store, .cache store ∈ before ++ ends :: since → Kept (.ofConfig c.cache) store) :
    let start := new c mapper pages keepsLog nowMs
    let v := start.after before
    let H := start.history before
    let p := v.after (ends :: since)
    ∀ s connection r k entry, (s, .event (.request connection r)) ∈ H → r.head.method = "GET" →
      Commits s.nextId k entry (v, ends) →
      (∀ m ∈ (v.change ends).2.history since, ¬Disturbs
        (.ofRequest r.head.method r.head.uri r.head.headers connection.isSecure) m) →
      ∃ u status headers live expires,
        (u, .event (.forward s.nextId (.headArrives status headers))) ∈ H ∧
        (u.change (.event (.forward s.nextId (.headArrives status headers)))).1 =
          .streaming status
            (Routing.applyMutations live (s.contextFor connection r).decision.headers) ∧
        (∀ name, name ≠ "expires" → live.getAll name = headers.stripHopByHop.getAll name) ∧
        live.get? "expires" = some expires ∧
        ∀ connection' r', r'.head.method = r.head.method → r'.head.uri = r.head.uri →
          r'.head.headers = r.head.headers → connection'.isSecure = connection.isSecure →
          (p.contextFor connection' r').decision.action = .proxyAndCache →
          (p.nowMs : Instant) < entry.expires →
          v.nowMs ≤ p.nowMs ∨ (v.nowMs : Instant) < calendarEnd →
          let q := p.change (.event (.request connection' r'))
          p.startsTo? connection' r' = none ∧ q.2.forwards = p.forwards ∧ q.2.pools = p.pools ∧
          ((ifModifiedSince? r'.head.headers).any entry.notModifiedSince = false →
            ∃ s', q.1 = .response s' ∧ (p.contextFor connection' r').Replays status headers
              (frames s.nextId H).flatten expires v.nowMs s' ∧
              ((p.contextFor connection' r').decision.headers =
                (s.contextFor connection r).decision.headers → s'.headers.get? "expires" =
                  (Routing.applyMutations live
                    (s.contextFor connection r).decision.headers).get? "expires")) := by
  intro start v H p s connection r k entry hs hget hcommits hcalm
  have hstart : start.Held := held_new c mapper pages keepsLog nowMs
  have hv : v.Held := hstart.after before
  have hp : p.Held := hv.after (ends :: since)
  have hkept := hstart.kept_after (kept_new c mapper pages keepsLog nowMs)
    fun store h => hothers store (List.mem_append_left _ h)
  have hrecalled : Recalled H v := recalled_new c mapper pages keepsLog nowMs before
  obtain ⟨⟨m, hm, hopened⟩, hkey, status, headers, live, ⟨u, hu, hsent⟩, hpassed, hlive, hstands⟩ :=
    hrecalled.captured hv hs hcommits
  -- What was stored is there when the later request comes.
  have hlater : ∀ store, .cache store ∈ ends :: since → Kept (.ofConfig c.cache) store :=
    fun store h => hothers store (List.mem_append_right _ h)
  have hnext := (hv.works ends).kept hkept.1 fun store h => hlater store (h ▸ List.mem_cons_self)
  have hstored := hv.stored?_of_commits hcommits
  rw [hkey] at hstored
  have hstays : p.cache.stored? _ = some entry.unused := (hv.change ends).stored?_after hnext
    (fun store h => hlater store (List.mem_cons_of_mem _ h)) hstored hcalm
  have hpkept : Kept (.ofConfig c.cache) p.cache := (hv.kept_after hkept.1 hlater).1
  have henabled : p.cache.policy.enabled = true := by
    rw [(hkept.2 m hm).policy] at hopened
    rw [hpkept.policy]
    exact hopened
  refine ⟨u, status, headers, live, entry.expiresHeader, hu, hsent, hpassed, hlive, ?_⟩
  intro connection' r' hmethod huri hheaders hsecure haction hfresh hclock q
  have hhit : p.hit? connection' r' =
      some { entry with lastAccessMs := Http.Date.unixMillis p.nowMs } := by
    refine hit?_of_stored hpkept.distinct henabled (hmethod.trans hget) haction ?_ hfresh
    rw [hmethod, huri, hheaders, hsecure]
    exact hstays
  obtain ⟨hforwards, hpools, hserves⟩ := hp.answered_of_hit hhit
  refine ⟨startsTo?_of_hit hhit, hforwards, hpools, fun hchanged => ?_⟩
  have hinside : (v.nowMs : Instant) < calendarEnd := by
    rcases hclock with hclock | hinside
    · exact Int.lt_of_le_of_lt (Int.ofNat_le.2 hclock) (Int.lt_of_lt_of_le hfresh hstands.expires)
    · exact hinside
  obtain ⟨s', hserved, hreplays⟩ :=
    exists_served hhit hstands (Int.natCast_nonneg _) hinside hchanged
  exact ⟨s', hserves s' hserved, hreplays, fun hsame => hsame ▸ hreplays.get?_expires hlive⟩

theorem replays_of_commits_one_chunk :
    let connection : Connection := ⟨.v4 [127, 0, 0, 1] 50000, .v4 [127, 0, 0, 1] 8080, none⟩
    let r : Incoming := ⟨⟨"GET", ⟨none, none, "/page", none⟩, .http11, .empty⟩, []⟩
    let mapper : Routing.Mapper := ⟨.constant (some (.proxy "site" ⟨"10.0.0.1", 80⟩ true)), [], {}⟩
    let before := [Change.event (.request connection r),
      .event (.forward 1 (.headArrives 200 .empty)), .event (.forward 1 (.body (.chunk [1, 2])))]
    let p := ((new {} mapper .empty true 0).after before).after
      [.event (.forward 1 (.body .complete)), .event (.clockSet 1000)]
    p.startsTo? connection r = none ∧ ∃ s, (p.change (.event (.request connection r))).1 =
      .response s ∧ s.body = [1, 2] := by
  intro connection r mapper before p
  let start := new {} mapper .empty true 0
  let v := start.after before
  have hrecords : ((v.pump? 1).bind fun x => if x.2.phase = .reading then
      x.2.capture.bind fun k => (k.finished? v.nowMs).map fun e => e.expires else none) =
        some 300000 := by
    decide +kernel
  obtain ⟨⟨l, pump⟩, hpump, hcapture⟩ := Option.bind_eq_some_iff.1 hrecords
  dsimp only at hcapture
  split at hcapture
  swap
  · cases hcapture
  next hreading =>
  obtain ⟨k, hk, hfinished⟩ := Option.bind_eq_some_iff.1 hcapture
  obtain ⟨entry, hentry, hexpires⟩ := Option.map_eq_some_iff.1 hfinished
  have hs : (start, .event (.request connection r)) ∈ start.history before := List.mem_cons_self
  have hcalm (m : Moment)
      (hm : m ∈ (v.change (.event (.forward 1 (.body .complete)))).2.history
        [.event (.clockSet 1000)]) :
      ¬Disturbs (.ofRequest r.head.method r.head.uri r.head.headers connection.isSecure) m := by
    rw [List.mem_singleton.1 hm]
    exact not_disturbs_clockSet _ _ _
  have hcommits := commits_of_pump hpump hreading hk hentry
  have hreplays := replays_of_commits {} mapper .empty true 0 before [.event (.clockSet 1000)]
    (.event (.forward 1 (.body .complete))) (by simp [before]) start connection r k entry hs rfl
    hcommits hcalm
  obtain ⟨u, status, headers, live, expires, _, _, _, _, hlater⟩ := hreplays
  have hfresh : (p.nowMs : Instant) < entry.expires := by
    rw [hexpires]
    decide +kernel
  obtain ⟨hstarts, _, _, hanswers⟩ := hlater connection r rfl rfl rfl rfl (by decide +kernel) hfresh
    (.inr (by decide +kernel))
  obtain ⟨s, hs, hreplays, _⟩ := hanswers rfl
  have hdata : (frames 1 (start.history before)).flatten = [1, 2] := by decide +kernel
  exact ⟨hstarts, s, hs, hreplays.bytes.trans hdata⟩

end Proxy
end ReverseProxy
