import ReverseProxy.Proofs.Gate.Waiting
import ReverseProxy.Proofs.Server.Forms
import ReverseProxy.Proofs.Server.Timeouts

set_option autoImplicit false

/-!
# Admission

What becomes of the requests that come to a gate. The server sees those that are let in as requests
of its own, so what is known of its proxy holds of them: it takes each in once, and writes one record
for it.
-/
namespace ReverseProxy.Gate
open Request
open Server (named unrouted)

/-- What became of a request in a history `H` that led to `g`, where the proxy has the history `P` and
the records `rs`. For a request inside, to be given up is to have its client leave. -/
structure Fate (unpack : Bytes → Bytes) (c : Config) (H : List Moment) (P : List Proxy.Moment)
    (rs : List Access.Record) (g : Gate) (v : Visit) : Prop where
  whereabouts : Whereabouts H g v
  queued : v ∈ g.waiting → ∃ w, g.next? v.pattern? = some w ∧
    (c.listener.maxConnections.toNat ≤ g.inside.countP (·.1.pattern? == v.pattern?) ∨
      g.move (.turn v.pattern?) = .enter w)
  expired : ∀ m ∈ H, ∀ id?, m.1.move m.2 = .expire v id? →
    v.arrivedMs + c.forwarding.requestTimeoutSecs.toNat * 1000 ≤ m.1.server.proxy.pools.nowMs ∧
      (m.1.step m.2).1 = v.reply timedOut ∧ (m.1.step m.2).2.server =
        m.1.server.run (id?.map (Server.Event.forward · .clientLeaves)).toList
  left : ∀ m ∈ H, ∀ id?, m.1.move m.2 = .leave v id? →
    (m.1.step m.2).1 = .none ∧ (m.1.step m.2).2.server =
      m.1.server.run (id?.map (Server.Event.forward · .clientLeaves)).toList
  refused : opened? (unpacks? unpack c) v.request = none → ∀ m ∈ H, m.1.move m.2 = .enter v →
    (m.1.step m.2).1 = v.reply unsupported ∧ (m.1.step m.2).2.server = m.1.server
  unmatched : ∀ r, opened? (unpacks? unpack c) v.request = some r →
    r.head.uri.form = .authority ∨ r.head.uri.form = .asterisk →
      ∀ m ∈ H, m.1.move m.2 = .enter v →
        (m.1.step m.2).1 = Server.deliver (named r v.fresh).head (.response unrouted) ∧
          (m.1.step m.2).2.server = m.1.server
  reached : ∀ r, opened? (unpacks? unpack c) v.request = some r →
    r.head.uri.form = .origin ∨ r.head.uri.form = .absolute →
      ∀ m ∈ H, m.1.move m.2 = .enter v →
        (m.1.step m.2).1 = (m.1.server.step (.request v.connection r v.fresh)).1 ∧
          m.1.server.Reaches v.connection r v.fresh P rs g.server.proxy

section
variable {g u : Gate} {e : Event} {es : List Event} {v w : Visit} {r : Incoming} {number : Nat}
  {H : List Moment} {id? : Option Nat}

theorem opened?_eq_none_iff {unpack : Bytes → Bytes} {c : Config} :
    opened? (unpacks? unpack c) r = none ↔ c.forwarding.requestCompression = true ∧
      ∃ encoding, r.head.headers.get? "content-encoding" = some encoding ∧
        encoding ≠ Bytes.ofText "gzip" ∧ encoding ≠ Bytes.ofText "identity" := by
  unfold opened? unpacks?
  cases c.forwarding.requestCompression with
  | false => simp
  | true =>
    rw [if_pos rfl]
    cases r.head.headers.get? "content-encoding" with
    | none => simp
    | some encoding =>
      by_cases hgzip : encoding = Bytes.ofText "gzip"
      · simp [hgzip]
      · by_cases hidentity : encoding = Bytes.ofText "identity"
        · have hother : Bytes.ofText "identity" ≠ Bytes.ofText "gzip" := hidentity ▸ hgzip
          simp [hidentity, hother]
        · simp [hgzip, hidentity]

theorem target_of_opened? {unpack? : Option (Bytes → Bytes)} {r' : Incoming}
    (h : opened? unpack? r = some r') :
    r'.head.method = r.head.method ∧ r'.head.uri = r.head.uri := by
  unfold opened? at h
  split at h
  · split at h
    · cases h
      exact ⟨rfl, rfl⟩
    · split at h
      · cases h
        exact ⟨rfl, rfl⟩
      · cases h
  · cases h
    exact ⟨rfl, rfl⟩

theorem isLate_of_expire (h : g.move e = .expire v id?) : g.isLate v = true := by
  have hmoves := g.moves_move e
  rw [h] at hmoves
  cases hmoves with
  | expires number v id? hopen hlate => exact hlate

theorem step_fst (g : Gate) (e : Event) :
    (g.step e).1 = ((g.join e).perform (g.move e)).1 := rfl

theorem step_of_refused (hmove : g.move e = .enter v)
    (hsealed : opened? g.unpack? v.request = none) :
    (g.step e).1 = v.reply unsupported ∧ (g.step e).2.server = g.server := by
  have hsealed' : opened? (g.join e).unpack? v.request = none := hsealed
  constructor
  · rw [step_fst, hmove]
    exact congrArg Prod.fst (enter_of_sealed hsealed')
  · rw [server_step, hmove]
    simp only [served?, entered?, hsealed, Option.map_none]
    rfl

theorem served?_of_opened (hmove : g.move e = .enter v)
    (hopen : opened? g.unpack? v.request = some r) :
    g.served? (g.move e) = some (.request v.connection r v.fresh) := by
  rw [hmove]
  simp only [served?, entered?, hopen, Option.map_some]

theorem step_of_opened (hmove : g.move e = .enter v) (hopen : opened? g.unpack? v.request = some r) :
    (g.step e).1 = (g.server.step (.request v.connection r v.fresh)).1 ∧
      (g.step e).2.server = (g.server.step (.request v.connection r v.fresh)).2 := by
  have hopen' : opened? (g.join e).unpack? v.request = some r := hopen
  constructor
  · rw [step_fst, hmove]
    exact enter_of_opened hopen'
  · rw [server_step, served?_of_opened hmove hopen]
    rfl

theorem step_of_expire (hmove : g.move e = .expire v id?) :
    g.isLate v = true ∧ (g.step e).1 = v.reply timedOut ∧ (g.step e).2.server =
      g.server.run (id?.map (Server.Event.forward · .clientLeaves)).toList := by
  refine ⟨isLate_of_expire hmove, ?_, ?_⟩
  · rw [step_fst, hmove]
    rfl
  · rw [server_step, hmove]
    rfl

theorem step_of_leave (hmove : g.move e = .leave v id?) :
    (g.step e).1 = .none ∧ (g.step e).2.server =
      g.server.run (id?.map (Server.Event.forward · .clientLeaves)).toList := by
  constructor
  · rw [step_fst, hmove]
    rfl
  · rw [server_step, hmove]
    rfl

theorem requestTimeoutMs_of_mem (hm : (u, e) ∈ g.history es) :
    u.server.requestTimeoutMs = g.server.requestTimeoutMs := by
  induction es generalizing g with
  | nil => exact (List.not_mem_nil hm).elim
  | cons e' es ih =>
    rcases List.mem_cons.1 hm with heq | hm
    · cases heq
      rfl
    · rw [ih hm, server_step]
      exact (g.server.timeouts_run _).2

end

section
variable {unpack : Bytes → Bytes} {c : Config} {pages : Pages} {nowMs : Nat} {start : Gate}

theorem server_build (h : build unpack c pages nowMs = .ok start) :
    Server.build c pages nowMs = .ok start.server ∧ start = {
      server := start.server
      unpack? := unpacks? unpack c
      places := c.listener.maxConnections.toNat } := by
  unfold build at h
  cases hbuild : Server.build c pages nowMs with
  | error cause =>
    rw [hbuild] at h
    cases h
  | ok server =>
    rw [hbuild] at h
    cases h
    exact ⟨rfl, rfl⟩

theorem tracked_build (h : build unpack c pages nowMs = .ok start) (es : List Event) :
    Tracked (start.history es) (start.run es) := by
  obtain ⟨_, hstart⟩ := server_build h
  have hempty : Tracked [] start := by
    rw [hstart]
    exact ⟨⟨List.nodup_nil, by simp⟩, by simp, by simp⟩
  exact tracked_run hempty es

theorem settled_build (h : build unpack c pages nowMs = .ok start) (es : List Event) :
    (start.run es).Settled := by
  obtain ⟨_, hstart⟩ := server_build h
  have hempty : start.Settled := by
    rw [hstart]
    exact fun x hx => (List.not_mem_nil hx).elim
  exact hempty.run es

theorem fate_of_logged {es : List Event} {P : List Proxy.Moment} {rs : List Access.Record}
    {u : Gate} {connection : Connection} {r : Incoming} {fresh : Bytes} {text : String}
    (hbuild : build unpack c pages nowMs = .ok start)
    (hlogged : Proxy.Logged P rs (start.run es).server.proxy)
    (hP : P = start.server.proxy.history
      ((servedIn (start.history es)).flatMap Server.Event.changes))
    (hcame : (u, .request connection r fresh) ∈ start.history es)
    (hread : Http.Uri.parse text = .ok r.head.uri) :
    Fate unpack c (start.history es) P rs (start.run es) (u.visit connection r fresh) := by
  let v := u.visit connection r fresh
  obtain ⟨hserver, hstart⟩ := server_build hbuild
  have hunpack : start.unpack? = unpacks? unpack c := congrArg Gate.unpack? hstart
  have hplaces : (start.run es).places = c.listener.maxConnections.toNat :=
    (start.places_run es).trans (congrArg places hstart)
  have hsame (m : Moment) (hm : m ∈ start.history es) : m.1.unpack? = unpacks? unpack c :=
    (unpack?_of_mem hm).trans hunpack
  have hform (r' : Incoming) (hopen : opened? (unpacks? unpack c) r = some r') :
      Server.reachesProxy r'.head.uri = true ↔
        r'.head.uri.form = .origin ∨ r'.head.uri.form = .absolute := by
    have hsame := (target_of_opened? hopen).2
    exact Server.reachesProxy_of_parse (hsame.symm ▸ hread)
  refine ⟨?_, fun hwaits => hplaces ▸ next_of_waiting hwaits, fun m hm id? hmove => ?_,
    fun m hm id? hmove => step_of_leave hmove,
    fun hsealed m hm hmove => step_of_refused hmove (hsame m hm ▸ hsealed),
    fun r' hopen hform' m hm hmove => ?_, fun r' hopen hform' m hm hmove => ?_⟩
  · exact ((tracked_build hbuild es).arrivals _ hcame v (List.mem_singleton_self v)).2
  · obtain ⟨hlate, hanswer⟩ := step_of_expire hmove
    refine ⟨?_, hanswer⟩
    have hdeadline : m.1.server.requestTimeoutMs = c.forwarding.requestTimeoutSecs.toNat * 1000 := by
      obtain ⟨_, mapper, _, hstart⟩ := Server.eq_of_build hserver
      rw [requestTimeoutMs_of_mem hm, hstart]
    rw [← hdeadline]
    exact of_decide_eq_true hlate
  · have hreaches : Server.reachesProxy r'.head.uri = false := by
      rw [← Bool.not_eq_true, hform r' hopen]
      rcases hform' with h | h <;> simp [h]
    obtain ⟨hanswer, hafter⟩ := step_of_opened hmove (hsame m hm ▸ hopen)
    rw [Server.step_of_unmatched _ hreaches] at hanswer hafter
    exact ⟨hanswer, hafter⟩
  · have hreaches := (hform r' hopen).2 hform'
    have hopen' : opened? m.1.unpack? v.request = some r' := hsame m hm ▸ hopen
    have hseen := Server.mem_proxy_history
      (mem_server_history hm (served?_of_opened hmove hopen')) (if_pos hreaches)
    exact ⟨(step_of_opened hmove hopen').1,
      Server.reaches_of_logged hlogged (hP ▸ hseen) hreaches⟩

end

/-- Requests are routed by the two patterns. Whatever a gate has been through, every request that came
waits for one of the places of its pattern still, or its wait has ended once: it was late, its client
left, its packed body was refused, or it was let in. Once it has been let in, a request with a target
in origin form or in absolute form has reached the proxy once and is answered by it as was decided,
unless its deadline comes before. It has a number of its own, no record while it is under way and
exactly one afterwards, in the log if one is kept. But one with an authority or `*` for its target is
answered with a bare 404, and leaves no record and no other trace. -/
theorem reached_by_form (unpack : Bytes → Bytes) {c : Config} {pages : Pages} {nowMs : Nat}
    {start : Gate} (hbuild : build unpack c pages nowMs = .ok start) (es : List Event) :
    let g := start.run es
    let H := start.history es
    let P := start.server.proxy.history ((servedIn H).flatMap Server.Event.changes)
    (∀ path pattern, Server.Pattern.of? path = some pattern ↔ pattern.Matches path) ∧
    (∀ u, Server.reachesProxy u = true ↔ ∃ pattern : Server.Pattern, pattern.Matches u.path) ∧
    (∀ r, opened? (unpacks? unpack c) r = none ↔ c.forwarding.requestCompression = true ∧
      ∃ encoding, r.head.headers.get? "content-encoding" = some encoding ∧
        encoding ≠ Bytes.ofText "gzip" ∧ encoding ≠ Bytes.ofText "identity") ∧
    (∀ x ∈ g.inside, ∃ f, g.server.proxy.forward? x.2 = some f ∧ f.context.headersSent = false) ∧
    (P.filterMap Proxy.requestId?).Nodup ∧
    ∃ rs : List Access.Record,
      g.server.proxy.log = (if c.observability.accessLogEnabled then rs else []) ∧
      (∀ rec ∈ rs, ∃ m ∈ P, Proxy.requestId? m = some rec.requestId) ∧
      ∀ u connection r fresh text, (u, .request connection r fresh) ∈ H →
        Http.Uri.parse text = .ok r.head.uri →
          Fate unpack c H P rs g (u.visit connection r fresh) := by
  intro g H P
  obtain ⟨hserver, _⟩ := server_build hbuild
  obtain ⟨_, mapper, _, hstart⟩ := Server.eq_of_build hserver
  have hproxy : start.server.proxy = .new c mapper pages c.observability.accessLogEnabled nowMs :=
    congrArg Server.proxy hstart
  have hheld : start.server.proxy.Held := hproxy ▸ Proxy.held_new c mapper pages _ nowMs
  have hempty : Proxy.Logged [] [] start.server.proxy :=
    hproxy ▸ Proxy.logged_new c mapper pages _ nowMs
  have hrun : g.server.proxy =
      start.server.proxy.after ((servedIn H).flatMap Server.Event.changes) := by
    rw [server_run, Server.proxy_run]
  obtain ⟨rs, hlogged⟩ :=
    Proxy.logged_after hheld hempty ((servedIn H).flatMap Server.Event.changes)
  rw [List.nil_append, List.nil_append, ← hrun] at hlogged
  have hkeeps : g.server.proxy.keepsLog = c.observability.accessLogEnabled := by
    rw [hrun, Proxy.keepsLog_after hheld]
    exact congrArg Proxy.keepsLog hproxy
  refine ⟨fun path pattern => Server.Pattern.of?_eq_some_iff, fun u => Server.reachesProxy_iff,
    fun r => opened?_eq_none_iff, settled_build hbuild es, (Proxy.nodup_requestIds hheld _).1, rs,
    hkeeps ▸ hlogged.log, hlogged.records, fun u connection r fresh text hcame hread =>
      fate_of_logged hbuild hlogged rfl hcame hread⟩

/-- One place is enough for two requests, one after the other, and each has its record. -/
theorem reached_by_form_one_place :
    let c : Config := {
      listener := { maxConnections := 1 }
      backends := [⟨"a", "web", "10.0.0.1:80"⟩]
      routes := [{ name := "site", pathPrefix := some "/", backendGroup := some "web" }] }
    let ask (method path : String) : Incoming :=
      ⟨⟨method, ⟨none, none, path, some "x"⟩, .http11, .empty⟩, []⟩
    let fails (id : Nat) : Event := .forward id (.exchangeFails "reset")
    let es := [.request default (ask "GET" "/a") [], .request default (ask "DELETE" "///a") [],
      fails 1, .turn (some .below), fails 2]
    ∃ start, build id c .empty 0 = .ok start ∧
      (start.run (es.take 2)).waiting.map (·.request) = [ask "DELETE" "///a"] ∧
      ∃ rec, Proxy.recordsOf (start.run es).server.proxy.log 2 = [rec] ∧
        rec.action = .proxy ∧ rec.status = 500 := by
  intro c ask fails es
  have hrun : (build id c .empty 0).toOption.map (fun start => decide (
      let v := (start.run (es.take 1)).visit default (ask "DELETE" "///a") []
      let u := start.run (es.take 3)
      (start.run (es.take 2)).waiting.map (·.request) = [ask "DELETE" "///a"] ∧
        u.move (.turn (some .below)) = .enter v ∧ u.server.proxy.nextId = 2 ∧
        (u.server.proxy.contextFor default (named (ask "DELETE" "///a") [])).decision.action =
          .proxy ∧
        Proxy.told (start.server.proxy.history
          ((servedIn (start.history es)).flatMap Server.Event.changes)) 2 = [500] ∧
        ((start.run es).server.proxy.forward? 2).isNone)) = some true := by
    decide +kernel
  obtain ⟨start, hbuild, hrun⟩ := exists_ok_of_map hrun
  obtain ⟨hwaiting, hmove, hid, hdecided, htold, hended⟩ := of_decide_eq_true hrun
  refine ⟨start, hbuild, hwaiting, ?_⟩
  obtain ⟨_, _, _, _, _, rs, hlog, _, hfates⟩ := reached_by_form id hbuild es
  have hread : Http.Uri.parse "///a?x" = .ok (ask "DELETE" "///a").head.uri := by decide +kernel
  have hfate := hfates (start.run (es.take 1)) default (ask "DELETE" "///a") [] "///a?x"
    (List.mem_cons_of_mem _ List.mem_cons_self) hread
  have hturn : (start.run (es.take 3), .turn (some .below)) ∈ start.history es :=
    List.mem_cons_of_mem _ (List.mem_cons_of_mem _ (List.mem_cons_of_mem _ List.mem_cons_self))
  obtain ⟨_, hreaches⟩ := hfate.reached (ask "DELETE" "///a") rfl (.inl rfl) _ hturn hmove
  have hdone := hreaches.ended
  rw [hid] at hdone
  obtain ⟨rec, hrec, haction, hstatus⟩ := hdone (Option.isNone_iff_eq_none.1 hended)
  refine ⟨rec, ?_, haction.trans hdecided, ?_⟩
  · rw [hlog]
    exact hrec
  · rw [hstatus, htold]
    rfl

/-- A request for the server as a whole and one for a tunnel get a bare 404, and nobody knows of them
afterwards. -/
theorem unmatched_leave_no_record :
    let star : Incoming := ⟨⟨"OPTIONS", ⟨none, none, "*", none⟩, .http11, .empty⟩, []⟩
    let tunnel : Incoming :=
      ⟨⟨"CONNECT", ⟨none, some "site.test:443", "", none⟩, .http11, .empty⟩, []⟩
    let c : Config := {}
    let answer (start : Gate) (r : Incoming) :=
      match (start.step (.request default r [])).1 with
      | .response a => some (a.status, a.body)
      | _ => none
    let records (start : Gate) := (start.run [.request default star [],
      .request default tunnel []]).server.proxy.log.length
    Http.Uri.parse "*" = .ok star.head.uri ∧ Http.Uri.parse "site.test:443" = .ok tunnel.head.uri ∧
      c.observability.accessLogEnabled = true ∧ c.forwarding.requestCompression = false ∧
      (build id c .empty 0).toOption.map (fun start =>
        (answer start star, answer start tunnel, records start)) =
          some (some (404, []), some (404, []), 0) := by
  decide +kernel

end ReverseProxy.Gate
