import ReverseProxy.Proofs.Proxy.Fields
import ReverseProxy.Proofs.Proxy.Sources
import ReverseProxy.Proofs.Server.History

set_option autoImplicit false

namespace ReverseProxy.Server
open Request
open Proxy (Change)

/-- The first id that a request came with, or the one that it was given. -/
def idOf (r : Incoming) (fresh : Bytes) : Bytes := (r.head.headers.get? idHeader).getD fresh

def keyOf (connection : Connection) (r : Incoming) : Cache.Key :=
  .ofRequest r.head.method r.head.uri r.head.headers connection.isSecure

/-- What happens for a request: it comes in, or something happens to its forward. -/
inductive OnBehalf (H : List (Server × Event)) (connection : Connection) (r : Incoming)
    (fresh : Bytes) : Event → Prop where
  | comes : OnBehalf H connection r fresh (.request connection r fresh)
  | goesOn (s : Server) (e : Forward.Event) (came : (s, .request connection r fresh) ∈ H)
      (reaches : reachesProxy r.head.uri = true) :
    OnBehalf H connection r fresh (.forward s.proxy.nextId e)

/-- The ids that a response starts out with. -/
def brought (s : Server) (e : Event) : List Bytes := e.changes.flatMap (s.proxy.brought idHeader)

def mutations (s : Server) (e : Event) : List Routing.Mutation :=
  e.changes.flatMap s.proxy.mutations

def ids (s : Server) (e : Event) : List Bytes :=
  Routing.changed (s.mutations e) idHeader (s.brought e)

/-- Where the ids that a response starts out with come from. -/
inductive Origin (H : List (Server × Event)) : Event → List Bytes → Prop where
  | none (e : Event) : Origin H e []
  | head (id : Nat) (status : Http.Status) (headers : Http.Headers) :
    Origin H (.forward id (.headArrives status headers)) (headers.getAll idHeader)
  | entry (connection : Connection) (r : Incoming) (fresh : Bytes) (s : Server)
      (first : Connection) (asked : Incoming) (given : Bytes)
      (came : (s, .request first asked given) ∈ H) (same : keyOf connection r = keyOf first asked)
      (u : Server) (status : Http.Status) (headers sent : Http.Headers)
      (arrived : (u, .forward s.proxy.nextId (.headArrives status headers)) ∈ H)
      (answered : (u.step (.forward s.proxy.nextId (.headArrives status headers))).1 =
        .streaming status sent) :
    Origin H (.request connection r fresh) (headers.getAll idHeader)

section
variable {c : Config} {pages : Pages} {nowMs : Nat} {start s : Server} {es : List Event} {e : Event}
  {h : Http.Headers} {connection : Connection} {r : Incoming} {fresh : Bytes} {name : String}
  {id : Nat}

theorem get?_withId (fresh : Bytes) (h : Http.Headers) :
    (withId fresh h).get? idHeader = some ((h.get? idHeader).getD fresh) := by
  unfold withId
  by_cases hid : h.contains idHeader = true
  · rw [if_pos hid]
    unfold Http.Headers.get?
    cases hall : h.getAll idHeader with
    | nil => exact absurd hall ((h.contains_iff _).1 hid)
    | cons id ids => rfl
  · have hnone : h.getAll idHeader = [] := not_not.1 fun hsome => hid ((h.contains_iff _).2 hsome)
    rw [if_neg hid]
    unfold Http.Headers.get?
    rw [Http.Headers.getAll_insert, if_pos rfl, hnone]
    rfl

theorem getAll_withId (fresh : Bytes) (h : Http.Headers) (hname : name ≠ idHeader) :
    (withId fresh h).getAll name = h.getAll name := by
  unfold withId
  split
  · rfl
  · rw [Http.Headers.getAll_insert, if_neg hname.symm]

theorem keyOf_named (connection : Connection) (r : Incoming) (fresh : Bytes) :
    keyOf connection (named r fresh) = keyOf connection r := by
  have hhost : (withId fresh r.head.headers).getAll "host" = r.head.headers.getAll "host" :=
    getAll_withId fresh _ (by decide)
  have hencodings : (withId fresh r.head.headers).getAll "accept-encoding" =
      r.head.headers.getAll "accept-encoding" := getAll_withId fresh _ (by decide)
  unfold keyOf named Cache.Key.ofRequest Cache.Key.authorityOf Http.Headers.text? Http.Headers.get?
  rw [hhost, hencodings]

theorem getAll_echoId (request response : Http.Headers) :
    (echoId request response).getAll idHeader =
      if response.getAll idHeader = [] then (request.get? idHeader).toList
      else response.getAll idHeader := by
  unfold echoId
  cases request.get? idHeader with
  | none =>
    dsimp only
    split
    · next hnone => rw [hnone]; rfl
    · rfl
  | some id =>
    dsimp only
    by_cases hid : response.contains idHeader = true
    · rw [if_pos hid, if_neg ((response.contains_iff _).1 hid)]
    · have hnone : response.getAll idHeader = [] :=
        not_not.1 fun hsome => hid ((response.contains_iff _).2 hsome)
      rw [if_neg hid, if_pos hnone, Http.Headers.getAll_insert, if_pos rfl]
      rfl

theorem getAll_withLength (method : String) (r : Http.Response) :
    (withLength method r).headers.getAll idHeader = r.headers.getAll idHeader := by
  unfold withLength
  split
  · rfl
  · dsimp only
    split
    · rfl
    · exact getAll_insert_framed (by decide) _ (by decide) _

theorem getAll_deliver {head : Head} {o : Outcome} (hh : h ∈ (deliver head o).headers?) :
    ∃ h' ∈ o.headers?, h.getAll idHeader =
      if h'.getAll idHeader = [] then (head.headers.get? idHeader).toList
      else h'.getAll idHeader := by
  cases o with
  | response r =>
    cases hh
    refine ⟨r.headers, rfl, ?_⟩
    rw [getAll_echoId, getAll_withLength]
  | streaming status headers =>
    cases hh
    exact ⟨headers, rfl, getAll_echoId _ _⟩
  | none | crashed => cases hh

theorem plain_run (hbuild : build c pages nowMs = .ok start) (es : List Event) :
    (start.run es).proxy.Plain := by
  obtain ⟨_, mapper, hmapper, rfl⟩ := eq_of_build hbuild
  rw [proxy_run]
  refine Proxy.Plain.after ⟨Routing.Mapper.plain_build hmapper, fun f hf => ?_⟩ fun m hm => ?_
  · exact (List.not_mem_nil hf).elim
  obtain ⟨e, _, hm⟩ := List.mem_flatMap.1 hm
  obtain ⟨c', hbuilt⟩ := built_of_mem hm
  exact Routing.Mapper.plain_build hbuilt

theorem ids_of_changes {change : Change} (h : e.changes = [change]) : s.ids e =
    Routing.changed (s.proxy.mutations change) idHeader (s.proxy.brought idHeader change) := by
  unfold ids mutations brought
  rw [h, List.flatMap_singleton, List.flatMap_singleton]

theorem ids_of_nothing (h : e.changes = []) : s.ids e = [] := by
  unfold ids mutations brought
  rw [h]
  rfl

theorem getAll_of_change (hplain : s.proxy.Plain) {change : Change} (hchanges : e.changes = [change])
    (hh : h ∈ (s.proxy.change change).1.headers?) : h.getAll idHeader = s.ids e := by
  rw [ids_of_changes hchanges]
  exact (Proxy.shows_change (by decide) hplain change).values h hh

theorem get?_named (r : Incoming) (fresh : Bytes) :
    ((named r fresh).head.headers.get? idHeader).toList = [idOf r fresh] :=
  congrArg Option.toList (get?_withId fresh r.head.headers)

theorem getAll_request (hplain : s.proxy.Plain)
    (hh : h ∈ (s.step (.request connection r fresh)).1.headers?) :
    let ids := s.ids (.request connection r fresh)
    h.getAll idHeader = if ids = [] then [idOf r fresh] else ids := by
  intro ids
  rw [step_request] at hh
  obtain ⟨h', hh', hids⟩ := getAll_deliver hh
  rw [get?_named] at hids
  have hcomes : h'.getAll idHeader = ids := by
    by_cases hreaches : reachesProxy r.head.uri = true
    · have hchanges : Event.changes (.request connection r fresh) =
          [.event (.request connection (named r fresh))] := if_pos hreaches
      rw [if_pos hreaches] at hh'
      exact getAll_of_change hplain hchanges hh'
    · have hchanges : Event.changes (.request connection r fresh) = [] := if_neg hreaches
      have hnothing : ids = [] := ids_of_nothing hchanges
      rw [if_neg hreaches] at hh'
      cases hh'
      exact hnothing.symm
  rw [hids, hcomes]

theorem getAll_forward (hplain : s.proxy.Plain) {fe : Forward.Event}
    (hhead : ∀ f, s.proxy.forward? id = some f → f.context.head = (named r fresh).head)
    (hh : h ∈ (s.step (.forward id fe)).1.headers?) :
    let ids := s.ids (.forward id fe)
    h.getAll idHeader = if ids = [] then [idOf r fresh] else ids := by
  intro ids
  rcases s.step_forward id fe with ⟨hnone, _⟩ | ⟨f, hf, hstep⟩
  · rw [hnone] at hh
    cases hh
  · rw [hstep] at hh
    obtain ⟨h', hh', hids⟩ := getAll_deliver hh
    have hcomes : h'.getAll idHeader = ids := getAll_of_change hplain rfl hh'
    rw [hids, hcomes, hhead f hf, get?_named]

theorem head_of_came (hbuild : build c pages nowMs = .ok start)
    (hcame : (s, .request connection r fresh) ∈ start.history es)
    (hreaches : reachesProxy r.head.uri = true) {f : Forward}
    (hf : (start.run es).proxy.forward? s.proxy.nextId = some f) :
    f.context.head = (named r fresh).head := by
  obtain ⟨_, mapper, hproxy⟩ := proxy_build hbuild
  have hrecalled := Proxy.recalled_new c mapper pages c.observability.accessLogEnabled nowMs
    (es.flatMap Event.changes)
  dsimp only at hrecalled
  rw [← hproxy, ← proxy_run] at hrecalled
  have hid : f.context.id = s.proxy.nextId := by simpa using List.find?_some hf
  have hresumes := (hrecalled.forwards f (List.mem_of_find?_eq_some hf)).request s.proxy connection
    (named r fresh) (mem_proxy_history hcame (if_pos hreaches)) hid.symm
  exact hresumes.head

theorem filled_run (hbuild : build c pages nowMs = .ok start) (es : List Event) :
    (start.run es).proxy.cache.Distinct ∧ ∀ l ∈ (start.run es).proxy.cache.live,
      Proxy.Filled (start.proxy.history (es.flatMap Event.changes)) l.key l.entry := by
  obtain ⟨_, mapper, hproxy⟩ := proxy_build hbuild
  have hothers (store : Cache.Store) : .cache store ∉ es.flatMap Event.changes := by
    intro hmem
    obtain ⟨e, _, hmem⟩ := List.mem_flatMap.1 hmem
    exact cache_notMem e store hmem
  have hstart := Proxy.held_new c mapper pages c.observability.accessLogEnabled nowMs
  have hempty := Proxy.kept_new c mapper pages c.observability.accessLogEnabled nowMs
  rw [proxy_run, hproxy]
  exact ⟨(hstart.kept_after hempty fun store hmem => absurd hmem (hothers store)).1.distinct,
    Proxy.filled_new c mapper pages c.observability.accessLogEnabled nowMs _ hothers⟩

theorem origin_of_hit (hbuild : build c pages nowMs = .ok start) {entry : Cache.Entry}
    (hhit : (start.run es).proxy.hit? connection (named r fresh) = some entry) :
    Origin (start.history es) (.request connection r fresh) (entry.headers.getAll idHeader) := by
  obtain ⟨hdistinct, hlive⟩ := filled_run hbuild es
  obtain ⟨p, first, asked, status, headers, ⟨htaken, ⟨u, shown, hu, hsent⟩, hfields⟩, hkey⟩ :=
    Proxy.filled_of_hit hdistinct hlive hhit
  obtain ⟨s, e, hcame, rfl, hchanges⟩ := exists_mem_history htaken
  obtain ⟨asked, given, rfl, rfl⟩ := request_of_changes hchanges
  obtain ⟨u, e, harrived, rfl, hchanges⟩ := exists_mem_history hu
  obtain rfl := forward_of_changes hchanges
  obtain ⟨sent, hanswered⟩ := streaming_of_change hsent
  have hsame : keyOf connection r = keyOf first asked := by
    rw [← keyOf_named connection r fresh, ← keyOf_named first asked given]
    exact hkey
  have hvalues : entry.headers.getAll idHeader = headers.getAll idHeader := by
    rw [hfields, Cache.getAll_storableHeaders, if_neg (by decide), getAll_stripHopByHop (by decide)]
  rw [hvalues]
  exact .entry connection r fresh s first asked given hcame hsame u status headers sent harrived
    hanswered

theorem origin_of_brought (hbuild : build c pages nowMs = .ok start) (es : List Event) (e : Event) :
    Origin (start.history es) e ((start.run es).brought e) := by
  have hinner := inner_changes e
  unfold brought
  generalize e.changes = cs at hinner
  cases hinner with
  | nothing | timePasses | clockSet | sweep | reload | forgo => exact .none _
  | forward id fe =>
    rw [List.flatMap_singleton]
    cases fe with
    | headArrives status headers => exact .head id status headers
    | leaseAnswered | connectFails | exchangeFails | silence | cutOff | body | clientReads
      | clientLeaves | noRoom => exact .none _
  | request connection r fresh =>
    rw [List.flatMap_singleton]
    change Origin _ _ ((start.run es).proxy.found idHeader connection (named r fresh))
    unfold Proxy.found
    split
    · next entry hhit =>
      split
      · exact .none _
      · exact origin_of_hit hbuild hhit
    · exact .none _

theorem brought_of_silent {H : List (Server × Event)} {vs : List Bytes} (h : Origin H e vs)
    (hhead : ∀ id status headers, e = .forward id (.headArrives status headers) →
      headers.getAll idHeader = [])
    (hentry : ∀ u id status headers, (u, .forward id (.headArrives status headers)) ∈ H →
      headers.getAll idHeader = []) : vs = [] := by
  cases h with
  | none => rfl
  | head id status headers => exact hhead id status headers rfl
  | entry _ r fresh s first asked given came same u status headers sent arrived =>
    exact hentry u s.proxy.nextId status headers arrived

end

/-- Whatever a server has been through, a response goes out with the ids that it comes with, and
only where there are none with the first id that its client sent or the one that the request was
given. So it carries the id of its own request alone just if it comes with none or with that one. It
comes with what its decision makes of the ids that a backend sent: in the head that arrives or, from
the cache, in the head that a request with the same key was answered with. Where no head names an id
and the decision does not either, the response carries the id of its own request. -/
theorem ids_of_responses {c : Config} {pages : Pages} {nowMs : Nat} {start : Server}
    (hbuild : build c pages nowMs = .ok start) (es : List Event) {connection : Connection}
    {r : Incoming} {fresh : Bytes} {e : Event}
    (hfor : OnBehalf (start.history es) connection r fresh e) {h : Http.Headers}
    (hh : h ∈ ((start.run es).step e).1.headers?) :
    let s := start.run es
    let id := idOf r fresh
    h.getAll idHeader = (if s.ids e = [] then [id] else s.ids e) ∧
    (h.getAll idHeader = [id] ↔ s.ids e = [] ∨ s.ids e = [id]) ∧
    Origin (start.history es) e (s.brought e) ∧
    ((∀ m ∈ s.mutations e, m.field ≠ idHeader) →
      (∀ n status headers, .forward n (.headArrives status headers) ∈ es ++ [e] →
        headers.getAll idHeader = []) → h.getAll idHeader = [id]) := by
  intro s id
  have hplain : s.proxy.Plain := plain_run hbuild es
  have horigin := origin_of_brought hbuild es e
  have hids : h.getAll idHeader = if s.ids e = [] then [id] else s.ids e := by
    cases hfor with
    | comes => exact getAll_request hplain hh
    | goesOn u fe came reaches =>
      exact getAll_forward hplain (fun f hf => head_of_came hbuild came reaches hf) hh
  refine ⟨hids, ?_, horigin, fun hmutations hsilent => ?_⟩
  · rw [hids]
    by_cases hnone : s.ids e = [] <;> simp [hnone]
  · have hbrought : s.brought e = [] := by
      refine brought_of_silent horigin (fun n status headers he => ?_)
        fun u n status headers hmem => ?_
      · exact hsilent n status headers (he ▸ List.mem_append_right _ (List.mem_singleton_self _))
      · exact hsilent n status headers (List.mem_append_left _ (snd_mem_of_history hmem))
    have hnone : s.ids e = [] := by
      unfold ids
      rw [hbrought]
      exact Routing.changed_of_others hmutations []
    rw [hids, if_pos hnone]

theorem ids_of_responses_hit :
    let connection : Connection := ⟨.v4 [127, 0, 0, 1] 50000, .v4 [127, 0, 0, 1] 8080, none⟩
    let r (id : Bytes) : Incoming :=
      ⟨⟨"GET", ⟨none, none, "/page", none⟩, .http11, Http.Headers.empty.insert idHeader id⟩, []⟩
    let c : Config :=
      { backends := [⟨"a", "web", "10.0.0.1:80"⟩]
        routes := [{ name := "site", action := .proxyAndCache, backendGroup := some "web" }] }
    let es := [.request connection (r [49]) [], .forward 1 (.headArrives 200 .empty),
      .forward 1 (.body (.chunk [1, 2])), .forward 1 (.body .complete)]
    let e := Event.request connection (r [50]) []
    ∃ start h, build c .empty 0 = .ok start ∧ h ∈ ((start.run es).step e).1.headers? ∧
      h.contains Cache.originHeader = true ∧ h.getAll idHeader = [[50]] := by
  intro connection r c es e
  have hrun : (build c .empty 0).toOption.map (fun start => ((start.run es).mutations e,
      ((start.run es).step e).1.headers?.map (·.contains Cache.originHeader))) =
        some ([], some true) := by
    decide +kernel
  obtain ⟨start, hbuild, hstart⟩ := exists_ok_of_map hrun
  obtain ⟨hmutations, hheaders⟩ := Prod.mk.inj hstart
  obtain ⟨h, hh, horigin⟩ := Option.map_eq_some_iff.1 hheaders
  obtain ⟨_, _, _, hsilent⟩ := ids_of_responses hbuild es .comes hh
  refine ⟨start, h, hbuild, hh, horigin, hsilent ?_ ?_⟩
  · rw [hmutations]
    exact fun m hm => (List.not_mem_nil hm).elim
  · intro n status headers hmem
    simp only [es, List.cons_append, List.nil_append, List.mem_cons, List.not_mem_nil, reduceCtorEq,
      Event.forward.injEq, Forward.Event.headArrives.injEq, and_false, false_or, or_false] at hmem
    obtain ⟨_, _, rfl⟩ := hmem
    rfl

/-- A backend that sends back the id that it was sent makes the cache hand it on to others. -/
theorem id_of_another_request :
    let connection : Connection := ⟨.v4 [127, 0, 0, 1] 50000, .v4 [127, 0, 0, 1] 8080, none⟩
    let named (id : Bytes) := Http.Headers.empty.insert idHeader id
    let r (id : Bytes) : Incoming :=
      ⟨⟨"GET", ⟨none, none, "/page", none⟩, .http11, named id⟩, []⟩
    let c : Config :=
      { backends := [⟨"a", "web", "10.0.0.1:80"⟩]
        routes := [{ name := "site", action := .proxyAndCache, backendGroup := some "web" }] }
    let es := [.request connection (r [49]) [], .forward 1 (.headArrives 200 (named [49])),
      .forward 1 (.body (.chunk [1, 2])), .forward 1 (.body .complete)]
    (build c .empty 0).toOption.map (fun start =>
      ((start.run es).step (.request connection (r [50]) [])).1.headers?.map fun h =>
        (h.contains Cache.originHeader, h.getAll idHeader)) = some (some (true, [[49]])) ∧
    (build c .empty 0).toOption.map (fun start =>
      ((start.run [.request connection (r [49]) []]).step
        (.forward 1 (.headArrives 200 (named [50])))).1.headers?.map (·.getAll idHeader)) =
          some (some [[50]]) := by
  decide +kernel

end ReverseProxy.Server
