import ReverseProxy.Proofs.Cache.Operations
import ReverseProxy.Proofs.Proxy.Streams

set_option autoImplicit false

namespace ReverseProxy.Cache
open Http.Date (Instant)

/-- One new entry with the given body, and every other one as before. -/
def Store.Gains (s s' : Store) (key : Key) (body : Bytes) : Prop :=
  ∃ e : Entry, s'.find? key = some ⟨key, s.nextSerial, e⟩ ∧ e.body = body ∧
    ∀ other, other ≠ key → s'.find? other = s.find? other

section
variable {k c : Capture} {data : List Bytes}

theorem Capture.Recorded.isActive (h : k.Recorded c data) :
    c.isActive = decide (data.flatten.length ≤ k.maxFileSize) := by
  unfold Capture.isActive
  rcases h.state with ⟨hle, head, body, hstate, _⟩ | ⟨hlt, why, hstate⟩
  · rw [hstate, decide_eq_true hle]
  · rw [hstate, decide_eq_false (Nat.not_le.2 hlt)]

theorem Capture.Recorded.gains_commit (h : k.Recorded c data)
    (hle : data.flatten.length ≤ k.maxFileSize) (s : Store) (now : Instant) :
    s.Gains (s.commit c now).2 k.key data.flatten := by
  rcases h.state with ⟨_, head, body, hstate, hbody, _⟩ | ⟨hlt, _⟩
  · rcases s.commit_cases c now with ⟨hnone, _⟩ | ⟨e, he, hcommit⟩
    · unfold Capture.finished? at hnone
      rw [hstate] at hnone
      cases hnone
    · have hentry : e.body = data.flatten := by
        unfold Capture.finished? at he
        rw [hstate] at he
        cases he
        exact hbody
      have hfind (key : Key) : (s.commit c now).2.find? key = (s.insert c.key e).find? key := by
        rw [hcommit]
        rfl
      refine ⟨e, ?_, hentry, fun other hne => ?_⟩
      · rw [hfind, Store.find?_insert, if_pos h.key.symm, h.key]
      · rw [hfind, Store.find?_insert, h.key, if_neg hne]
  · omega

end

end ReverseProxy.Cache

namespace ReverseProxy.Proxy
open Request

section
variable {p q : Proxy} {f : Forward} {id : Nat} {l : Pool.Lease} {pump : Forward.Pump}

theorem cache_noteFailure (p : Proxy) (id : Nat) (why : Forward.Failure) :
    (p.noteFailure id why).cache = p.cache := by
  unfold noteFailure
  dsimp only
  split
  · split
    · split <;> rfl
    · split <;> rfl
  · split <;> rfl

theorem cache_failForward (p : Proxy) (f : Forward) (why : Forward.Failure) :
    (p.failForward f why).2.cache = p.cache := cache_noteFailure _ _ why

theorem cache_refuse (p : Proxy) (f : Forward) (why : Pool.Refusal) :
    (p.refuse f why).2.cache = p.cache := by
  unfold refuse
  split
  · exact cache_failForward p f _
  · rfl

theorem cache_askForLease (p : Proxy) (f : Forward) (retries : Nat) :
    (p.askForLease f retries).2.cache = p.cache := by
  fun_induction Proxy.askForLease p f retries with
  | case1 | case5 => rfl
  | case2 p ref t pools hasked p' why ha => exact cache_refuse p' f why
  | case3 retries p ref t pools hasked p' why ha hretry ih => exact ih
  | case4 p ref t pools hasked p' why ha retries hretry => exact cache_refuse p' f why

theorem cache_startForward (p : Proxy) (m : Routing.Mapper) (c : Context) (body : Bytes)
    (mayCapture : Bool) : (p.startForward m c body mayCapture).2.cache = p.cache := by
  unfold startForward
  split
  · exact cache_noteFailure p _ _
  · dsimp only
    split
    · exact cache_noteFailure _ _ _
    · exact cache_askForLease _ _ _

theorem cache_exchangeFails (p : Proxy) (f : Forward) (why : Forward.Failure) :
    (p.exchangeFails f why).2.cache = p.cache := by
  unfold exchangeFails
  split
  · exact cache_failForward _ f why
  · rfl

theorem cache_leaseAnswered (p : Proxy) (f : Forward) :
    (p.leaseAnswered f).2.cache = p.cache := by
  unfold leaseAnswered
  split
  · split
    · rfl
    · split
      · exact cache_askForLease p f _
      · exact cache_refuse p f _
    · rfl
  · rfl

theorem cache_headArrives (p : Proxy) (f : Forward) (status : Http.Status) (h : Http.Headers) :
    (p.headArrives f status h).2.cache = p.cache := by
  unfold headArrives
  split
  · dsimp only
    split <;> rfl
  · rfl

theorem cache_onForward (hunsent : ∀ l pump, f.stage ≠ .streaming l pump) (e : Forward.Event) :
    (p.onForward f e).2.cache = p.cache := by
  have hpump (event : Forward.PumpEvent) : (p.pumpEvent f event).2.cache = p.cache := by
    unfold pumpEvent
    split
    · next l pump hstage => exact absurd hstage (hunsent l pump)
    · rfl
  cases e with
  | leaseAnswered => exact cache_leaseAnswered p f
  | connectFails | exchangeFails => exact cache_exchangeFails p f _
  | headArrives status headers => exact cache_headArrives p f status headers
  | body | clientReads | noRoom => exact hpump _
  | silence =>
    change (p.silence f).2.cache = _
    unfold silence
    split
    · exact cache_exchangeFails p f _
    · exact hpump _
  | cutOff =>
    change (p.cutOff f).2.cache = _
    unfold cutOff
    split
    · split
      · exact cache_exchangeFails p f _
      · rfl
    · split
      · exact hpump _
      · rfl
    · rfl
  | clientLeaves =>
    change (p.clientLeaves f).2.cache = _
    unfold clientLeaves
    split
    · rfl
    · rfl
    · exact hpump _

theorem commit_touch (p : Proxy) (f : Forward) (phase : Forward.PumpPhase) (e : Forward.PumpEvent)
    (capture : Option Cache.Capture) :
    ((p.touch f phase e).1.commit capture).cache = (p.commit capture).cache ∧
      (p.touch f phase e).1.cache = p.cache := by
  have hcommit {q : Proxy} (hcache : q.cache = p.cache) (hnow : q.nowMs = p.nowMs) :
      (q.commit capture).cache = (p.commit capture).cache := by
    unfold Proxy.commit
    split
    · rw [hcache, hnow]
      split
      · rfl
      · exact hcache
    · exact hcache
  unfold touch
  split
  · exact ⟨hcommit rfl rfl, rfl⟩
  · exact ⟨rfl, rfl⟩

theorem cache_pumpEvent (hstage : f.stage = .streaming l pump) (e : Forward.PumpEvent) :
    (p.pumpEvent f e).2.cache = if (pump.step e).ending? = some .complete then
      (p.commit (pump.step e).capture).cache else p.cache := by
  obtain ⟨hcommit, hcache⟩ := commit_touch p f pump.phase e (pump.step e).capture
  unfold pumpEvent
  rw [hstage]
  dsimp only
  cases hending : (pump.step e).ending? with
  | none => exact hcache.trans (if_neg (by simp)).symm
  | some how =>
    cases how with
    | complete => exact hcommit.trans (if_pos rfl).symm
    | failed why =>
      refine .trans ?_ (if_neg (by simp)).symm
      exact (cache_noteFailure (p.touch f pump.phase e).1 _ why).trans hcache

theorem Held.cache_change (hp : p.Held) (hpump : p.pump? id = some (l, pump))
    (e : Forward.Event) :
    (p.change (.event (.forward id e))).2.cache =
      if pump.phase = .reading ∧ e = .body .complete then (p.commit pump.capture).cache
      else p.cache := by
  obtain ⟨f, hf, hstage⟩ := pump?_eq_some_iff.1 hpump
  obtain ⟨hmem, _⟩ := hp.forward?_iff.1 hf
  have hruns : pump.ending? = none := ((hp.sound f hmem).pumping hstage).ending
  rw [change_forward, hf]
  dsimp only
  rw [onForward_streaming hstage]
  by_cases hend : pump.phase = .reading ∧ e = .body .complete
  · obtain ⟨hreading, rfl⟩ := hend
    have hcomplete := (Forward.Pump.ending?_step_complete hruns (.backend .complete)).2
      ⟨hreading, rfl⟩
    have hcapture : (pump.step (.backend .complete)).capture = pump.capture := by
      simp only [Forward.Pump.step, hreading]
      rfl
    rw [if_pos ⟨hreading, rfl⟩, ← hcapture]
    exact (cache_pumpEvent hstage _).trans (if_pos hcomplete)
  · rw [if_neg hend]
    cases hpe : p.pumpEvent? l e with
    | none => rfl
    | some pe =>
      refine (cache_pumpEvent hstage pe).trans (if_neg fun hcomplete => hend ?_)
      obtain ⟨hreading, rfl⟩ := (Forward.Pump.ending?_step_complete hruns pe).1 hcomplete
      refine ⟨hreading, ?_⟩
      cases e with
      | body b =>
        cases hpe
        rfl
      | cutOff => simp [pumpEvent?] at hpe
      | leaseAnswered | connectFails | exchangeFails | headArrives | silence | clientReads
        | clientLeaves | noRoom => cases hpe

theorem cache_commit {k k' : Cache.Capture} {status : Http.Status} {headers : Http.Headers}
    (hawaits : k.state = .awaitingHead) (hhead : k.onHead? status headers = some k')
    (data : List Bytes) :
    let capture := ((some k').filter (·.isActive)).map fun c => data.foldl Cache.Capture.onChunk c
    if k.acceptsHead k' ∧ data.flatten.length ≤ k.maxFileSize then
      p.cache.Gains (p.commit capture).cache k.key data.flatten
    else (p.commit capture).cache = p.cache := by
  intro capture
  have hcapture : capture = ((some k').filter (·.isActive)).map fun c =>
    data.foldl Cache.Capture.onChunk c := rfl
  by_cases haccepts : k.acceptsHead k' = true
  · have hactive : k'.isActive = true := (Bool.and_eq_true_iff.1 haccepts).2
    have hrecorded := (Cache.Capture.recorded_of_acceptsHead hhead haccepts).foldl data
    rw [List.nil_append] at hrecorded
    rw [Option.filter_some_pos hactive, Option.map_some] at hcapture
    rw [hcapture]
    unfold Proxy.commit
    dsimp only
    rw [hrecorded.isActive]
    by_cases hle : data.flatten.length ≤ k.maxFileSize
    · rw [if_pos ⟨haccepts, hle⟩, if_pos (decide_eq_true hle)]
      exact hrecorded.gains_commit hle p.cache p.nowMs
    · rw [if_neg fun h => hle h.2, if_neg (by simpa using hle)]
  · -- A capture that refused the head was let go with it, so the pump has none.
    have hinactive : k'.isActive = false := by
      refine Bool.eq_false_iff.2 fun hactive => haccepts ?_
      unfold Cache.Capture.acceptsHead
      rw [hawaits, hactive]
      rfl
    rw [Option.filter_some_neg hinactive, Option.map_none] at hcapture
    rw [if_neg fun h => haccepts h.1, hcapture]
    rfl

theorem pump?_headArrives {k : Cache.Capture} (hk : f.capture = some k) {status : Http.Status}
    {headers : Http.Headers} {sent : Http.Status} {shown : Http.Headers}
    (hsent : (p.headArrives f status headers).1 = .streaming sent shown) :
    ∃ l k', k.onHead? status headers.stripHopByHop = some k' ∧
      (p.headArrives f status headers).2.pump? f.context.id = some (l, .start f.endpoint
        (p.poolIdOf l) p.stuckTimeout ((some k').filter (·.isActive))) := by
  unfold headArrives at hsent ⊢
  unfold captureHead? at hsent ⊢
  rw [hk] at hsent ⊢
  split at hsent
  · next l hstage =>
    dsimp only at hsent ⊢
    cases hhead : k.onHead? status headers.stripHopByHop with
    | none =>
      rw [hhead] at hsent
      cases hsent
    | some k' => exact ⟨l, k', rfl, pump?_eq_some_iff.2 ⟨_, forward?_putForward p _, rfl⟩⟩
  · cases hsent

theorem Held.unsent_of_capture (hp : p.Held) (hf : p.forward? id = some f) {k : Cache.Capture}
    (hk : f.capture = some k) :
    (∀ l pump, f.stage ≠ .streaming l pump) ∧ k.state = .awaitingHead := by
  obtain ⟨hmem, _⟩ := hp.forward?_iff.1 hf
  have hsound := hp.sound f hmem
  have hunsent : ∀ l pump, f.stage ≠ .streaming l pump := by
    intro l pump hstage
    have hnone := (hsound.pumping hstage).capture
    rw [hk] at hnone
    cases hnone
  exact ⟨hunsent, (hsound.unsent hunsent).capture k hk⟩

theorem Held.relays_after_head (hp : p.Held) (hf : p.forward? id = some f) {k : Cache.Capture}
    (hk : f.capture = some k) {status : Http.Status} {headers : Http.Headers} {sent : Http.Status}
    {shown : Http.Headers} {head : Change}
    (hhead : head = .event (.forward id (.headArrives status headers)))
    (hsent : (p.change head).1 = .streaming sent shown) (ds : List Change) :
    ∃ k', k.onHead? status headers.stripHopByHop = some k' ∧
      ((p.after (head :: ds)).forward? id = none ∨ ∃ l pump passed,
        (p.after (head :: ds)).pump? id = some (l, pump) ∧
        pump.Relays ((some k').filter (·.isActive)) (frames id (p.history (head :: ds)))
          passed) := by
  obtain ⟨_, hid⟩ := hp.forward?_iff.1 hf
  have hchange : p.change head = p.headArrives f status headers := by
    rw [hhead, change_forward, hf]
    rfl
  rw [hchange] at hsent
  obtain ⟨l, k', hk', hpump⟩ := pump?_headArrives hk hsent
  rw [hid, ← hchange] at hpump
  have hfirst : frame id (p, head) = [] := by
    have hnone : p.pump? id = none := by
      rw [Option.eq_none_iff_forall_ne_some]
      rintro ⟨l, pump⟩ hsome
      obtain ⟨f', hf', hstage⟩ := pump?_eq_some_iff.1 hsome
      rw [hf] at hf'
      cases hf'
      exact (hp.unsent_of_capture hf hk).1 l pump hstage
    unfold frame
    rw [hnone]
  have hframes : frames id (p.history (head :: ds)) =
      [] ++ frames id ((p.change head).2.history ds) :=
    congrArg (· ++ frames id ((p.change head).2.history ds)) hfirst
  rw [hframes]
  refine ⟨k', hk', ?_⟩
  rcases (hp.change head).relays_after hpump (Forward.Pump.relays_start _ _ _ _) ds with
    hgone | ⟨pump, passed, hcarried, hr⟩
  · exact .inl hgone
  · exact .inr ⟨l, pump, passed, hcarried, hr⟩

theorem Held.stores (hp : p.Held) (hpump : p.pump? id = some (l, pump)) {k k' : Cache.Capture}
    {status : Http.Status} {headers : Http.Headers} (hawaits : k.state = .awaitingHead)
    (hhead : k.onHead? status headers = some k') {data passed : List Bytes}
    (hr : pump.Relays ((some k').filter (·.isActive)) data passed) (e : Forward.Event) :
    if k.acceptsHead k' ∧ (pump.phase = .reading ∧ e = .body .complete) ∧
        data.flatten.length ≤ k.maxFileSize then
      p.cache.Gains (p.change (.event (.forward id e))).2.cache k.key pump.handedOver
    else (p.change (.event (.forward id e))).2.cache = p.cache := by
  rw [hp.cache_change hpump e]
  by_cases hend : pump.phase = .reading ∧ e = .body .complete
  · -- A pump that reads has passed on everything, so the capture was shown all of the data.
    have hpassed := hr.reading hend.1
    have hhanded := hr.here (hr.present (by simp [hend.1]))
    have hstored := cache_commit (p := p) hawaits hhead data
    rw [hpassed] at hhanded
    rw [← hpassed, ← hr.capture, hpassed, ← hhanded] at hstored
    rw [if_pos hend, hhanded]
    by_cases haccepts : k.acceptsHead k' = true ∧ data.flatten.length ≤ k.maxFileSize
    · rw [if_pos ⟨haccepts.1, hend, haccepts.2⟩]
      rw [hhanded, if_pos haccepts] at hstored
      exact hstored
    · rw [if_neg fun h => haccepts ⟨h.1, h.2.2⟩]
      rw [hhanded, if_neg haccepts] at hstored
      exact hstored
  · rw [if_neg hend, if_neg fun h => hend h.2.1]

end

/-- A forward with a capture stores nothing when it starts, nor until its head has been sent. From
then on the client has been handed a prefix of the data that came from the backend, and the next
event of the forward stores just what the client was handed if it is the end of a body that was not
too large and whose head was accepted. Every other event leaves the cache as it is. -/
theorem stored_of_forward (c : Config) (mapper : Routing.Mapper) (pages : Pages) (keepsLog : Bool)
    (nowMs : Nat) (cs : List Change) :
    let p := (new c mapper pages keepsLog nowMs).after cs
    (∀ (s : Proxy) m context body mayCapture,
      (s.startForward m context body mayCapture).2.cache = s.cache) ∧
    ∀ id f k, p.forward? id = some f → f.capture = some k →
      (∀ e, (p.change (.event (.forward id e))).2.cache = p.cache) ∧
      ∀ status headers sent shown,
        (p.change (.event (.forward id (.headArrives status headers)))).1 =
          .streaming sent shown →
        ∀ ds : List Change,
          let later := .event (.forward id (.headArrives status headers)) :: ds
          let q := p.after later
          let data := frames id (p.history later)
          q.forward? id = none ∨ ∃ l pump, q.pump? id = some (l, pump) ∧
            pump.handedOver <+: data.flatten ∧
            ∀ e,
              let next := Change.event (.forward id e)
              (pump.run (pumpEvents id l (q, next))).handedOver <+:
                (data ++ frame id (q, next)).flatten ∧
              if (k.onHead? status headers.stripHopByHop).any k.acceptsHead ∧
                  (pump.phase = .reading ∧ e = .body .complete) ∧
                  data.flatten.length ≤ k.maxFileSize then
                q.cache.Gains (q.change next).2.cache k.key pump.handedOver
              else (q.change next).2.cache = q.cache := by
  intro p
  have hp : p.Held := (held_new c mapper pages keepsLog nowMs).after cs
  refine ⟨cache_startForward, fun id f k hf hk => ?_⟩
  obtain ⟨hunsent, hawaits⟩ := hp.unsent_of_capture hf hk
  refine ⟨fun e => ?_, fun status headers sent shown hsent ds => ?_⟩
  · rw [change_forward, hf]
    exact cache_onForward hunsent e
  intro later q data
  have hq : q.Held := hp.after later
  obtain ⟨k', hhead, hgone | ⟨l, pump, passed, hpump, hr⟩⟩ :=
    hp.relays_after_head hf hk rfl hsent ds
  · exact .inl hgone
  refine .inr ⟨l, pump, hpump, hr.handedOver_prefix, fun e => ⟨?_, ?_⟩⟩
  · obtain ⟨_, hmoved⟩ := hr.run (pumpEvents id l (q, .event (.forward id e)))
    rw [← frame_of_pump hpump] at hmoved
    exact hmoved.handedOver_prefix
  · rw [hhead]
    exact hq.stores hpump hawaits hhead hr e

theorem stored_of_forward_one_chunk :
    let connection : Connection := ⟨.v4 [127, 0, 0, 1] 50000, .v4 [127, 0, 0, 1] 8080, none⟩
    let r : Incoming := ⟨⟨"GET", ⟨none, none, "/page", none⟩, .http11, .empty⟩, []⟩
    let mapper : Routing.Mapper := ⟨.constant (some (.proxy "site" ⟨"10.0.0.1", 80⟩ true)), [], {}⟩
    let cs := [Change.event (.request connection r)]
    let q := ((new {} mapper .empty true 0).after cs).after
      [.event (.forward 1 (.headArrives 200 .empty)), .event (.forward 1 (.body (.chunk [1, 2])))]
    q.cache.Gains (q.change (.event (.forward 1 (.body .complete)))).2.cache
      ⟨"GET", false, "", "/page", ""⟩ [1, 2] := by
  intro connection r mapper cs q
  have hq : q = ((new {} mapper .empty true 0).after cs).after
    [.event (.forward 1 (.headArrives 200 .empty)), .event (.forward 1 (.body (.chunk [1, 2])))] :=
      rfl
  obtain ⟨_, hforwards⟩ := stored_of_forward {} mapper .empty true 0 cs
  have hcapture : (((new {} mapper .empty true 0).after cs).forward? 1).bind (·.capture) =
      some ⟨⟨"GET", false, "", "/page", ""⟩, 8388608, 300000, 0, .awaitingHead⟩ := by
    decide +kernel
  have hsent : (((new {} mapper .empty true 0).after cs).change
      (.event (.forward 1 (.headArrives 200 .empty)))).1 =
        .streaming 200 ⟨[⟨"expires", Bytes.ofText "Thu, 01 Jan 1970 00:05:00 GMT"⟩]⟩ := by
    decide +kernel
  have hpumps : (q.pump? 1).map (fun x => (x.2.phase, x.2.handedOver)) =
      some (.reading, [1, 2]) := by
    decide +kernel
  obtain ⟨f, hf, hk⟩ := Option.bind_eq_some_iff.1 hcapture
  obtain ⟨_, hlater⟩ := hforwards 1 f _ hf hk
  rw [hq] at hpumps ⊢
  rcases hlater 200 .empty _ _ hsent [.event (.forward 1 (.body (.chunk [1, 2])))] with
    hgone | ⟨l, pump, hpump, _, hnext⟩
  · rw [Proxy.pump?, hgone] at hpumps
    cases hpumps
  rw [hpump, Option.map_some, Option.some.injEq, Prod.mk.injEq] at hpumps
  have hstored := (hnext (.body .complete)).2
  rw [if_pos ⟨by decide +kernel, ⟨hpumps.1, rfl⟩, by decide +kernel⟩, hpumps.2] at hstored
  exact hstored

end ReverseProxy.Proxy
