import ReverseProxy.Proofs.Proxy.Run

set_option autoImplicit false

namespace ReverseProxy.Proxy
open Request

structure Settings where
  mapper : Routing.Mapper
  pages : Pages
  stuckTimeout : Duration
  markStuckUnreachable : Bool
  keepsLog : Bool

def settings (p : Proxy) : Settings where
  mapper := p.mapper
  pages := p.pages
  stuckTimeout := p.stuckTimeout
  markStuckUnreachable := p.markStuckUnreachable
  keepsLog := p.keepsLog

theorem settings_noteFailure (p : Proxy) (id : Nat) (why : Forward.Failure) :
    (p.noteFailure id why).settings = p.settings := by
  have hreport {q : Proxy} (hq : q.settings = p.settings) (e : Endpoint)
      (h : p.noteFailure id why = if why.reportsUnreachable q.markStuckUnreachable then
        q.reportUnreachable e why.message else q) :
      (p.noteFailure id why).settings = p.settings := by
    rw [h]
    split <;> exact hq
  cases why with
  | stuck e after =>
    let q : Proxy := { p with
      failures := p.failures ++ [(id, .stuck e after)]
      stuck := tally e p.stuck }
    exact hreport (q := q) rfl e rfl
  | poolExhausted e | connect e | exchange e =>
    exact hreport (q := { p with failures := p.failures ++ [(id, _)] }) rfl e rfl
  | clientGone | poolClosed | invalidTarget => rfl

theorem settings_failForward (p : Proxy) (f : Forward) (why : Forward.Failure) :
    (p.failForward f why).2.settings = p.settings := settings_noteFailure _ _ why

theorem settings_refuse (p : Proxy) (f : Forward) (why : Pool.Refusal) :
    (p.refuse f why).2.settings = p.settings := by
  unfold refuse
  split
  · exact settings_failForward p f _
  · rfl

theorem settings_askForLease (p : Proxy) (f : Forward) (retries : Nat) :
    (p.askForLease f retries).2.settings = p.settings := by
  fun_induction Proxy.askForLease p f retries with
  | case1 retries p ref t pools hasked p' l ha => rfl
  | case2 p ref t pools hasked p' why ha => exact settings_refuse p' f why
  | case3 p ref t pools hasked p' why ha retries hretry ih => exact ih
  | case4 p ref t pools hasked p' why ha retries hretry => exact settings_refuse p' f why
  | case5 retries p ref t pools hasked p' ha => rfl

theorem settings_leaseAnswered (p : Proxy) (f : Forward) :
    (p.leaseAnswered f).2.settings = p.settings := by
  unfold leaseAnswered
  split
  · split
    · rfl
    · split
      · exact settings_askForLease p f _
      · exact settings_refuse p f _
    · rfl
  · rfl

theorem settings_startForward (p : Proxy) (m : Routing.Mapper) (c : Context) (body : Bytes)
    (mayCapture : Bool) : (p.startForward m c body mayCapture).2.settings = p.settings := by
  unfold startForward
  split
  · exact settings_noteFailure p c.id _
  · dsimp only
    split
    · exact settings_noteFailure _ c.id _
    · exact settings_askForLease _ _ 1

theorem settings_exchangeFails (p : Proxy) (f : Forward) (why : Forward.Failure) :
    (p.exchangeFails f why).2.settings = p.settings := by
  unfold exchangeFails
  split
  · exact settings_failForward _ f why
  · rfl

theorem settings_headArrives (p : Proxy) (f : Forward) (status : Http.Status)
    (headers : Http.Headers) : (p.headArrives f status headers).2.settings = p.settings := by
  unfold headArrives
  split
  · dsimp only
    split <;> rfl
  · rfl

theorem settings_commit (p : Proxy) (capture : Option Cache.Capture) :
    (p.commit capture).settings = p.settings := by
  unfold Proxy.commit
  split
  · split <;> rfl
  · rfl

theorem settings_endStream (p : Proxy) (f : Forward) (l : Pool.Lease) (pump : Forward.Pump)
    (how : Forward.Ending) : (p.endStream f l pump how).settings = p.settings := by
  cases how with
  | complete => exact settings_commit p pump.capture
  | failed why => exact settings_noteFailure p f.context.id why

theorem settings_pumpEvent (p : Proxy) (f : Forward) (e : Forward.PumpEvent) :
    (p.pumpEvent f e).2.settings = p.settings := by
  have htouch (phase : Forward.PumpPhase) : (p.touch f phase e).1.settings = p.settings := by
    unfold Proxy.touch
    split <;> rfl
  unfold pumpEvent
  split
  · dsimp only
    split
    · exact (settings_endStream _ _ _ _ _).trans (htouch _)
    · exact htouch _
  · rfl

theorem settings_onForward (p : Proxy) (f : Forward) (e : Forward.Event) :
    (p.onForward f e).2.settings = p.settings := by
  cases e with
  | leaseAnswered => exact settings_leaseAnswered p f
  | connectFails | exchangeFails => exact settings_exchangeFails p f _
  | headArrives status headers => exact settings_headArrives p f status headers
  | body | clientReads | noRoom => exact settings_pumpEvent p f _
  | clientLeaves =>
    change (p.clientLeaves f).2.settings = _
    unfold clientLeaves
    split
    · rfl
    · rfl
    · exact settings_pumpEvent p f .clientLeaves
  | silence =>
    change (p.silence f).2.settings = _
    unfold silence
    split
    · exact settings_exchangeFails p f _
    · exact settings_pumpEvent p f .silence
  | cutOff =>
    change (p.cutOff f).2.settings = _
    unfold cutOff
    split
    · split
      · exact settings_exchangeFails p f _
      · rfl
    · split
      · exact settings_pumpEvent p f .cutOff
      · rfl
    · rfl

theorem settings_receive (p : Proxy) (connection : Connection) (r : Incoming) :
    (p.receive connection r).2.settings = { p.settings with
      mapper := (p.decide (r.head.view connection.isSecure)).2.mapper } := by
  let mapper := (p.decide (r.head.view connection.isSecure)).2.mapper
  have hstart (q : Proxy) (hq : q.settings = { p.settings with mapper }) (m : Routing.Mapper)
      (c : Context) (mayCapture : Bool) :
      (q.startForward m c r.body mayCapture).2.settings = { p.settings with mapper } :=
    (settings_startForward q m c r.body mayCapture).trans hq
  unfold receive
  dsimp only
  unfold act
  split
  · rfl
  · rfl
  · rfl
  · rfl
  · rfl
  · exact hstart _ (by rfl) _ _ false
  · unfold proxyAndCache
    dsimp only
    split
    · exact hstart _ (by rfl) _ _ true
    · split
      · unfold serveEntry
        dsimp only
        split <;> rfl
      · exact hstart _ (by rfl) _ _ true

theorem settings_event (p : Proxy) (e : Event) :
    (p.change (.event e)).2.settings = p.settings ∨
      ∃ view available, (p.change (.event e)).2.settings =
        { p.settings with mapper := (p.mapper.map view available).2 } := by
  cases e with
  | request connection r => exact .inr ⟨_, _, settings_receive p connection r⟩
  | forward id e =>
    rw [change_forward]
    split
    · exact .inl (settings_onForward p _ e)
    · exact .inl rfl
  | timePasses | clockSet | sweep => exact .inl rfl

theorem settings_change (p : Proxy) (c : Change) :
    ∃ mapper, (p.change c).2.settings = { p.settings with mapper } := by
  cases c with
  | event e =>
    rcases p.settings_event e with h | ⟨view, available, h⟩
    · exact ⟨p.mapper, h⟩
    · exact ⟨_, h⟩
  | mapper m => exact ⟨m, rfl⟩
  | cache | reload | forgo | dispose => exact ⟨p.mapper, rfl⟩

theorem settings_after (p : Proxy) (cs : List Change) :
    ∃ mapper, (p.after cs).settings = { p.settings with mapper } := by
  induction cs generalizing p with
  | nil => exact ⟨p.mapper, rfl⟩
  | cons c cs ih =>
    obtain ⟨mapper, hlater⟩ := ih (p.change c).2
    obtain ⟨_, hfirst⟩ := settings_change p c
    rw [hfirst] at hlater
    exact ⟨mapper, hlater⟩

/-- What holds of every mapper that is put in place and is kept by deciding holds of the mapper. -/
theorem mapper_change {P : Routing.Mapper → Prop} {p : Proxy} {c : Change}
    (hasked : ∀ m view available, P m → P (m.map view available).2) (h : P p.mapper)
    (hm : ∀ m, c = .mapper m → P m) : P (p.change c).2.mapper := by
  cases c with
  | mapper m => exact hm m rfl
  | cache | reload | forgo | dispose => exact h
  | event e =>
    rcases p.settings_event e with hsame | ⟨view, available, hturn⟩
    · have hmapper : (p.change (.event e)).2.mapper = p.mapper := congrArg Settings.mapper hsame
      rw [hmapper]
      exact h
    · have hmapper : (p.change (.event e)).2.mapper = (p.mapper.map view available).2 :=
        congrArg Settings.mapper hturn
      rw [hmapper]
      exact hasked p.mapper view available h

theorem mapper_after {P : Routing.Mapper → Prop} {p : Proxy} {cs : List Change}
    (hasked : ∀ m view available, P m → P (m.map view available).2) (h : P p.mapper)
    (hm : ∀ m, .mapper m ∈ cs → P m) : P (p.after cs).mapper := by
  induction cs generalizing p with
  | nil => exact h
  | cons c cs ih =>
    refine ih (mapper_change hasked h fun m heq => hm m ?_) fun m hmem => hm m ?_
    · exact heq ▸ List.mem_cons_self
    · exact List.mem_cons_of_mem _ hmem

end ReverseProxy.Proxy
