import ReverseProxy.Proofs.Forward.Blame
import ReverseProxy.Proofs.Proxy.Leases
import ReverseProxy.Proofs.Proxy.Moves
import ReverseProxy.Proofs.Proxy.Settings

set_option autoImplicit false

/-!
# What is told of backends

Whether a backend is reported, as unreachable or as restored, and whether it is counted as stuck,
depends on nothing but how a forward to it ended. A forward ends once, so nothing is told twice, and
of what never reached its backend nothing is told at all.
-/
namespace ReverseProxy
open Request

namespace Forward

def Faithful (f : Forward) : Prop :=
  ∀ l pump, f.stage = .streaming l pump → pump.Carries f.endpoint

def FailsToConnect (f : Forward) (e : Event) : Prop :=
  ∃ l reason, f.stage = .sent l ∧ e = .connectFails reason

def Finishes (f : Forward) (e : Event) : Prop :=
  ∃ l pump, f.stage = .streaming l pump ∧ pump.phase = .reading ∧ e = .body .complete

/-- The backend is silent for the stuck timeout, or was and the client had yet to be told. -/
def FallsSilent (f : Forward) (e : Event) : Prop :=
  (∃ l, f.stage = .sent l ∧ e = .silence) ∨ ∃ l pump, f.stage = .streaming l pump ∧
    ((pump.phase = .reading ∧ e = .silence) ∨ ∃ a after, pump.phase = .breaking (.stuck a after))

namespace Fate

def isStuck : Fate → Bool
  | .failed (.stuck _ _) => true
  | _ => false

def report? (markStuck : Bool) (e : Endpoint) (atMs : Nat) : Fate → Option Report
  | .complete => some (.success e)
  | .failed (.connect a reason) => some (.unreachable e atMs (Failure.connect a reason).message)
  | .failed (.stuck a after) =>
    if markStuck then some (.unreachable e atMs (Failure.stuck a after).message) else none
  | .failed (.poolExhausted _ _) | .failed (.exchange _ _) | .failed .clientGone
  | .failed (.poolClosed _) | .failed (.invalidTarget _) | .givenUp | .crashed => none

/-- What made a forward end so, of all that is told of its backend. -/
structure Means (fate : Fate) (connect finish silent : Prop) : Prop where
  connect : (∃ a reason, fate = .failed (.connect a reason)) ↔ connect
  finish : fate = .complete ↔ finish
  silent : fate.isStuck = true ↔ silent

theorem means_ofRefusal (why : Pool.Refusal) : (ofRefusal why).Means False False False := by
  cases why <;> exact ⟨by simp [ofRefusal, Failure.ofRefusal?],
    by simp [ofRefusal, Failure.ofRefusal?], by simp [ofRefusal, Failure.ofRefusal?, isStuck]⟩

end Fate
end Forward

theorem total_tally {α : Type} [BEq α] (a : α) (n : List (α × Nat)) (k : Nat) :
    (tally a n).foldl (fun m s => m + s.2) k = n.foldl (fun m s => m + s.2) k + 1 := by
  induction n generalizing k with
  | nil => rfl
  | cons x n ih =>
    unfold tally
    split
    · -- The start of the sum is one more.
      have hshift (ms : List (α × Nat)) (k : Nat) :
          ms.foldl (fun m s => m + s.2) (k + 1) = ms.foldl (fun m s => m + s.2) k + 1 := by
        induction ms generalizing k with
        | nil => rfl
        | cons m ms ihm => rw [List.foldl_cons, List.foldl_cons, Nat.add_right_comm, ihm]
      exact hshift n (k + x.2)
    · exact ih _

def Report.endpoint : Report → Endpoint
  | .unreachable e _ _ => e
  | .success e => e

def Health.learn (h : Health) : Report → Health
  | .unreachable e atMs reason => h.reportUnreachable e atMs reason
  | .success e => h.reportSuccess e

namespace Proxy

/-- The end of a forward. -/
structure End where
  id : Nat
  endpoint : Endpoint
  fate : Forward.Fate
  atMs : Nat
deriving DecidableEq, Repr

def End.place (x : End) : Nat × Endpoint := (x.id, x.endpoint)

def End.report? (markStuck : Bool) (x : End) : Option Report :=
  x.fate.report? markStuck x.endpoint x.atMs

def ended? : Moment → Option End
  | (p, .event (.request connection r)) =>
    (p.startsTo? connection r).bind fun e => (p.startFate? r e).map (End.mk p.nextId e · p.nowMs)
  | (p, .event (.forward id e)) =>
    (p.forward? id).bind fun f => (p.fate? f e).map (End.mk id f.endpoint · p.nowMs)
  | _ => none

def ended (H : List Moment) : List End := H.filterMap ended?

/-- What has been told of backends. -/
structure Signals where
  reports : List Report
  health : Health
  stuck : List (Endpoint × Nat)

def signals (p : Proxy) : Signals := ⟨p.reports, p.health, p.stuck⟩

def Signals.note (s : Signals) (markStuck : Bool) (x : End) : Signals where
  reports := s.reports ++ (x.report? markStuck).toList
  health := (x.report? markStuck).toList.foldl Health.learn s.health
  stuck := if x.fate.isStuck then tally x.endpoint s.stuck else s.stuck

def Meets (m : Moment) (id : Nat) (P : Forward → Forward.Event → Prop) : Prop :=
  ∃ f e, m.1.forward? id = some f ∧ m.2 = .event (.forward id e) ∧ P f e

/-- What a history has told since it began with `start`. -/
structure Heard (start : Signals) (markStuck : Bool) (H : List Moment) (p : Proxy) : Prop where
  faithful : ∀ f ∈ p.forwards, f.Faithful
  mark : p.markStuckUnreachable = markStuck
  signals : p.signals = (ended H).foldl (·.note markStuck) start
  places : ((ended H).map End.place ++ p.forwards.map Forward.place).Perm (started H)

section
variable {p q : Proxy} {f : Forward} {e : Forward.Event} {x : Outcome × Proxy}
  {start : Signals} {markStuck : Bool} {H : List Moment}

theorem note_mute (s : Signals) (markStuck : Bool) {x : End} (hr : x.report? markStuck = none)
    (hs : x.fate.isStuck = false) : s.note markStuck x = s := by
  unfold Signals.note
  rw [hr, hs]
  simp

theorem signals_noteFailure (p : Proxy) {id : Nat} {why : Forward.Failure} {e : Endpoint}
    (h : why.About e) : (p.noteFailure id why).signals =
      p.signals.note p.markStuckUnreachable ⟨id, e, .failed why, p.nowMs⟩ := by
  cases why with
  | connect a reason =>
    obtain rfl : a = e := h a rfl rfl
    rfl
  | stuck a after =>
    obtain rfl : a = e := h a rfl rfl
    let q : Proxy := { p with
      failures := p.failures ++ [(id, .stuck a after)]
      stuck := tally a p.stuck }
    have hnote : p.noteFailure id (.stuck a after) = if p.markStuckUnreachable then
        q.reportUnreachable a (Forward.Failure.stuck a after).message else q := rfl
    rw [hnote]
    cases p.markStuckUnreachable with
    | true => rfl
    | false =>
      have hsame : q.reports = p.reports ++ [] := (List.append_nil _).symm
      exact congrArg (Signals.mk · q.health q.stuck) hsame
  | poolExhausted | exchange | clientGone | poolClosed | invalidTarget =>
    exact (note_mute _ _ rfl rfl).symm

theorem signals_fail (p : Proxy) (m : Routing.Mapper) (c : Context) {why : Forward.Failure}
    {e : Endpoint} (h : why.About e) : (p.fail m c why).2.signals =
      p.signals.note p.markStuckUnreachable ⟨c.id, e, .failed why, p.nowMs⟩ :=
  signals_noteFailure p h

theorem signals_commit (p : Proxy) (capture : Option Cache.Capture) :
    (p.commit capture).signals = p.signals := by
  unfold Proxy.commit
  split
  · split <;> rfl
  · rfl

theorem signals_endStream (p : Proxy) (f : Forward) (l : Pool.Lease) (pump : Forward.Pump)
    {how : Forward.Ending} (h : ∀ why, how = .failed why → why.About f.endpoint) :
    (p.endStream f l pump how).signals = p.signals.note p.markStuckUnreachable
      ⟨f.context.id, f.endpoint, .ofEnding how, p.nowMs⟩ := by
  cases how with
  | complete =>
    have hcommit := signals_commit p pump.capture
    unfold signals at hcommit
    obtain ⟨hreports, hhealth, hstuck⟩ := Signals.mk.inj hcommit
    change Signals.mk ((p.commit pump.capture).reports ++ [.success f.endpoint])
      ((p.commit pump.capture).health.reportSuccess f.endpoint) (p.commit pump.capture).stuck = _
    rw [hreports, hhealth, hstuck]
    rfl
  | failed why =>
    have hsame : (p.endStream f l pump (.failed why)).signals =
        (p.noteFailure f.context.id why).signals := rfl
    rw [hsame, signals_noteFailure p (h why rfl)]
    rfl

theorem Move.signals {fate : Option Forward.Fate} (h : p.Move f e x fate) (hf : f.Faithful) :
    x.2.signals = (fate.map (End.mk f.context.id f.endpoint · p.nowMs)).elim p.signals
      (p.signals.note p.markStuckUnreachable) := by
  cases h with
  | goesOn o g pools endpointStats next => rfl
  | fails pools why about =>
    unfold failForward
    rw [signals_fail _ f.mappedBy f.context about]
    rfl
  | crashes pools => exact (note_mute _ _ rfl rfl).symm
  | givesUp pools => exact (note_mute _ _ rfl rfl).symm
  | ends l pump pe how context endpointStats stage event resumes ending =>
    have hcarries := (hf l pump stage).step pe
    have hends := signals_endStream { p with endpointStats }
      { f with context, stage := .streaming l (pump.step pe) } l (pump.step pe) fun why hwhy =>
        (hcarries.blames why (Forward.Pump.blame?_of_ending (hwhy ▸ ending))).about
    rw [hends, ← resumes.id]
    rfl

theorem Arrival.signals {connection : Connection} {r : Incoming} {fate : Option Forward.Fate}
    (h : p.Arrival connection r x fate) :
    x.2.signals = ((p.startsTo? connection r).bind fun e =>
      fate.map (End.mk p.nextId e · p.nowMs)).elim p.signals
        (p.signals.note p.markStuckUnreachable) := by
  cases h with
  | answered mapper cache c s starts =>
    rw [starts]
    rfl
  | crashed mapper cache c starts =>
    rw [starts]
    rfl
  | untargeted mapper cache reason starts =>
    rw [starts]
    have hmute : (Forward.Failure.invalidTarget reason).About default :=
      Forward.Failure.about_of_none rfl _
    exact (signals_fail (p.takeIn mapper cache) mapper (p.contextFor connection r) hmute).trans
      (note_mute _ _ rfl rfl)
  | unsendable mapper cache e reason starts =>
    rw [starts]
    exact signals_fail ((p.takeIn mapper cache).begins e).endPending mapper
      (p.contextFor connection r) (Forward.Failure.about_of_none rfl e)
  | forwarded mapper cache f x fate starts move =>
    have hfaithful : f.Faithful := fun l pump hstage => by
      rw [starts.stage] at hstage
      cases hstage
    have hid : f.context.id = p.nextId := by
      rw [starts.context]
      rfl
    rw [starts.target, move.signals hfaithful, ← hid]
    rfl

theorem Next.faithful {o : Outcome} {g : Forward} (h : p.Next f e o g) (hf : f.Faithful) :
    g.Faithful := by
  intro l pump hstage
  cases h with
  | waits | leased => cases hstage
  | streams =>
    cases hstage
    exact ⟨rfl, nofun⟩
  | pumps _ l pump pe context stage event resumes =>
    cases hstage
    exact (hf l pump stage).step pe

theorem Held.faithful_change (hp : p.Held) (hf : ∀ f ∈ p.forwards, f.Faithful) (c : Change) :
    ∀ f ∈ (p.change c).2.forwards, f.Faithful := by
  intro g hg
  rcases hp.mem_forwards_change c hg with ⟨hg, _⟩ | ⟨f, e, hmem, _, hnext⟩ |
    ⟨connection, r, f, q, _, hstarts, hnext⟩
  · exact hf g hg
  · exact hnext.faithful (hf f hmem)
  · refine hnext.faithful fun l pump hstage => ?_
    rw [hstarts.stage] at hstage
    cases hstage

theorem ended?_request (p : Proxy) (connection : Connection) (r : Incoming) :
    ended? (p, .event (.request connection r)) = (p.startsTo? connection r).bind fun e =>
      ((p.startsTo? connection r).bind (p.startFate? r)).map (End.mk p.nextId e · p.nowMs) := by
  change ((p.startsTo? connection r).bind fun e => _) = _
  cases p.startsTo? connection r with
  | none => rfl
  | some e => simp only [Option.bind_some]

theorem ended?_forward (hf : p.forward? f.context.id = some f) (e : Forward.Event) :
    ended? (p, .event (.forward f.context.id e)) =
      (p.fate? f e).map (End.mk f.context.id f.endpoint · p.nowMs) := by
  change ((p.forward? f.context.id).bind _) = _
  rw [hf]
  rfl

theorem Held.signals_change (hp : p.Held) (hf : ∀ f ∈ p.forwards, f.Faithful) (c : Change) :
    (p.change c).2.signals =
      (ended? (p, c)).elim p.signals (p.signals.note p.markStuckUnreachable) := by
  cases c with
  | mapper | cache | reload | forgo | dispose => rfl
  | event event =>
    cases event with
    | timePasses | clockSet | sweep => rfl
    | request connection r =>
      rw [ended?_request]
      exact (arrival_receive p connection r).signals
    | forward id e =>
      cases hforward : p.forward? id with
      | none =>
        have hnone : ended? (p, .event (.forward id e)) = none := by
          change ((p.forward? id).bind _) = _
          rw [hforward]
          rfl
        rw [change_forward, hforward, hnone]
        rfl
      | some f =>
        obtain ⟨hmem, rfl, hchange⟩ := hp.change_of_forward? hforward e
        rw [hchange, ended?_forward hforward]
        rcases p.move_onForward f e with ⟨hidle, hnone⟩ | hmove
        · rw [hidle, hnone]
          rfl
        · exact hmove.signals (hf f hmem)

theorem Move.places {fate : Option Forward.Fate} (h : p.Move f e x fate) (atMs : Nat) :
    ((fate.map (End.mk f.context.id f.endpoint · atMs)).toList.map End.place ++
      x.2.forwards.map Forward.place).Perm
      (f.place :: (p.others f.context.id).map Forward.place) := by
  rcases h.forwards with ⟨rfl, g, hnext, hforwards⟩ | ⟨⟨how, rfl⟩, hforwards⟩ <;> rw [hforwards]
  · rw [List.map_append, List.map_singleton, hnext.place]
    exact List.perm_append_singleton _ _
  · exact .refl _

theorem Arrival.places {connection : Connection} {r : Incoming} {fate : Option Forward.Fate}
    (h : p.Arrival connection r x fate) (hfresh : p.others p.nextId = p.forwards) :
    (((p.startsTo? connection r).bind fun e =>
      fate.map (End.mk p.nextId e · p.nowMs)).toList.map End.place ++
        x.2.forwards.map Forward.place).Perm
      (((p.startsTo? connection r).map fun e => (p.nextId, e)).toList ++
        p.forwards.map Forward.place) := by
  cases h with
  | answered mapper cache c s starts =>
    rw [starts]
    exact .refl _
  | crashed mapper cache c starts =>
    rw [starts]
    exact .refl _
  | untargeted mapper cache reason starts =>
    rw [starts, forwards_fail]
    exact .refl _
  | unsendable mapper cache e reason starts =>
    rw [starts, forwards_fail]
    exact .refl _
  | forwarded mapper cache f x fate starts move =>
    have hid : f.context.id = p.nextId := by
      rw [starts.context]
      rfl
    have hothers : ((p.takeIn mapper cache).begins f.endpoint).others f.context.id =
        p.forwards := by
      rw [hid]
      exact hfresh
    have hplaces := move.places p.nowMs
    rw [hothers, hid] at hplaces
    rw [starts.target]
    have hplace : f.place = (p.nextId, f.endpoint) := congrArg (·, f.endpoint) hid
    rw [hplace] at hplaces
    exact hplaces

theorem Held.places_change (hp : p.Held) (c : Change) :
    ((ended? (p, c)).toList.map End.place ++ (p.change c).2.forwards.map Forward.place).Perm
      ((started? (p, c)).toList ++ p.forwards.map Forward.place) := by
  cases c with
  | mapper | cache | reload | forgo | dispose => exact .refl _
  | event event =>
    cases event with
    | timePasses | clockSet | sweep => exact .refl _
    | request connection r =>
      rw [ended?_request]
      exact (arrival_receive p connection r).places hp.others_fresh
    | forward id e =>
      cases hforward : p.forward? id with
      | none =>
        have hnone : ended? (p, .event (.forward id e)) = none := by
          change ((p.forward? id).bind _) = _
          rw [hforward]
          rfl
        rw [change_forward, hforward, hnone]
        exact .refl _
      | some f =>
        obtain ⟨hmem, rfl, hchange⟩ := hp.change_of_forward? hforward e
        rw [hchange, ended?_forward hforward]
        rcases p.move_onForward f e with ⟨hidle, hnone⟩ | hmove
        · rw [hidle, hnone]
          exact .refl _
        · exact (hmove.places p.nowMs).trans ((hp.split hmem).map Forward.place).symm

theorem pumpEvent?_eq_some {l : Pool.Lease} {pe : Forward.PumpEvent}
    (h : p.pumpEvent? l e = some pe) :
    (pe = .silence ↔ e = .silence) ∧ (pe = .backend .complete ↔ e = .body .complete) := by
  cases e with
  | cutOff =>
    simp only [pumpEvent?] at h
    split at h
    · cases h
      simp
    · cases h
  | body | silence | clientReads | clientLeaves | noRoom =>
    cases h
    simp
  | leaseAnswered | connectFails | exchangeFails | headArrives => cases h

theorem means_fate? (hs : f.Sound) (hf : f.Faithful) {fate : Forward.Fate}
    (h : p.fate? f e = some fate) :
    fate.Means (f.FailsToConnect e) (f.Finishes e) (f.FallsSilent e) := by
  unfold fate? at h
  cases hstage : f.stage with
  | waiting t ref retries =>
    have hnone : fate.Means False False False := by
      rw [hstage] at h
      cases e with
      | leaseAnswered =>
        dsimp only at h
        split at h
        · split at h
          · obtain ⟨why, _, rfl⟩ := Option.map_eq_some_iff.1 h
            exact Forward.Fate.means_ofRefusal why
          · cases h
            exact Forward.Fate.means_ofRefusal _
        · cases h
      | clientLeaves =>
        cases h
        exact ⟨by simp, by simp, by simp [Forward.Fate.isStuck]⟩
      | connectFails | exchangeFails | headArrives | silence | cutOff | body | clientReads
        | noRoom => cases h
    simpa [Forward.FailsToConnect, Forward.Finishes, Forward.FallsSilent, hstage] using hnone
  | sent l =>
    rw [hstage] at h
    cases e with
    | connectFails | exchangeFails | silence | clientLeaves =>
      cases h
      constructor <;> simp [Forward.FailsToConnect, Forward.Finishes, Forward.FallsSilent, hstage,
        Forward.Fate.isStuck]
    | cutOff =>
      dsimp only at h
      split at h
      · cases h
        constructor <;> simp [Forward.FailsToConnect, Forward.Finishes, Forward.FallsSilent,
          hstage, Forward.Fate.isStuck]
      · cases h
    | headArrives =>
      dsimp only at h
      split at h
      · cases h
      · cases h
        constructor <;> simp [Forward.FailsToConnect, Forward.Finishes, Forward.FallsSilent,
          hstage, Forward.Fate.isStuck]
    | leaseAnswered | body | clientReads | noRoom => cases h
  | streaming l pump =>
    rw [hstage] at h
    obtain ⟨pe, he, hmap⟩ := Option.bind_eq_some_iff.1 h
    obtain ⟨how, hending, rfl⟩ := Option.map_eq_some_iff.1 hmap
    obtain ⟨hsilence, hcomplete⟩ := pumpEvent?_eq_some he
    have hruns : pump.ending? = none := (hs.pumping hstage).ending
    have hcarries := (hf l pump hstage).step pe
    refine ⟨?_, ?_, ?_⟩
    · -- A body is never broken off because of a connection.
      have hno : ¬f.FailsToConnect e := by
        rintro ⟨l', reason, hsent, _⟩
        rw [hstage] at hsent
        cases hsent
      refine iff_of_false ?_ hno
      rintro ⟨a, reason, hfate⟩
      cases how with
      | complete => cases hfate
      | failed why =>
        cases hfate
        cases hcarries.blames _ (Forward.Pump.blame?_of_ending hending)
    · have hends := Forward.Pump.ending?_step_complete hruns pe
      rw [hending, hcomplete] at hends
      have hfate : Forward.Fate.ofEnding how = .complete ↔ some how = some .complete := by
        cases how <;> simp [Forward.Fate.ofEnding]
      rw [hfate, hends]
      simp [Forward.Finishes, hstage]
    · have hends := Forward.Pump.ending?_step_stuck hruns hending
      rw [hsilence] at hends
      have hfate : (Forward.Fate.ofEnding how).isStuck = true ↔
          ∃ a after, how = .failed (.stuck a after) := by
        cases how with
        | complete => simp [Forward.Fate.ofEnding, Forward.Fate.isStuck]
        | failed why =>
          cases why <;> simp [Forward.Fate.ofEnding, Forward.Fate.isStuck]
      rw [hfate, hends]
      simp [Forward.FallsSilent, hstage]

theorem Held.means_ended? (hp : p.Held) (hf : ∀ f ∈ p.forwards, f.Faithful) {c : Change} {x : End}
    (h : ended? (p, c) = some x) : x.fate.Means (Meets (p, c) x.id Forward.FailsToConnect)
      (Meets (p, c) x.id Forward.Finishes) (Meets (p, c) x.id Forward.FallsSilent) := by
  cases c with
  | mapper | cache | reload | forgo | dispose => cases h
  | event event =>
    cases event with
    | timePasses | clockSet | sweep => cases h
    | request connection r =>
      obtain ⟨target, _, hmap⟩ := Option.bind_eq_some_iff.1 h
      obtain ⟨fate, hfate, rfl⟩ := Option.map_eq_some_iff.1 hmap
      have hno (P : Forward → Forward.Event → Prop) :
          Meets (p, .event (.request connection r)) p.nextId P ↔ False := by
        simp [Meets]
      simp only [hno]
      unfold startFate? at hfate
      split at hfate
      · next why hwhy =>
        cases hfate
        obtain ⟨_, reason, rfl⟩ := Forward.Outgoing.ofIncoming_error hwhy false
        exact ⟨by simp, by simp, by simp [Forward.Fate.isStuck]⟩
      · obtain ⟨why, _, rfl⟩ := Option.map_eq_some_iff.1 hfate
        exact Forward.Fate.means_ofRefusal why
    | forward id e =>
      obtain ⟨f, hforward, hmap⟩ := Option.bind_eq_some_iff.1 h
      obtain ⟨fate, hfate, rfl⟩ := Option.map_eq_some_iff.1 hmap
      obtain ⟨hmem, _⟩ := hp.forward?_iff.1 hforward
      have hmeets (P : Forward → Forward.Event → Prop) :
          Meets (p, .event (.forward id e)) id P ↔ P f e := by
        simp [Meets, hforward]
      simp only [hmeets]
      exact means_fate? (hp.sound f hmem) (hf f hmem) hfate

theorem ended_concat (H : List Moment) (m : Moment) :
    ended (H ++ [m]) = ended H ++ (ended? m).toList := by
  unfold ended
  rw [List.filterMap_append]
  cases hm : ended? m with
  | none => rw [List.filterMap_cons_none hm]; rfl
  | some x => rw [List.filterMap_cons_some hm]; rfl

theorem Heard.change (h : Heard start markStuck H p) (hp : p.Held) (c : Change) :
    Heard start markStuck (H ++ [(p, c)]) (p.change c).2 where
  faithful := hp.faithful_change h.faithful c
  mark := by
    obtain ⟨mapper, hsettings⟩ := settings_change p c
    exact (congrArg Settings.markStuckUnreachable hsettings).trans h.mark
  signals := by
    rw [ended_concat, List.foldl_append, ← h.signals, hp.signals_change h.faithful, h.mark]
    cases ended? (p, c) <;> rfl
  places := by
    rw [ended_concat, started_concat, List.map_append, List.append_assoc]
    -- What starts or ends at this moment is exchanged with what was under way before it.
    have hmoved : ((ended H).map End.place ++
        ((started? (p, c)).toList ++ p.forwards.map Forward.place)).Perm
        ((started? (p, c)).toList ++
          ((ended H).map End.place ++ p.forwards.map Forward.place)) := by
      rw [← List.append_assoc, ← List.append_assoc]
      exact List.perm_append_comm.append_right _
    exact (((hp.places_change c).append_left _).trans hmoved).trans
      ((h.places.append_left _).trans List.perm_append_comm)

theorem heard_after (h : Heard start markStuck H p) (hp : p.Held) (cs : List Change) :
    Heard start markStuck (H ++ p.history cs) (p.after cs) := by
  induction cs generalizing p H with
  | nil =>
    rw [history, List.append_nil]
    exact h
  | cons c cs ih =>
    have hlater := ih (h.change hp c) (hp.change c)
    rw [List.append_assoc] at hlater
    exact hlater

theorem faithful_of_history (hp : p.Held) (hf : ∀ f ∈ p.forwards, f.Faithful) {cs : List Change}
    {m : Moment} (hm : m ∈ p.history cs) : ∀ f ∈ m.1.forwards, f.Faithful := by
  induction cs generalizing p with
  | nil => exact (List.not_mem_nil hm).elim
  | cons c cs ih =>
    rcases List.mem_cons.1 hm with rfl | hm
    · exact hf
    · exact ih (hp.change c) (hp.faithful_change hf c) hm

theorem foldl_note (markStuck : Bool) (s : Signals) (xs : List End) :
    xs.foldl (·.note markStuck) s = ⟨s.reports ++ xs.filterMap (End.report? markStuck),
      (xs.filterMap (End.report? markStuck)).foldl Health.learn s.health,
      (xs.filter (·.fate.isStuck)).foldl (fun n x => tally x.endpoint n) s.stuck⟩ := by
  induction xs generalizing s with
  | nil => simp
  | cons x xs ih =>
    rw [List.foldl_cons, ih]
    cases hr : x.report? markStuck <;> cases hs : x.fate.isStuck <;>
      simp [Signals.note, hr, hs]

theorem heard_new (c : Config) (mapper : Routing.Mapper) (pages : Pages) (keepsLog : Bool)
    (nowMs : Nat) (cs : List Change) :
    let start := new c mapper pages keepsLog nowMs
    Heard start.signals c.forwarding.markStuckUnreachable (start.history cs) (start.after cs) := by
  intro start
  have hstart : Heard start.signals c.forwarding.markStuckUnreachable [] start :=
    ⟨fun _ hf => (List.not_mem_nil hf).elim, rfl, rfl, .nil⟩
  have hlater := heard_after hstart (held_new c mapper pages keepsLog nowMs) cs
  rw [List.nil_append] at hlater
  exact hlater

theorem Heard.reports (h : Heard start markStuck H p) :
    p.reports = start.reports ++ (ended H).filterMap (End.report? markStuck) := by
  have hsignals := h.signals
  rw [foldl_note] at hsignals
  exact congrArg Signals.reports hsignals

theorem Heard.health (h : Heard start markStuck H p) :
    p.health = ((ended H).filterMap (End.report? markStuck)).foldl Health.learn start.health := by
  have hsignals := h.signals
  rw [foldl_note] at hsignals
  exact congrArg Signals.health hsignals

theorem Heard.stuck (h : Heard start markStuck H p) :
    p.stuck = ((ended H).filter (·.fate.isStuck)).foldl (fun n x => tally x.endpoint n)
      start.stuck := by
  have hsignals := h.signals
  rw [foldl_note] at hsignals
  exact congrArg Signals.stuck hsignals

theorem End.report?_unreachable {x : End} :
    (∃ reason, x.report? markStuck = some (.unreachable x.endpoint x.atMs reason)) ↔
      (∃ a reason, x.fate = .failed (.connect a reason)) ∨
        (markStuck = true ∧ x.fate.isStuck = true) := by
  unfold End.report? Forward.Fate.report?
  cases x.fate with
  | complete | givenUp | crashed => simp [Forward.Fate.isStuck]
  | failed why => cases why <;> cases markStuck <;> simp [Forward.Fate.isStuck]

theorem End.report?_success {x : End} :
    x.report? markStuck = some (.success x.endpoint) ↔ x.fate = .complete := by
  unfold End.report? Forward.Fate.report?
  cases x.fate with
  | complete | givenUp | crashed => simp
  | failed why => cases why <;> cases markStuck <;> simp

theorem End.endpoint_report? {x : End} {r : Report} (h : x.report? markStuck = some r) :
    r.endpoint = x.endpoint := by
  unfold End.report? Forward.Fate.report? at h
  split at h
  · cases h
    rfl
  · cases h
    rfl
  · split at h
    · cases h
      rfl
    · cases h
  all_goals cases h

theorem End.atMs_report? {x : End} {e : Endpoint} {atMs : Nat} {reason : String}
    (h : x.report? markStuck = some (.unreachable e atMs reason)) : atMs = x.atMs := by
  unfold End.report? Forward.Fate.report? at h
  split at h
  · cases h
  · cases h
    rfl
  · split at h
    · cases h
      rfl
    · cases h
  all_goals cases h

theorem Heard.countOf_stuck (h : Heard start markStuck H p) (hnone : start.stuck = [])
    (e : Endpoint) :
    countOf e p.stuck = (ended H).countP fun x => x.endpoint == e && x.fate.isStuck := by
  rw [h.stuck, hnone, countOf_foldl_tally, List.countP_filter]
  exact Nat.zero_add _

theorem Heard.stuckTotal (h : Heard start markStuck H p) (hnone : start.stuck = []) :
    p.stuckTotal = (ended H).countP (·.fate.isStuck) := by
  have htotal (xs : List End) (n : List (Endpoint × Nat)) :
      (xs.foldl (fun n x => tally x.endpoint n) n).foldl (fun m s => m + s.2) 0 =
        n.foldl (fun m s => m + s.2) 0 + xs.length := by
    induction xs generalizing n with
    | nil => rfl
    | cons x xs ih =>
      rw [List.foldl_cons, ih, total_tally, List.length_cons, Nat.add_right_comm]
      rfl
  unfold Proxy.stuckTotal
  rw [h.stuck, hnone, htotal, ← List.countP_eq_length_filter]
  exact Nat.zero_add _

end

/-- Every forward that was started is under way or has ended once, and what is told of backends is
what the ends say, each about the endpoint of its forward. A backend is reported unreachable just
when the connection to it could not be made, or it fell silent where that is to be reported; it is
reported restored just when its body came to its normal end; and it is counted as stuck just when it
fell silent. Nothing else that ends a forward says anything. -/
theorem signals_of_forwards (c : Config) (mapper : Routing.Mapper) (pages : Pages)
    (keepsLog : Bool) (nowMs : Nat) (cs : List Change) :
    let start := new c mapper pages keepsLog nowMs
    let p := start.after cs
    let H := start.history cs
    let mark := c.forwarding.markStuckUnreachable
    ((started H).map Prod.fst).Nodup ∧
    ((ended H).map End.place ++ p.forwards.map Forward.place).Perm (started H) ∧
    p.reports = (ended H).filterMap (End.report? mark) ∧
    p.health = p.reports.foldl Health.learn start.health ∧
    (∀ e, countOf e p.stuck = (ended H).countP fun x => x.endpoint == e && x.fate.isStuck) ∧
    p.stuckTotal = (ended H).countP (·.fate.isStuck) ∧
    ∀ m ∈ H, ∀ x, ended? m = some x →
      ((∃ reason, x.report? mark = some (.unreachable x.endpoint x.atMs reason)) ↔
        Meets m x.id Forward.FailsToConnect ∨ (mark = true ∧ Meets m x.id Forward.FallsSilent)) ∧
      (x.report? mark = some (.success x.endpoint) ↔ Meets m x.id Forward.Finishes) ∧
      (∀ r, x.report? mark = some r → r.endpoint = x.endpoint) ∧
      (x.fate.isStuck = true ↔ Meets m x.id Forward.FallsSilent) := by
  intro start p H mark
  have hstart : start.Held := held_new c mapper pages keepsLog nowMs
  have hheard : Heard start.signals mark H p := heard_new c mapper pages keepsLog nowMs cs
  have hids : ((started H).map Prod.fst).Nodup :=
    (nodup_requestIds hstart cs).1.sublist (ids_started H)
  have hreports : p.reports = (ended H).filterMap (End.report? mark) := hheard.reports
  have hhealth : p.health = p.reports.foldl Health.learn start.health := by
    rw [hreports]
    exact hheard.health
  refine ⟨hids, hheard.places, hreports, hhealth, hheard.countOf_stuck rfl, hheard.stuckTotal rfl,
    fun m hm x hx => ?_⟩
  have hfaithful := faithful_of_history hstart (fun _ hf => (List.not_mem_nil hf).elim) hm
  obtain ⟨hconnect, hfinish, hsilent⟩ := (held_of_history hstart hm).means_ended? hfaithful hx
  refine ⟨?_, End.report?_success.trans hfinish, fun r => End.endpoint_report?, hsilent⟩
  rw [End.report?_unreachable, hconnect, hsilent]

theorem signals_of_forwards_refused :
    let connection : Connection := ⟨.v4 [127, 0, 0, 1] 50000, .v4 [127, 0, 0, 1] 8080, none⟩
    let r : Incoming := ⟨⟨"GET", ⟨none, none, "/page", none⟩, .http11, .empty⟩, []⟩
    let e : Endpoint := ⟨"10.0.0.1", 80⟩
    let mapper : Routing.Mapper := ⟨.constant (some (.proxy "site" e false)), [], {}⟩
    let cs := [Change.event (.request connection r), .event (.forward 1 (.connectFails "refused")),
      .event (.forward 1 .silence)]
    let p := (new {} mapper .empty true 7).after cs
    p.reports = [.unreachable e 7 "connect to 10.0.0.1:80 failed: refused"] ∧
      p.stuckTotal = 0 ∧
      Meets ((new {} mapper .empty true 7).after (cs.take 1), cs[1]) 1 Forward.FailsToConnect := by
  intro connection r e mapper cs p
  obtain ⟨_, _, hreports, _, _, hstuck, hends⟩ := signals_of_forwards {} mapper .empty true 7 cs
  have hended : ended ((new {} mapper .empty true 7).history cs) =
      [⟨1, e, .failed (.connect e "refused"), 7⟩] := by
    decide +kernel
  rw [hended] at hreports hstuck
  refine ⟨hreports.trans (by decide +kernel), hstuck, ?_⟩
  have hend : ended? ((new {} mapper .empty true 7).after (cs.take 1), cs[1]) =
      some ⟨1, e, .failed (.connect e "refused"), 7⟩ := by
    decide +kernel
  have hmoment : ((new {} mapper .empty true 7).after (cs.take 1), cs[1]) ∈
      (new {} mapper .empty true 7).history cs := .tail _ (.head _)
  obtain ⟨hunreachable, _⟩ := hends _ hmoment _ hend
  rcases hunreachable.1 ⟨_, rfl⟩ with hconnect | ⟨hmark, _⟩
  · exact hconnect
  · cases hmark

end Proxy
end ReverseProxy
