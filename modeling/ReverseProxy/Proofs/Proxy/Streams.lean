import ReverseProxy.Proofs.Forward.Recording
import ReverseProxy.Proofs.Proxy.Run

set_option autoImplicit false

namespace ReverseProxy.Proxy
open Request

/-- What an event of a forward with the lease `l` is for the pump of its body. -/
def pumpEvent? (p : Proxy) (l : Pool.Lease) : Forward.Event → Option Forward.PumpEvent
  | .body e => some (.backend e)
  | .silence => some .silence
  | .cutOff => if p.pools.isCutOff l then some .cutOff else none
  | .clientReads => some .clientReads
  | .clientLeaves => some .clientLeaves
  | .noRoom => some .noRoom
  | .leaseAnswered | .connectFails _ | .exchangeFails _ | .headArrives _ _ => none

def pump? (p : Proxy) (id : Nat) : Option (Pool.Lease × Forward.Pump) :=
  (p.forward? id).bind fun f =>
    match f.stage with
    | .streaming l pump => some (l, pump)
    | _ => none

/-- What a moment brings to the pump of one forward. -/
def pumpEvents (id : Nat) (l : Pool.Lease) : Moment → List Forward.PumpEvent
  | (p, .event (.forward i e)) => if i = id then (p.pumpEvent? l e).toList else []
  | _ => []

def frame (id : Nat) (m : Moment) : List Bytes :=
  match m.1.pump? id with
  | some (l, pump) => pump.taken (pumpEvents id l m)
  | none => []

def frames (id : Nat) (H : List Moment) : List Bytes := H.flatMap (frame id)

section
variable {p q : Proxy} {f : Forward} {c : Context} {e : Endpoint} {h : Pool.Holding} {o : Outcome}
  {id : Nat} {l : Pool.Lease} {pump : Forward.Pump}

theorem Held.forward?_iff (hp : p.Held) :
    p.forward? id = some f ↔ f ∈ p.forwards ∧ f.context.id = id :=
  Keyed.find?_eq_some_iff (fun f : Forward => f.context.id) hp.ids

theorem Held.given (hp : p.Held) (hf : p.forward? id = some f) : id < p.nextId := by
  obtain ⟨hmem, rfl⟩ := hp.forward?_iff.1 hf
  exact hp.fresh f hmem

theorem Turn.forward? (ht : p.Turn c e h o q) (hq : q.Held) (hne : id ≠ c.id) :
    q.forward? id = p.forward? id := by
  have hothers : (p.others c.id).find? (fun f => f.context.id == id) = p.forward? id :=
    Keyed.find?_filter (fun f : Forward => f.context.id) hne
  rw [← hothers]
  cases ht with
  | goesOn f forwards pending books deals tells endpoint sound =>
    have hsame := Keyed.find?_perm (fun f : Forward => f.context.id) (k := id) hq.ids forwards
    refine hsame.trans (List.find?_cons_of_neg ?_)
    rw [tells.id, beq_iff_eq]
    exact fun heq => hne heq.symm
  | ends c' now forwards pending books deals tells =>
    unfold Proxy.forward?
    rw [forwards]

theorem Held.forward?_change (hp : p.Held) (hid : id < p.nextId) {change : Change}
    (hother : ∀ e, change ≠ .event (.forward id e)) :
    (p.change change).2.forward? id = p.forward? id := by
  have hq := hp.change change
  cases hp.step change with
  | quiet quiet ledger told other =>
    unfold Proxy.forward?
    rw [quiet.forwards]
  | turn f e underWay event turn =>
    refine turn.forward? hq fun heq => hother e ?_
    rw [event, heq]
  | intake connection r event intake =>
    cases intake with
    | answered p' c now admits forwards =>
      unfold Proxy.forward?
      rw [forwards, admits.forwards]
    | forwarded p' target admits served starts turn =>
      -- The new forward has the next number, and `id` was given before.
      refine (turn.forward? hq (Nat.ne_of_lt hid)).trans ?_
      change p'.forwards.find? _ = _
      rw [admits.forwards]
      rfl

theorem Held.nextId_le (hp : p.Held) (change : Change) : p.nextId ≤ (p.change change).2.nextId := by
  rw [hp.nextId]
  exact Nat.le_add_right _ _

theorem Held.forward?_after_none (hp : p.Held) (hid : id < p.nextId) (hnone : p.forward? id = none)
    (ds : List Change) : (p.after ds).forward? id = none := by
  induction ds generalizing p with
  | nil => exact hnone
  | cons d ds ih =>
    refine ih (hp.change d) (Nat.lt_of_lt_of_le hid (hp.nextId_le d)) ?_
    by_cases hown : ∃ e, d = .event (.forward id e)
    · obtain ⟨e, rfl⟩ := hown
      change (p.change (.event (.forward id e))).2.forward? id = none
      rw [change_forward, hnone]
      exact hnone
    · exact (hp.forward?_change hid fun e heq => hown ⟨e, heq⟩).trans hnone

theorem pump?_eq_some_iff : p.pump? id = some (l, pump) ↔
    ∃ f, p.forward? id = some f ∧ f.stage = .streaming l pump := by
  unfold pump?
  rw [Option.bind_eq_some_iff]
  refine exists_congr fun f => and_congr_right fun _ => ?_
  cases f.stage with
  | waiting | sent => simp
  | streaming l' pump' => simp

theorem onForward_streaming (hstage : f.stage = .streaming l pump) (event : Forward.Event) :
    p.onForward f event = match p.pumpEvent? l event with
      | some pe => p.pumpEvent f pe
      | none => (.none, p) := by
  cases event with
  | leaseAnswered => simp [onForward, leaseAnswered, hstage, pumpEvent?]
  | connectFails | exchangeFails => simp [onForward, exchangeFails, hstage, pumpEvent?]
  | headArrives => simp [onForward, headArrives, hstage, pumpEvent?]
  | silence => simp [onForward, silence, hstage, pumpEvent?]
  | cutOff =>
    simp only [onForward, cutOff, hstage, pumpEvent?]
    split <;> rfl
  | clientLeaves => simp [onForward, clientLeaves, hstage, pumpEvent?]
  | body | clientReads | noRoom => rfl

theorem forward?_putForward (p : Proxy) (f : Forward) :
    (p.putForward f).forward? f.context.id = some f := by
  have hnone : (p.forwards.filter (·.context.id != f.context.id)).find?
      (·.context.id == f.context.id) = none :=
    Keyed.find?_eq_none_iff.2 (Keyed.notMem_filter (fun f : Forward => f.context.id) _)
  unfold Proxy.forward? putForward
  rw [List.find?_append, hnone]
  simp

theorem forward?_endStream (p : Proxy) (f : Forward) (l : Pool.Lease) (pump : Forward.Pump)
    (how : Forward.Ending) : (p.endStream f l pump how).forward? f.context.id = none :=
  Keyed.find?_eq_none_iff.2 (Keyed.notMem_filter (fun f : Forward => f.context.id) _)

theorem pump?_pumpEvent (hstage : f.stage = .streaming l pump) (event : Forward.PumpEvent) :
    (p.pumpEvent f event).2.forward? f.context.id = none ∨
      (p.pumpEvent f event).2.pump? f.context.id = some (l, pump.step event) := by
  have hid : (p.touch f pump.phase event).2.id = f.context.id :=
    (quiet_touch p f pump.phase event).2.2.id
  unfold pumpEvent
  rw [hstage]
  dsimp only
  generalize hc : (if (pump.step event).isListening then (p.touch f pump.phase event).2
    else (p.touch f pump.phase event).2.backendDone (p.touch f pump.phase event).1.pools.nowMs) = c
  have hcid : c.id = f.context.id := by
    rw [← hc]
    split
    · exact hid
    · exact (Context.tells_backendDone _ _).id.trans hid
  rw [← hcid]
  split
  · exact .inl (forward?_endStream _
      { f with context := c, stage := .streaming l (pump.step event) } l _ _)
  · exact .inr (pump?_eq_some_iff.2 ⟨_, forward?_putForward _
      { f with context := c, stage := .streaming l (pump.step event) }, rfl⟩)

theorem Held.pump?_change (hp : p.Held) (hpump : p.pump? id = some (l, pump)) (change : Change) :
    (p.change change).2.forward? id = none ∨
      (p.change change).2.pump? id = some (l, pump.run (pumpEvents id l (p, change))) := by
  obtain ⟨f, hf, hstage⟩ := pump?_eq_some_iff.1 hpump
  by_cases hown : ∃ e, change = .event (.forward id e)
  · obtain ⟨event, rfl⟩ := hown
    obtain ⟨_, hid⟩ := hp.forward?_iff.1 hf
    have hevents : pumpEvents id l (p, .event (.forward id event)) =
        (p.pumpEvent? l event).toList := if_pos rfl
    rw [change_forward, hf, hevents]
    dsimp only
    rw [onForward_streaming hstage]
    cases p.pumpEvent? l event with
    | none => exact .inr hpump
    | some pe =>
      have hmoved := pump?_pumpEvent (p := p) hstage pe
      rw [hid] at hmoved
      exact hmoved
  · have hother : ∀ e, change ≠ .event (.forward id e) := fun e heq => hown ⟨e, heq⟩
    have hevents : pumpEvents id l (p, change) = [] := by
      unfold pumpEvents
      split
      · next heq =>
        cases heq
        refine if_neg fun hi => ?_
        subst hi
        exact hother _ rfl
      · rfl
    rw [hevents]
    refine .inr ?_
    unfold pump?
    rw [hp.forward?_change (hp.given hf) hother]
    exact hpump

theorem frame_of_pump (hpump : p.pump? id = some (l, pump)) (change : Change) :
    frame id (p, change) = pump.taken (pumpEvents id l (p, change)) := by
  unfold frame
  rw [hpump]

theorem Held.relays_after (hp : p.Held) (hpump : p.pump? id = some (l, pump))
    {capture : Option Cache.Capture} {data passed : List Bytes}
    (hr : pump.Relays capture data passed) (ds : List Change) :
    (p.after ds).forward? id = none ∨ ∃ pump' passed', (p.after ds).pump? id = some (l, pump') ∧
      pump'.Relays capture (data ++ frames id (p.history ds)) passed' := by
  induction ds generalizing p pump data passed with
  | nil =>
    refine .inr ⟨pump, passed, hpump, ?_⟩
    rw [history, frames, List.flatMap_nil, List.append_nil]
    exact hr
  | cons d ds ih =>
    obtain ⟨f, hf, _⟩ := pump?_eq_some_iff.1 hpump
    have hid : id < (p.change d).2.nextId := Nat.lt_of_lt_of_le (hp.given hf) (hp.nextId_le d)
    rcases hp.pump?_change hpump d with hnone | hpump'
    · exact .inl ((hp.change d).forward?_after_none hid hnone ds)
    · -- What was taken adds up along the run.
      obtain ⟨passed', hr'⟩ := hr.run (pumpEvents id l (p, d))
      have hnext := ih (hp.change d) hpump' hr'
      rw [← frame_of_pump hpump, List.append_assoc] at hnext
      exact hnext

end

end ReverseProxy.Proxy
