import ReverseProxy.Forward.Pump
import ReverseProxy.Proofs.Forward.Outgoing

set_option autoImplicit false

namespace ReverseProxy.Forward

def Failure.closed? : Failure → Option String
  | .poolClosed pool => some pool
  | _ => none

/-- A failure that speaks against a backend names that backend. -/
def Failure.About (why : Failure) (e : Endpoint) : Prop :=
  ∀ a, why.endpoint? = some a → why.reportsUnreachable true = true → a = e

/-- What can go wrong with a body that comes from `e`. -/
inductive Failure.OfBody (e : Endpoint) : Failure → Prop where
  | clientGone : OfBody e .clientGone
  | poolClosed (pool : String) : OfBody e (.poolClosed pool)
  | stuck (after : Duration) : OfBody e (.stuck e after)
  | exchange (reason : String) : OfBody e (.exchange e reason)

theorem Failure.about_of_none {why : Failure} (h : why.endpoint? = none) (e : Endpoint) :
    why.About e := by
  intro a ha
  rw [h] at ha
  cases ha

theorem Failure.OfBody.about {why : Failure} {e : Endpoint} (h : OfBody e why) : why.About e := by
  cases h with
  | clientGone | poolClosed => exact about_of_none rfl e
  | stuck | exchange => exact fun a ha _ => (Option.some.inj ha).symm

namespace Pump

def blame? (p : Pump) : Option Failure :=
  match p.phase with
  | .breaking why | .ended (.failed why) => some why
  | _ => none

def blamed? (p : Pump) : Option String :=
  match p.phase with
  | .breaking why | .ended (.failed why) => why.closed?
  | _ => none

/-- The pump carries a body from `e` and finds no fault with it but what bodies have. -/
structure Carries (p : Pump) (e : Endpoint) : Prop where
  endpoint : p.endpoint = e
  blames : ∀ why, p.blame? = some why → Failure.OfBody e why

section
variable {p : Pump} {why : Failure}

theorem blamed?_eq (p : Pump) : p.blamed? = p.blame?.bind Failure.closed? := by
  unfold blamed? blame?
  split <;> rfl

theorem blame?_breakOff (p : Pump) (why : Failure) : (p.breakOff why).blame? = some why := by
  unfold breakOff endWith
  split
  · rfl
  · split <;> rfl

theorem blame?_onRead (p : Pump) : p.onRead.blame? = p.blame? := by
  unfold onRead
  cases p.channel with
  | nil => rfl
  | cons item channel =>
    dsimp only
    unfold blame?
    cases hp : p.phase with
    | reading | sending | ended => rfl
    | breaking why => exact blame?_breakOff _ why

theorem blame?_onBody (hp : p.phase = .reading) {b : BodyEvent}
    (h : (p.onBody b).blame? = some why) :
    why = .clientGone ∨ ∃ reason, b = .failed reason ∧ why = .exchange p.endpoint reason := by
  cases b with
  | chunk data =>
    unfold onBody at h
    dsimp only at h
    split at h
    · exact .inl (Option.some.inj h).symm
    · split at h <;> cases h
  | trailers =>
    unfold onBody blame? at h
    rw [hp] at h
    cases h
  | complete => cases h
  | failed reason =>
    have hblame : (p.onBody (.failed reason)).blame? = some (.exchange p.endpoint reason) :=
      blame?_breakOff p _
    rw [hblame] at h
    exact .inr ⟨reason, rfl, (Option.some.inj h).symm⟩

theorem blame?_onLeave (h : p.onLeave.blame? = some why) :
    p.blame? = some why ∨ why = .clientGone := by
  unfold onLeave at h
  dsimp only at h
  unfold blame?
  split at h
  · exact .inr (Option.some.inj h).symm
  · exact .inr (Option.some.inj h).symm
  · next why' hp =>
    rw [hp]
    exact .inl h
  · next how hp =>
    unfold blame? at h
    dsimp only at h
    exact .inl h

theorem blame?_step {e : PumpEvent} (h : (p.step e).blame? = some why) :
    p.blame? = some why ∨ why = .clientGone ∨ (p.phase = .reading ∧
      ((e = .silence ∧ why = .stuck p.endpoint p.stuckAfter) ∨
        (e = .cutOff ∧ why = .poolClosed p.poolId) ∨
        ∃ reason, e = .backend (.failed reason) ∧ why = .exchange p.endpoint reason)) := by
  have hkeeps (hstep : p.step e = p) : p.blame? = some why := hstep ▸ h
  cases e with
  | clientReads => exact .inl (p.blame?_onRead ▸ h)
  | clientLeaves =>
    rcases blame?_onLeave h with h | h
    · exact .inl h
    · exact .inr (.inl h)
  | backend b =>
    cases hp : p.phase with
    | reading =>
      simp only [step, hp] at h
      rcases blame?_onBody hp h with hwhy | ⟨reason, rfl, hwhy⟩
      · exact .inr (.inl hwhy)
      · exact .inr (.inr ⟨rfl, .inr (.inr ⟨reason, rfl, hwhy⟩)⟩)
    | sending | breaking | ended => exact .inl (hkeeps (by simp only [step, hp]))
  | silence =>
    cases hp : p.phase with
    | reading =>
      simp only [step, hp, blame?_breakOff] at h
      exact .inr (.inr ⟨rfl, .inl ⟨rfl, (Option.some.inj h).symm⟩⟩)
    | sending | breaking | ended => exact .inl (hkeeps (by simp only [step, hp]))
  | cutOff =>
    cases hp : p.phase with
    | reading =>
      simp only [step, hp, blame?_breakOff] at h
      exact .inr (.inr ⟨rfl, .inr (.inl ⟨rfl, (Option.some.inj h).symm⟩)⟩)
    | sending | breaking | ended => exact .inl (hkeeps (by simp only [step, hp]))
  | noRoom =>
    cases hp : p.phase with
    | breaking why' =>
      simp only [step, hp] at h
      left
      unfold blame?
      rw [hp]
      exact h
    | reading | sending | ended => exact .inl (hkeeps (by simp only [step, hp]))

theorem blamed?_step {e : PumpEvent} {pool : String} (h : (p.step e).blamed? = some pool) :
    p.blamed? = some pool ∨ e = .cutOff := by
  rw [blamed?_eq, Option.bind_eq_some_iff] at h ⊢
  obtain ⟨why, hblame, hclosed⟩ := h
  rcases blame?_step hblame with hold | rfl | ⟨_, ⟨_, rfl⟩ | ⟨he, _⟩ | ⟨reason, _, rfl⟩⟩
  · exact .inl ⟨why, hold, hclosed⟩
  · cases hclosed
  · cases hclosed
  · exact .inr he
  · cases hclosed

theorem endpoint_breakOff (p : Pump) (why : Failure) : (p.breakOff why).endpoint = p.endpoint := by
  unfold breakOff endWith
  split
  · rfl
  · split <;> rfl

theorem endpoint_step (p : Pump) (e : PumpEvent) : (p.step e).endpoint = p.endpoint := by
  unfold step
  split
  · unfold onRead
    split
    · rfl
    · dsimp only
      split
      · rfl
      · exact endpoint_breakOff _ _
      · rfl
  · unfold onLeave
    dsimp only
    split <;> rfl
  · unfold onBody
    split
    · split
      · rfl
      · split <;> rfl
    · rfl
    · rfl
    · exact endpoint_breakOff _ _
  · exact endpoint_breakOff _ _
  · exact endpoint_breakOff _ _
  · rfl
  · rfl

theorem Carries.step {e : Endpoint} (h : p.Carries e) (event : PumpEvent) :
    (p.step event).Carries e where
  endpoint := (p.endpoint_step event).trans h.endpoint
  blames why hwhy := by
    rcases blame?_step hwhy with hold | rfl | ⟨_, ⟨_, rfl⟩ | ⟨_, rfl⟩ | ⟨reason, _, rfl⟩⟩
    · exact h.blames why hold
    · exact .clientGone
    · exact h.endpoint ▸ .stuck p.stuckAfter
    · exact .poolClosed p.poolId
    · exact h.endpoint ▸ .exchange reason

theorem blame?_of_ending (h : p.ending? = some (.failed why)) : p.blame? = some why := by
  unfold ending? at h
  unfold blame?
  split at h
  · next how hp =>
    obtain rfl := Option.some.inj h
    rw [hp]
  · cases h

theorem blame?_of_running (h : p.ending? = none) :
    p.blame? = some why ↔ p.phase = .breaking why := by
  unfold ending? at h
  unfold blame?
  cases hp : p.phase with
  | reading | sending => simp
  | breaking => simp
  | ended =>
    rw [hp] at h
    cases h

theorem ending?_of_blame {how : Ending} (h : p.ending? = some how) (hwhy : p.blame? = some why) :
    how = .failed why := by
  cases how with
  | complete =>
    unfold ending? at h
    unfold blame? at hwhy
    split at h
    · next hp =>
      rw [hp, Option.some.inj h] at hwhy
      cases hwhy
    · cases h
  | failed why' =>
    rw [blame?_of_ending h, Option.some.injEq] at hwhy
    rw [hwhy]

theorem blame?_step_breaking (hp : p.phase = .breaking why) (e : PumpEvent) :
    (p.step e).blame? = some why := by
  have hblame : p.blame? = some why := by
    unfold blame?
    rw [hp]
  cases e with
  | clientReads => exact p.blame?_onRead.trans hblame
  | clientLeaves =>
    change p.onLeave.blame? = some why
    unfold onLeave
    dsimp only
    rw [hp]
    rfl
  | noRoom =>
    simp only [step, hp]
    rfl
  | backend | silence | cutOff =>
    simp only [step, hp]
    exact hblame

theorem ending?_step_stuck (h : p.ending? = none) {e : PumpEvent} {how : Ending}
    (hstep : (p.step e).ending? = some how) : (∃ a after, how = .failed (.stuck a after)) ↔
      (p.phase = .reading ∧ e = .silence) ∨ ∃ a after, p.phase = .breaking (.stuck a after) := by
  constructor
  · rintro ⟨a, after, rfl⟩
    rcases blame?_step (blame?_of_ending hstep) with hold | hgone |
      ⟨hp, ⟨he, _⟩ | ⟨_, hclosed⟩ | ⟨reason, _, hfailed⟩⟩
    · exact .inr ⟨a, after, (blame?_of_running h).1 hold⟩
    · cases hgone
    · exact .inl ⟨hp, he⟩
    · cases hclosed
    · cases hfailed
  · rintro (⟨hp, rfl⟩ | ⟨a, after, hp⟩)
    · refine ⟨p.endpoint, p.stuckAfter, ending?_of_blame hstep ?_⟩
      simp only [step, hp]
      exact blame?_breakOff p _
    · exact ⟨a, after, ending?_of_blame hstep (blame?_step_breaking hp e)⟩

end

end Pump

theorem Outgoing.closed?_ofIncoming {r : Request.Incoming} {backend : Endpoint} {capturing : Bool}
    {why : Failure} (h : ofIncoming r backend capturing = .error why) : why.closed? = none := by
  obtain ⟨_, reason, rfl⟩ := ofIncoming_error h false
  rfl

end ReverseProxy.Forward
