import ReverseProxy.Forward.Pump

set_option autoImplicit false

/-!
# What a client gets of a body

The items that a pump has written, read or not, are the chunks that it took from the backend, in
their order. An error item follows them where the body broke off, unless the pump gave up waiting
for room for it.
-/
namespace ReverseProxy.Forward.Pump

def start (endpoint : Endpoint) (poolId : String) (stuckAfter : Duration)
    (capture : Option Cache.Capture) : Pump :=
  { endpoint, poolId, stuckAfter, capture }

/-- What was written for the client, read or not. -/
def stream (p : Pump) : List Item := p.delivered ++ p.channel

def takes (p : Pump) (e : PumpEvent) : List Bytes :=
  match e, p.phase with
  | .backend (.chunk data), .reading => [data]
  | _, _ => []

def taken (p : Pump) : List PumpEvent → List Bytes
  | [] => []
  | e :: es => p.takes e ++ (p.step e).taken es

def GivesUp (p : Pump) (e : PumpEvent) : Prop := e = .noRoom ∧ ∃ why, p.phase = .breaking why

def GaveUp (p : Pump) : List PumpEvent → Prop
  | [] => False
  | e :: es => p.GivesUp e ∨ (p.step e).GaveUp es

def Written (stream : List Item) (data : List Bytes) (gaveUp : Prop) : PumpPhase → Prop
  | .reading => ¬gaveUp ∧ stream = data.map .chunk
  | .sending last => ¬gaveUp ∧ stream ++ [.chunk last] = data.map .chunk
  | .breaking why => ¬gaveUp ∧ why ≠ .clientGone ∧ stream = data.map .chunk
  | .ended .complete => ¬gaveUp ∧ stream = data.map .chunk
  | .ended (.failed why) =>
    (¬gaveUp ∧ stream = data.map .chunk ++ [.broken why.message]) ∨
      (gaveUp ∧ stream = data.map .chunk)

/-- What a client that is still there has got and will get. -/
def Flow (p : Pump) (data : List Bytes) (gaveUp : Prop) : Prop :=
  p.clientGone = false → Written p.stream data gaveUp p.phase

def took (p : Pump) (item : Item) (rest : List Item) : Pump :=
  { p with channel := rest, delivered := p.delivered ++ [item] }

section
variable {p : Pump} {data : List Bytes} {gaveUp : Prop}

theorem onRead_nil (h : p.channel = []) : p.onRead = p := by
  unfold onRead
  rw [h]

theorem onRead_cons {item : Item} {rest : List Item} (h : p.channel = item :: rest) :
    p.onRead = match p.phase with
      | .sending data => (p.took item rest).pass data
      | .breaking why => (p.took item rest).breakOff why
      | _ => p.took item rest := by
  unfold onRead
  rw [h]
  rfl

theorem stream_took {item : Item} {rest : List Item} (h : p.channel = item :: rest) :
    (p.took item rest).stream = p.stream := by
  simp [took, stream, h]

theorem stream_pass (chunk : Bytes) : (p.pass chunk).stream = p.stream ++ [.chunk chunk] := by
  simp [pass, stream]

theorem clientGone_breakOff (why : Failure) : (p.breakOff why).clientGone = p.clientGone := by
  unfold breakOff
  split
  · rfl
  · split <;> rfl

theorem clientGone_onRead : p.onRead.clientGone = p.clientGone := by
  cases hc : p.channel with
  | nil => rw [onRead_nil hc]
  | cons item rest =>
    rw [onRead_cons hc]
    split
    · rfl
    · rw [clientGone_breakOff]
      rfl
    · rfl

theorem clientGone_onLeave : p.onLeave.clientGone = true := by
  unfold onLeave
  dsimp only
  split <;> rfl

theorem clientGone_step (h : p.clientGone = true) (e : PumpEvent) :
    (p.step e).clientGone = true := by
  unfold step
  split
  · rw [clientGone_onRead, h]
  · exact clientGone_onLeave
  · next b _ =>
    cases b with
    | chunk chunk => simp [onBody, h, endWith]
    | trailers => exact h
    | complete => exact h
    | failed reason => exact (clientGone_breakOff _).trans h
  · exact (clientGone_breakOff _).trans h
  · exact (clientGone_breakOff _).trans h
  · exact h
  · exact h

theorem flow_of_gone (h : p.clientGone = true) : p.Flow data gaveUp := by
  intro hp
  rw [h] at hp
  cases hp

theorem flow_pass {chunk : Bytes} (hg : ¬gaveUp)
    (hs : p.stream ++ [.chunk chunk] = data.map .chunk) : (p.pass chunk).Flow data gaveUp := by
  intro _
  exact ⟨hg, (stream_pass chunk).trans hs⟩

theorem flow_breakOff {why : Failure} (hg : ¬gaveUp) (hwhy : why ≠ .clientGone)
    (hs : p.stream = data.map .chunk) : (p.breakOff why).Flow data gaveUp := by
  unfold breakOff
  split
  · next hstop =>
    have hgone : p.clientGone = true := by simpa [hwhy] using hstop
    exact flow_of_gone hgone
  split
  · intro _
    refine .inl ⟨hg, ?_⟩
    rw [← hs]
    simp [stream]
  · intro _
    exact ⟨hg, hwhy, hs⟩

theorem flow_onBody (hg : ¬gaveUp) (hphase : p.phase = .reading)
    (hs : p.stream = data.map .chunk) (b : BodyEvent) :
    (p.onBody b).Flow (data ++ p.takes (.backend b)) gaveUp := by
  cases b with
  | chunk chunk =>
    have htakes : p.takes (.backend (.chunk chunk)) = [chunk] := by simp [takes, hphase]
    have hnext : p.stream ++ [.chunk chunk] = (data ++ [chunk]).map .chunk := by
      rw [hs, List.map_append]
      rfl
    rw [htakes]
    unfold onBody
    dsimp only
    split
    · next hgone => exact flow_of_gone hgone
    split
    · exact flow_pass hg hnext
    · intro _
      exact ⟨hg, hnext⟩
  | trailers =>
    intro _
    simp only [onBody, hphase, takes, List.append_nil]
    exact ⟨hg, hs⟩
  | complete =>
    intro _
    simp only [onBody, endWith, takes, List.append_nil]
    exact ⟨hg, hs⟩
  | failed reason =>
    simp only [onBody, takes, List.append_nil]
    exact flow_breakOff hg (by simp) hs

theorem flow_onRead (h : p.Flow data gaveUp) : p.onRead.Flow data gaveUp := by
  intro hgone
  have hw := h (clientGone_onRead.symm.trans hgone)
  revert hgone
  cases hc : p.channel with
  | nil =>
    rw [onRead_nil hc]
    exact fun _ => hw
  | cons item rest =>
    rw [onRead_cons hc]
    rw [← stream_took hc] at hw
    cases hphase : p.phase with
    | reading | ended how =>
      intro _
      exact hw
    | sending last =>
      rw [hphase] at hw
      exact flow_pass hw.1 hw.2
    | breaking why =>
      rw [hphase] at hw
      exact flow_breakOff hw.1 hw.2.1 hw.2.2

/-- One event keeps what was written in step with what was taken. -/
theorem flow_step (h : p.Flow data gaveUp) (e : PumpEvent) :
    (p.step e).Flow (data ++ p.takes e) (gaveUp ∨ p.GivesUp e) := by
  by_cases hgone : p.clientGone = true
  · exact flow_of_gone (clientGone_step hgone e)
  have hw := h (Bool.eq_false_iff.2 hgone)
  cases e with
  | clientReads => simpa [step, takes, GivesUp] using flow_onRead h
  | clientLeaves => exact flow_of_gone clientGone_onLeave
  | backend b =>
    cases hphase : p.phase with
    | reading =>
      rw [hphase] at hw
      simpa [step, hphase, GivesUp] using flow_onBody hw.1 hphase hw.2 b
    | sending | breaking | ended => simpa [step, hphase, takes, GivesUp] using h
  | silence | cutOff =>
    cases hphase : p.phase with
    | reading =>
      rw [hphase] at hw
      simpa [step, hphase, takes, GivesUp] using flow_breakOff hw.1 (by simp) hw.2
    | sending | breaking | ended => simpa [step, hphase, takes, GivesUp] using h
  | noRoom =>
    cases hphase : p.phase with
    | breaking why =>
      rw [hphase] at hw
      have hgives : p.GivesUp .noRoom := ⟨rfl, why, hphase⟩
      intro _
      simp only [step, hphase, endWith, takes, List.append_nil]
      exact .inr ⟨.inr hgives, hw.2.2⟩
    | reading | sending | ended => simpa [step, hphase, takes, GivesUp] using h

theorem flow_run (h : p.Flow data gaveUp) (es : List PumpEvent) :
    (p.run es).Flow (data ++ p.taken es) (gaveUp ∨ p.GaveUp es) := by
  induction es generalizing p data gaveUp with
  | nil => simpa [run, taken, GaveUp] using h
  | cons e es ih =>
    -- What was taken and whether the pump gave up add up along the run.
    have hnext := ih (flow_step h e)
    rw [List.append_assoc, or_assoc] at hnext
    exact hnext

end

end ReverseProxy.Forward.Pump
