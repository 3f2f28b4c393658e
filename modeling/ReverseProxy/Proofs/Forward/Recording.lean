import ReverseProxy.Proofs.Forward.Stream

set_option autoImplicit false

namespace ReverseProxy.Cache

theorem CapturedBody.push_bytes (b : CapturedBody) (chunk : Bytes) :
    (b.push chunk).heapBytes + (b.push chunk).directBytes =
      b.heapBytes + b.directBytes + chunk.length := by
  simp only [CapturedBody.push]
  split <;> omega

namespace Capture

/-- `c` is what the capture `k` became by a head that it accepted and the chunks `data`. -/
structure Recorded (k c : Capture) (data : List Bytes) : Prop where
  key : c.key = k.key
  limit : c.maxFileSize = k.maxFileSize
  state : (data.flatten.length ≤ k.maxFileSize ∧ ∃ head body, c.state = .recording head body ∧
      body.chunks.flatten = data.flatten ∧
      body.heapBytes + body.directBytes = data.flatten.length) ∨
    (k.maxFileSize < data.flatten.length ∧ ∃ why, c.state = .rejected why)

section
variable {k c : Capture} {data : List Bytes}

theorem Recorded.onChunk (h : k.Recorded c data) (chunk : Bytes) :
    k.Recorded (c.onChunk chunk) (data ++ [chunk]) := by
  have hlength : (data ++ [chunk]).flatten.length = data.flatten.length + chunk.length := by simp
  have hflatten : (data ++ [chunk]).flatten = data.flatten ++ chunk := by simp
  obtain ⟨hkey, hlimit, hstate⟩ := h
  unfold Capture.onChunk
  rcases hstate with ⟨hle, head, body, hstate, hbody, hbytes⟩ | ⟨hlt, why, hstate⟩
  · rw [hstate]
    dsimp only
    by_cases hempty : chunk.isEmpty
    · rw [if_pos hempty]
      rw [List.isEmpty_iff.1 hempty] at hlength hflatten ⊢
      rw [List.append_nil] at hflatten
      refine ⟨hkey, hlimit, .inl ⟨by rw [hflatten]; exact hle, head, body, hstate, ?_, ?_⟩⟩
      · rw [hflatten, hbody]
      · rw [hflatten, hbytes]
    rw [if_neg hempty]
    by_cases hlarge : c.maxFileSize < body.heapBytes + body.directBytes + chunk.length
    · rw [if_pos hlarge]
      exact ⟨hkey, hlimit, .inr ⟨by omega, .bodyTooLarge, rfl⟩⟩
    · rw [if_neg hlarge]
      refine ⟨hkey, hlimit, .inl ⟨by omega, head, body.push chunk, rfl, ?_, ?_⟩⟩
      · rw [hflatten, ← hbody]
        simp [CapturedBody.push]
      · rw [body.push_bytes, hbytes, hlength]
  · rw [hstate]
    exact ⟨hkey, hlimit, .inr ⟨by omega, why, hstate⟩⟩

theorem Recorded.foldl (h : k.Recorded c data) (chunks : List Bytes) :
    k.Recorded (chunks.foldl Capture.onChunk c) (data ++ chunks) := by
  induction chunks generalizing c data with
  | nil =>
    rw [List.append_nil]
    exact h
  | cons chunk chunks ih =>
    have hnext := ih (h.onChunk chunk)
    rw [List.append_assoc] at hnext
    exact hnext

theorem recorded_of_acceptsHead {status : Http.Status} {headers : Http.Headers}
    (h : k.onHead? status headers = some c) (ha : k.acceptsHead c = true) : k.Recorded c [] := by
  unfold acceptsHead at ha
  rw [Bool.and_eq_true, beq_iff_eq] at ha
  obtain ⟨hstate, hactive⟩ := ha
  unfold onHead? at h
  rw [hstate] at h
  dsimp only at h
  split at h
  · cases h
    cases hactive
  split at h
  · cases h
    exact ⟨rfl, rfl, .inl ⟨Nat.zero_le _, _, {}, rfl, rfl, rfl⟩⟩
  · cases h
    cases hactive
  · cases h

end

end Capture
end ReverseProxy.Cache

namespace ReverseProxy.Forward.Pump

/-- Of what was taken, `data`, the pump has passed on `passed` to the client and the capture. -/
structure Relays (p : Pump) (capture : Option Cache.Capture) (data passed : List Bytes) : Prop where
  taken : passed <+: data
  capture : p.capture = capture.map fun c => passed.foldl Cache.Capture.onChunk c
  handed : p.handedOver <+: passed.flatten
  here : p.clientGone = false → p.handedOver = passed.flatten
  gone : p.clientGone = true → ∃ how, p.phase = .ended how
  reading : p.phase = .reading → passed = data
  sending : ∀ last, p.phase = .sending last → passed ++ [last] = data

section
variable {p q : Pump} {capture : Option Cache.Capture} {data passed : List Bytes}

theorem handedOver_took {item : Item} {rest : List Item} (h : p.channel = item :: rest) :
    (p.took item rest).handedOver = p.handedOver := by
  have hstream := stream_took h
  unfold stream at hstream
  unfold handedOver
  rw [hstream]

theorem handedOver_pass (chunk : Bytes) : (p.pass chunk).handedOver = p.handedOver ++ chunk := by
  unfold handedOver pass
  dsimp only
  rw [← List.append_assoc, List.flatMap_append]
  simp

theorem handedOver_onLeave : p.onLeave.handedOver <+: p.handedOver := by
  have hdelivered : p.onLeave.delivered = p.delivered ∧ p.onLeave.channel = [] := by
    unfold onLeave
    dsimp only
    split <;> exact ⟨rfl, rfl⟩
  unfold handedOver
  rw [hdelivered.1, hdelivered.2, List.append_nil, List.flatMap_append]
  exact List.prefix_append _ _

theorem breakOff_frame (why : Failure) :
    (p.breakOff why).capture = p.capture ∧ (p.breakOff why).handedOver = p.handedOver ∧
      (p.breakOff why).phase ≠ .reading ∧ (∀ last, (p.breakOff why).phase ≠ .sending last) ∧
      (p.clientGone = true → ∃ how, (p.breakOff why).phase = .ended how) := by
  unfold breakOff
  split
  · exact ⟨rfl, rfl, by simp [endWith], by simp [endWith], fun _ => ⟨_, rfl⟩⟩
  · next hstays =>
    have hgone : p.clientGone = false := by
      cases hg : p.clientGone with
      | false => rfl
      | true => simp [hg] at hstays
    split
    · refine ⟨rfl, ?_, by simp, by simp, fun _ => ⟨_, rfl⟩⟩
      unfold handedOver
      dsimp only
      rw [← List.append_assoc, List.flatMap_append]
      simp
    · refine ⟨rfl, rfl, by simp, by simp, fun h => ?_⟩
      rw [hgone] at h
      cases h

theorem Relays.stop (h : p.Relays capture data passed) (hcapture : q.capture = p.capture)
    (hhanded : q.handedOver = p.handedOver) (hgone : q.clientGone = p.clientGone)
    (hended : p.clientGone = true → ∃ how, q.phase = .ended how) (hreading : q.phase ≠ .reading)
    (hsending : ∀ last, q.phase ≠ .sending last) (more : List Bytes) :
    q.Relays capture (data ++ more) passed where
  taken := h.taken.trans (List.prefix_append _ _)
  capture := hcapture.trans h.capture
  handed := hhanded ▸ h.handed
  here hq := hhanded ▸ h.here (hgone ▸ hq)
  gone hq := hended (hgone ▸ hq)
  reading hq := absurd hq hreading
  sending last hq := absurd hq (hsending last)

theorem Relays.breakOff (h : p.Relays capture data passed) (why : Failure) :
    (p.breakOff why).Relays capture data passed := by
  obtain ⟨hcapture, hhanded, hreading, hsending, hended⟩ := p.breakOff_frame why
  have hstop := h.stop hcapture hhanded (clientGone_breakOff why) hended hreading hsending []
  rw [List.append_nil] at hstop
  exact hstop

theorem Relays.pass (h : p.Relays capture data passed) (hgone : p.clientGone = false)
    {chunk : Bytes} {all : List Bytes} (hall : passed ++ [chunk] = all) :
    (p.pass chunk).Relays capture all all := by
  subst hall
  have hhanded : (p.pass chunk).handedOver = (passed ++ [chunk]).flatten := by
    rw [handedOver_pass, h.here hgone]
    simp
  refine ⟨List.prefix_rfl, ?_, hhanded ▸ List.prefix_rfl, fun _ => hhanded, fun hg => ?_,
    fun _ => rfl, fun last hl => by cases hl⟩
  · change p.capture.map _ = _
    rw [h.capture, Option.map_map]
    congr 1
    funext c
    rw [Function.comp_apply, List.foldl_append]
    rfl
  · have hg' : p.clientGone = true := hg
    rw [hgone] at hg'
    cases hg'

theorem Relays.took (h : p.Relays capture data passed) {item : Item} {rest : List Item}
    (hc : p.channel = item :: rest) : (p.took item rest).Relays capture data passed where
  taken := h.taken
  capture := h.capture
  handed := handedOver_took hc ▸ h.handed
  here hq := handedOver_took hc ▸ h.here hq
  gone := h.gone
  reading := h.reading
  sending := h.sending

theorem Relays.present (h : p.Relays capture data passed) (hrunning : ∀ how, p.phase ≠ .ended how) :
    p.clientGone = false := by
  cases hg : p.clientGone with
  | false => rfl
  | true =>
    obtain ⟨how, hp⟩ := h.gone hg
    exact absurd hp (hrunning how)

theorem Relays.handedOver_prefix (h : p.Relays capture data passed) :
    p.handedOver <+: data.flatten := by
  obtain ⟨rest, rfl⟩ := h.taken
  rw [List.flatten_append]
  exact h.handed.trans (List.prefix_append _ _)

theorem Relays.onRead (h : p.Relays capture data passed) :
    ∃ passed', p.onRead.Relays capture data passed' := by
  cases hc : p.channel with
  | nil =>
    rw [onRead_nil hc]
    exact ⟨passed, h⟩
  | cons item rest =>
    rw [onRead_cons hc]
    have htook := h.took hc
    cases hp : p.phase with
    | reading | ended how => exact ⟨passed, htook⟩
    | sending last =>
      -- The read made room for the chunk that waits, which was all that was not passed on.
      have hgone := h.present (by simp [hp])
      exact ⟨data, htook.pass hgone (h.sending last hp)⟩
    | breaking why => exact ⟨passed, htook.breakOff why⟩

theorem Relays.onLeave (h : p.Relays capture data passed) :
    p.onLeave.Relays capture data passed := by
  have hended : ∃ how, p.onLeave.phase = .ended how := by
    unfold Pump.onLeave
    dsimp only
    split
    · exact ⟨_, rfl⟩
    · exact ⟨_, rfl⟩
    · exact ⟨_, rfl⟩
    · next how hp => exact ⟨how, hp⟩
  have hcapture : p.onLeave.capture = p.capture := by
    unfold Pump.onLeave
    dsimp only
    split <;> rfl
  obtain ⟨how, hp⟩ := hended
  refine ⟨h.taken, hcapture.trans h.capture, handedOver_onLeave.trans h.handed, fun hg => ?_,
    fun _ => ⟨how, hp⟩, fun hr => ?_, fun last hr => ?_⟩
  · rw [clientGone_onLeave] at hg
    cases hg
  · rw [hp] at hr
    cases hr
  · rw [hp] at hr
    cases hr

theorem Relays.onBody (h : p.Relays capture data passed) (hp : p.phase = .reading) (b : BodyEvent) :
    ∃ passed', (p.onBody b).Relays capture (data ++ p.takes (.backend b)) passed' := by
  have hgone := h.present (by simp [hp])
  have hpassed := h.reading hp
  subst hpassed
  cases b with
  | chunk chunk =>
    have htakes : p.takes (.backend (.chunk chunk)) = [chunk] := by simp [takes, hp]
    rw [htakes]
    unfold Pump.onBody
    dsimp only
    rw [if_neg (Bool.eq_false_iff.1 hgone)]
    split
    · exact ⟨_, h.pass hgone rfl⟩
    · refine ⟨passed, List.prefix_append _ _, h.capture, h.handed, h.here, fun hg => ?_,
        fun hr => ?_, fun last hl => ?_⟩
      · have hg' : p.clientGone = true := hg
        rw [hgone] at hg'
        cases hg'
      · cases hr
      · cases hl
        rfl
  | trailers =>
    refine ⟨passed, ?_⟩
    simpa [Pump.onBody, takes] using h
  | complete =>
    refine ⟨passed, ?_⟩
    exact h.stop (q := p.endWith .complete) rfl rfl rfl (fun _ => ⟨_, rfl⟩) (by simp [endWith])
      (by simp [endWith]) []
  | failed reason =>
    refine ⟨passed, ?_⟩
    have hbroken := h.breakOff (.exchange p.endpoint reason)
    simpa [Pump.onBody, takes] using hbroken

theorem Relays.step (h : p.Relays capture data passed) (e : PumpEvent) :
    ∃ passed', (p.step e).Relays capture (data ++ p.takes e) passed' := by
  have hidle : p.takes e = [] → ∃ passed', p.Relays capture (data ++ p.takes e) passed' := by
    intro ht
    rw [ht, List.append_nil]
    exact ⟨passed, h⟩
  cases e with
  | clientReads =>
    simp only [Pump.step, takes, List.append_nil]
    exact h.onRead
  | clientLeaves =>
    simp only [Pump.step, takes, List.append_nil]
    exact ⟨passed, h.onLeave⟩
  | backend b =>
    cases hp : p.phase with
    | reading => simpa [Pump.step, hp] using h.onBody hp b
    | sending | breaking | ended => simpa [Pump.step, hp] using hidle (by simp [takes, hp])
  | silence | cutOff =>
    cases hp : p.phase with
    | reading =>
      simp only [Pump.step, hp, takes, List.append_nil]
      exact ⟨passed, h.breakOff _⟩
    | sending | breaking | ended => simpa [Pump.step, hp] using hidle (by simp [takes])
  | noRoom =>
    cases hp : p.phase with
    | breaking why =>
      simp only [Pump.step, hp]
      exact ⟨passed, h.stop (q := p.endWith (.failed why)) rfl rfl rfl (fun _ => ⟨_, rfl⟩)
        (by simp [endWith]) (by simp [endWith]) _⟩
    | reading | sending | ended => simpa [Pump.step, hp] using hidle (by simp [takes])

theorem Relays.run (h : p.Relays capture data passed) (es : List PumpEvent) :
    ∃ passed', (p.run es).Relays capture (data ++ p.taken es) passed' := by
  induction es generalizing p data passed with
  | nil =>
    rw [Pump.taken, List.append_nil]
    exact ⟨passed, h⟩
  | cons e es ih =>
    obtain ⟨passed', h'⟩ := h.step e
    have hnext := ih h'
    rw [List.append_assoc] at hnext
    exact hnext

theorem relays_start (endpoint : Endpoint) (poolId : String) (stuckAfter : Duration)
    (capture : Option Cache.Capture) :
    (start endpoint poolId stuckAfter capture).Relays capture [] [] where
  taken := List.prefix_rfl
  capture := by cases capture <;> rfl
  handed := List.prefix_rfl
  here _ := rfl
  gone hg := by cases hg
  reading _ := rfl
  sending last hl := by cases hl

theorem ending?_breakOff (why : Failure) : (p.breakOff why).ending? ≠ some .complete := by
  unfold breakOff
  split
  · simp [endWith, ending?]
  · split <;> simp [ending?]

theorem ending?_onRead (h : p.ending? = none) : p.onRead.ending? ≠ some .complete := by
  cases hc : p.channel with
  | nil =>
    rw [onRead_nil hc, h]
    simp
  | cons item rest =>
    rw [onRead_cons hc]
    cases hp : p.phase with
    | reading => simp [took, ending?, hp]
    | sending last => simp [pass, ending?]
    | breaking why => exact ending?_breakOff why
    | ended how => simp [ending?, hp] at h

theorem ending?_onLeave (h : p.ending? = none) : p.onLeave.ending? ≠ some .complete := by
  unfold onLeave
  cases hp : p.phase with
  | reading | sending | breaking => simp [endWith, ending?]
  | ended how => simp [ending?, hp] at h

theorem ending?_step_complete (h : p.ending? = none) (e : PumpEvent) :
    (p.step e).ending? = some .complete ↔ p.phase = .reading ∧ e = .backend .complete := by
  have hidle : p.ending? ≠ some .complete := by
    rw [h]
    simp
  constructor
  · intro hstep
    cases e with
    | clientReads => exact absurd hstep (ending?_onRead h)
    | clientLeaves => exact absurd hstep (ending?_onLeave h)
    | backend b =>
      cases hp : p.phase with
      | reading =>
        cases b with
        | complete => exact ⟨rfl, rfl⟩
        | trailers => simp [step, hp, onBody, ending?] at hstep
        | failed reason =>
          simp only [step, hp, onBody] at hstep
          exact absurd hstep (ending?_breakOff _)
        | chunk data =>
          simp only [step, hp, onBody] at hstep
          split at hstep
          · simp [endWith, ending?] at hstep
          · split at hstep <;> simp [pass, ending?] at hstep
      | sending | breaking | ended =>
        simp only [step, hp] at hstep
        exact absurd hstep hidle
    | silence | cutOff =>
      cases hp : p.phase with
      | reading =>
        simp only [step, hp] at hstep
        exact absurd hstep (ending?_breakOff _)
      | sending | breaking | ended =>
        simp only [step, hp] at hstep
        exact absurd hstep hidle
    | noRoom =>
      cases hp : p.phase with
      | breaking why => simp [step, hp, endWith, ending?] at hstep
      | reading | sending | ended =>
        simp only [step, hp] at hstep
        exact absurd hstep hidle
  · rintro ⟨hp, rfl⟩
    simp only [step, hp]
    rfl

end

end ReverseProxy.Forward.Pump
