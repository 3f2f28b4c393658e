import ReverseProxy.Proofs.Forward.Stream

set_option autoImplicit false

namespace ReverseProxy.Forward.Pump

/-- The channel is not overfull, and the pump waits for room only while it is full. -/
structure Bounded (p : Pump) : Prop where
  le : p.channel.length ≤ channelDepth
  full : ∀ why, p.phase = .breaking why → p.channel.length = channelDepth

section
variable {p : Pump}

theorem hasRoom_iff : p.hasRoom = true ↔ p.channel.length < channelDepth := decide_eq_true_iff

theorem bounded_of_le (h : p.channel.length ≤ channelDepth)
    (hp : ∀ why, p.phase ≠ .breaking why) : p.Bounded :=
  ⟨h, fun why hphase => absurd hphase (hp why)⟩

theorem bounded_pass (h : p.hasRoom = true) (data : Bytes) : (p.pass data).Bounded := by
  refine bounded_of_le ?_ (by simp [pass])
  have hlt := hasRoom_iff.1 h
  simp only [pass, List.length_append, List.length_singleton]
  omega

theorem bounded_breakOff (h : p.channel.length ≤ channelDepth) (why : Failure) :
    (p.breakOff why).Bounded := by
  unfold breakOff
  split
  · exact bounded_of_le h (by simp [endWith])
  split
  · next hroom =>
    refine bounded_of_le ?_ (by simp)
    have hlt := hasRoom_iff.1 hroom
    simp only [List.length_append, List.length_singleton]
    omega
  · next hroom =>
    have hge : ¬p.channel.length < channelDepth := fun hlt => hroom (hasRoom_iff.2 hlt)
    refine ⟨h, fun _ _ => ?_⟩
    change p.channel.length = channelDepth
    omega

theorem bounded_onBody (h : p.Bounded) (b : BodyEvent) : (p.onBody b).Bounded := by
  cases b with
  | chunk data =>
    unfold onBody
    dsimp only
    split
    · exact bounded_of_le h.le (by simp [endWith])
    split
    · next hroom => exact bounded_pass hroom data
    · exact bounded_of_le h.le (by simp)
  | trailers => exact h
  | complete => exact bounded_of_le h.le (by simp [onBody, endWith])
  | failed reason => exact bounded_breakOff h.le _

theorem length_took (h : p.Bounded) {item : Item} {rest : List Item}
    (hc : p.channel = item :: rest) : (p.took item rest).channel.length < channelDepth := by
  have hle := h.le
  rw [hc, List.length_cons] at hle
  exact hle

theorem bounded_onRead (h : p.Bounded) : p.onRead.Bounded := by
  cases hc : p.channel with
  | nil =>
    rw [onRead_nil hc]
    exact h
  | cons item rest =>
    have hlt := length_took h hc
    rw [onRead_cons hc]
    cases hphase : p.phase with
    | reading | ended =>
      refine bounded_of_le (Nat.le_of_lt hlt) fun why hp => ?_
      have hp' : p.phase = .breaking why := hp
      rw [hphase] at hp'
      cases hp'
    | sending data => exact bounded_pass (hasRoom_iff.2 hlt) data
    | breaking why => exact bounded_breakOff (Nat.le_of_lt hlt) why

theorem bounded_onLeave : p.onLeave.Bounded := by
  unfold onLeave
  dsimp only
  cases hphase : p.phase with
  | reading | sending | breaking | ended =>
    exact bounded_of_le (Nat.zero_le _) (by simp [endWith])

theorem bounded_step (h : p.Bounded) (e : PumpEvent) : (p.step e).Bounded := by
  unfold step
  split
  · exact bounded_onRead h
  · exact bounded_onLeave
  · exact bounded_onBody h _
  · exact bounded_breakOff h.le _
  · exact bounded_breakOff h.le _
  · exact bounded_of_le h.le (by simp [endWith])
  · exact h

theorem bounded_run (h : p.Bounded) (es : List PumpEvent) : (p.run es).Bounded := by
  induction es generalizing p with
  | nil => exact h
  | cons e es ih => exact ih (bounded_step h e)

theorem drained_eq (h : p.channel = []) : { p with channel := [], delivered := p.stream } = p := by
  have hstream : p.stream = p.delivered := by rw [stream, h, List.append_nil]
  rw [hstream, ← h]

theorem run_reads_ended {how : Ending} (hp : p.phase = .ended how) (n : Nat)
    (hn : p.channel.length ≤ n) : p.run (List.replicate n .clientReads) =
      { p with channel := [], delivered := p.stream } := by
  induction n generalizing p with
  | zero =>
    have hc : p.channel = [] := List.length_eq_zero_iff.1 (Nat.le_zero.1 hn)
    rw [drained_eq hc]
    rfl
  | succ n ih =>
    rw [List.replicate_succ]
    change p.onRead.run _ = _
    cases hc : p.channel with
    | nil =>
      rw [onRead_nil hc, ih hp (by rw [hc]; exact Nat.zero_le n)]
    | cons item rest =>
      have hread : p.onRead = p.took item rest := by rw [onRead_cons hc, hp]
      have hle : (p.took item rest).channel.length ≤ n := by
        rw [hc, List.length_cons] at hn
        exact Nat.le_of_succ_le_succ hn
      rw [hread, ih (p := p.took item rest) hp hle, stream_took hc]
      rfl

theorem drained_reads {how : Ending} (hp : p.phase = .ended how) {n : Nat}
    (hn : p.channel.length ≤ n) : (p.run (List.replicate n .clientReads)).isDrained = true ∧
      (p.run (List.replicate n .clientReads)).delivered = p.stream := by
  rw [run_reads_ended hp n hn]
  refine ⟨?_, rfl⟩
  simp [isDrained, ending?, hp]

theorem onRead_breaking {why : Failure} (h : p.Bounded) (hp : p.phase = .breaking why)
    (hgone : p.clientGone = false) (hwhy : why ≠ .clientGone) :
    p.onRead.phase = .ended (.failed why) ∧ p.onRead.stream = p.stream ++ [.broken why.message] ∧
      p.onRead.channel.length = channelDepth := by
  have hfull := h.full why hp
  cases hc : p.channel with
  | nil =>
    rw [hc] at hfull
    cases hfull
  | cons item rest =>
    -- A full channel has room for exactly one item once one was taken.
    have hroom : (p.took item rest).hasRoom = true := hasRoom_iff.2 (length_took h hc)
    have hstop : ((p.took item rest).clientGone || why == .clientGone) = false := by
      simpa [took, hgone] using hwhy
    have hread : p.onRead = { p.took item rest with
        channel := rest ++ [.broken why.message], phase := .ended (.failed why) } := by
      rw [onRead_cons hc, hp]
      simp only [breakOff, hstop, hroom, Bool.false_eq_true, if_false, if_true]
      rfl
    rw [hread]
    refine ⟨rfl, ?_, ?_⟩
    · rw [← stream_took hc]
      simp [stream, took]
    · rw [← hfull, hc, List.length_append]
      rfl

end

theorem flow_start (endpoint : Endpoint) (poolId : String) (stuckAfter : Duration)
    (capture : Option Cache.Capture) :
    (start endpoint poolId stuckAfter capture).Flow [] False :=
  fun _ => ⟨not_false, rfl⟩

theorem bounded_start (endpoint : Endpoint) (poolId : String) (stuckAfter : Duration)
    (capture : Option Cache.Capture) : (start endpoint poolId stuckAfter capture).Bounded :=
  bounded_of_le (Nat.zero_le _) (by simp [start])

/-- Whatever the backend, the clock, the pool and the client did before: once a body broke off, a
client that is still there and reads on comes to its end, if it is not there yet, and has found the
chunks that were taken from the backend and then an error item; but only the chunks if the pump
gave up before. -/
theorem reads_of_broken_body (endpoint : Endpoint) (poolId : String) (stuckAfter : Duration)
    (capture : Option Cache.Capture) (es : List PumpEvent) (why : Failure) :
    let p := start endpoint poolId stuckAfter capture
    let q := p.run es
    q.clientGone = false → (q.phase = .breaking why ∨ q.phase = .ended (.failed why)) →
      ∀ n, channelDepth < n →
        let r := q.run (List.replicate n .clientReads)
        r.isDrained = true ∧
        (q.isDrained = true → r.delivered = q.delivered) ∧
        (¬p.GaveUp es → r.delivered = (p.taken es).map .chunk ++ [.broken why.message]) ∧
        (p.GaveUp es → r.delivered = (p.taken es).map .chunk) := by
  intro p q hgone hphase n hn r
  have hflow : q.Flow (p.taken es) (p.GaveUp es) := by
    simpa using flow_run (flow_start endpoint poolId stuckAfter capture) es
  have hbounded : q.Bounded := bounded_run (bounded_start endpoint poolId stuckAfter capture) es
  have hw := hflow hgone
  rcases hphase with hphase | hphase
  · rw [hphase] at hw
    obtain ⟨hkept, hwhy, hs⟩ := hw
    obtain ⟨m, rfl⟩ : ∃ m, n = m + 1 := ⟨n - 1, by omega⟩
    -- The first read lets the error item in; the rest of the reads empty the channel.
    obtain ⟨hended, hstream, hlength⟩ := onRead_breaking hbounded hphase hgone hwhy
    have hm : q.onRead.channel.length ≤ m := by omega
    obtain ⟨hdrained, hdelivered⟩ := drained_reads hended hm
    have hr : r = q.onRead.run (List.replicate m .clientReads) := rfl
    have hwaits : q.isDrained = false := by simp [isDrained, ending?, hphase]
    refine ⟨hr ▸ hdrained, fun hq => ?_, fun _ => ?_, fun hgave => absurd hgave hkept⟩
    · rw [hwaits] at hq
      cases hq
    · rw [hr, hdelivered, hstream, hs]
  · rw [hphase] at hw
    have hle := hbounded.le
    obtain ⟨hdrained, hdelivered⟩ := drained_reads hphase (n := n) (by omega)
    refine ⟨hdrained, fun hq => ?_, fun hkept => ?_, fun hgave => ?_⟩
    · have hempty : q.channel = [] := by simpa [isDrained, ending?, hphase] using hq
      rw [hdelivered, stream, hempty, List.append_nil]
    · exact hdelivered.trans (hw.resolve_right fun hg => hkept hg.1).2
    · exact hdelivered.trans (hw.resolve_left fun hg => hg.1 hgave).2

theorem reads_of_broken_body_one_chunk :
    let p := start ⟨"10.0.0.1", 80⟩ "main" (.ofMillis 100) none
    let es := [PumpEvent.backend (.chunk [1, 2]), .clientReads, .cutOff]
    ¬p.GaveUp es ∧ ((p.run es).run (List.replicate 9 .clientReads)).delivered =
      [.chunk [1, 2], .broken "pool 'main' was closed"] := by
  intro p es
  have hkept : ¬p.GaveUp es := by
    simp [es, GaveUp, GivesUp]
  obtain ⟨_, _, hbroken, _⟩ := reads_of_broken_body ⟨"10.0.0.1", 80⟩ "main" (.ofMillis 100) none es
    (.poolClosed "main") rfl (.inr rfl) 9 (by decide)
  exact ⟨hkept, hbroken hkept⟩

/-- A client that pauses for long enough with the channel full takes a broken body for a complete
one. -/
theorem broken_body_looks_complete :
    let p := start ⟨"10.0.0.1", 80⟩ "main" (.ofMillis 100) none
    let chunk : PumpEvent := .backend (.chunk [97])
    let q := p.run (List.replicate 8 chunk ++ [.silence, .noRoom] ++ List.replicate 8 .clientReads)
    q.ending? = some (.failed (.stuck ⟨"10.0.0.1", 80⟩ (.ofMillis 100))) ∧ q.clientGone = false ∧
      q.isDrained = true ∧ q.delivered = List.replicate 8 (.chunk [97]) := by
  decide +kernel

end ReverseProxy.Forward.Pump
