import ReverseProxy.Proofs.Cache.Balance

set_option autoImplicit false

/-!
# Sessions

A cache in use: a store with the captures that are open on it. The events of a session come in any
order and carry the time of the wall clock, which may jump. The checked run of a session is the one
in which counters refuse to give back more than they hold.
-/
namespace ReverseProxy.Cache
open Http.Date (Instant)

/-- What is done to a cache. Captures go by numbers; a number in use is taken over. -/
inductive Operation where
  | capture (id : Nat) (key : Key) (request : Http.Headers)
  | head (id : Nat) (status : Http.Status) (headers : Http.Headers)
  | chunk (id : Nat) (data : Bytes)
  | commit (id : Nat)
  | abort (id : Nat)
  | lookup (key : Key)
  | sweep
deriving DecidableEq, Repr

structure Event where
  now : Instant
  op : Operation
deriving DecidableEq, Repr

structure Session where
  store : Store
  captures : Nat → Option Capture := fun _ => none

namespace Session

def start (p : Policy) : Session where
  store := { policy := p }

def setCapture (s : Session) (id : Nat) (c : Option Capture) : Session :=
  { s with captures := fun i => if i = id then c else s.captures i }

def feed (s : Session) (id : Nat) (f : Capture → Capture) : Session :=
  s.setCapture id ((s.captures id).map f)

/-- A head whose default expiry lies outside the calendar leaves its capture alone. -/
def step (s : Session) (e : Event) : Session :=
  match e.op with
  | .capture id key request => s.setCapture id (s.store.beginCapture key request e.now)
  | .head id status h => s.feed id fun c => (c.onHead? status h).getD c
  | .chunk id data => s.feed id (·.onChunk data)
  | .commit id =>
    match s.captures id with
    | some c => { s.setCapture id none with store := (s.store.commit c e.now).2 }
    | none => s
  | .abort id => s.setCapture id none
  | .lookup key => { s with store := (s.store.lookup key e.now).2 }
  | .sweep => { s with store := (s.store.sweep e.now).2 }

def run (s : Session) (es : List Event) : Session := es.foldl step s

def step? (s : Session) (e : Event) : Option Session :=
  match e.op with
  | .commit id =>
    match s.captures id with
    | some c => (s.store.commit? c e.now).map fun r => { s.setCapture id none with store := r.2 }
    | none => some s
  | .lookup key => (s.store.lookup? key e.now).map fun r => { s with store := r.2 }
  | .sweep => (s.store.sweep? e.now).map fun r => { s with store := r.2 }
  | _ => some (s.step e)

def run? (s : Session) (es : List Event) : Option Session := es.foldlM step? s

theorem run_append (s : Session) (es fs : List Event) : s.run (es ++ fs) = (s.run es).run fs :=
  List.foldl_append

theorem run_concat (s : Session) (es : List Event) (e : Event) :
    s.run (es ++ [e]) = (s.run es).step e := by
  rw [run_append]
  rfl

theorem run_induction {P : Session → Prop} {s : Session} (h : P s)
    (hstep : ∀ s e, P s → P (s.step e)) (es : List Event) : P (s.run es) := by
  induction es generalizing s with
  | nil => exact h
  | cons e es ih => exact ih (hstep s e h)

theorem step_store (s : Session) (e : Event) :
    (s.step e).store = s.store ∨
    (∃ id c, e.op = .commit id ∧ s.captures id = some c ∧
      (s.step e).store = (s.store.commit c e.now).2) ∨
    (∃ key, e.op = .lookup key ∧ (s.step e).store = (s.store.lookup key e.now).2) ∨
    (e.op = .sweep ∧ (s.step e).store = (s.store.sweep e.now).2) := by
  cases h : e.op with
  | capture id key request => simp [step, h, setCapture]
  | head id status headers => simp [step, h, feed, setCapture]
  | chunk id data => simp [step, h, feed, setCapture]
  | abort id => simp [step, h, setCapture]
  | lookup key => exact .inr (.inr (.inl ⟨key, rfl, by simp [step, h]⟩))
  | sweep => exact .inr (.inr (.inr ⟨rfl, by simp [step, h]⟩))
  | commit id =>
    cases hc : s.captures id with
    | none => simp [step, h, hc]
    | some c => exact .inr (.inl ⟨id, c, rfl, hc, by simp [step, h, hc]⟩)

theorem step_capture {s : Session} {e : Event} {id : Nat} {c : Capture}
    (hc : (s.step e).captures id = some c) :
    s.captures id = some c ∨
    (∃ key request, e.op = .capture id key request ∧
      s.store.beginCapture key request e.now = some c) ∨
    (∃ a status h, e.op = .head id status h ∧ s.captures id = some a ∧
      c = (a.onHead? status h).getD a) ∨
    (∃ a data, e.op = .chunk id data ∧ s.captures id = some a ∧ c = a.onChunk data) := by
  cases h : e.op with
  | lookup key | sweep =>
    simp only [step, h] at hc
    exact .inl hc
  | abort i =>
    simp only [step, h, setCapture] at hc
    split at hc
    · cases hc
    · exact .inl hc
  | commit i =>
    simp only [step, h] at hc
    split at hc
    · simp only [setCapture] at hc
      split at hc
      · cases hc
      · exact .inl hc
    · exact .inl hc
  | capture i key request =>
    simp only [step, h, setCapture] at hc
    split at hc
    · next hi => exact .inr (.inl ⟨key, request, by rw [hi], hc⟩)
    · exact .inl hc
  | head i status headers =>
    simp only [step, h, feed, setCapture] at hc
    split at hc
    · next hi =>
      subst hi
      obtain ⟨a, ha, rfl⟩ := Option.map_eq_some_iff.1 hc
      exact .inr (.inr (.inl ⟨a, status, headers, rfl, ha, rfl⟩))
    · exact .inl hc
  | chunk i data =>
    simp only [step, h, feed, setCapture] at hc
    split at hc
    · next hi =>
      subst hi
      obtain ⟨a, ha, rfl⟩ := Option.map_eq_some_iff.1 hc
      exact .inr (.inr (.inr ⟨a, data, rfl, ha, rfl⟩))
    · exact .inl hc

theorem step_live {s : Session} (hd : s.store.Distinct) {e : Event} {l : Live}
    (hl : l ∈ (s.step e).store.live) :
    (∃ a ∈ s.store.live, l = a ∨ l = a.mark e.now) ∨
    (∃ id c, e.op = .commit id ∧ s.captures id = some c ∧ c.key = l.key ∧
      c.finished? e.now = some l.entry) := by
  rcases step_store s e with h | ⟨id, c, ho, hc, h⟩ | ⟨key, _, h⟩ | ⟨_, h⟩ <;> rw [h] at hl
  · exact .inl ⟨l, hl, .inl rfl⟩
  · rcases Store.mem_commit hl with hl | ⟨hk, he⟩
    · exact .inl ⟨l, hl, .inl rfl⟩
    · exact .inr ⟨id, c, ho, hc, hk, he⟩
  · exact .inl (Store.mem_lookup hd hl)
  · exact .inl ⟨l, Store.mem_sweep hd hl, .inl rfl⟩

theorem step_balanced {s : Session} (h : s.store.Balanced) (e : Event) :
    (s.step e).store.Balanced := by
  rcases step_store s e with he | ⟨_, c, _, _, he⟩ | ⟨key, _, he⟩ | ⟨_, he⟩ <;> rw [he]
  · exact h
  · exact h.commit c e.now
  · exact h.lookup key e.now
  · exact h.sweep e.now

theorem step?_eq {s : Session} (h : s.store.Balanced) (e : Event) :
    s.step? e = some (s.step e) := by
  cases ho : e.op with
  | commit id =>
    simp only [step?, step, ho]
    cases s.captures id with
    | none => rfl
    | some c => simp [h.commit?]
  | lookup key => simp [step?, step, ho, h.lookup?]
  | sweep => simp [step?, step, ho, h.sweep?]
  | capture | head | chunk | abort => simp [step?, ho]

theorem start_balanced (p : Policy) : (start p).store.Balanced :=
  ⟨List.nodup_nil, rfl, rfl, rfl⟩

theorem run_balanced (p : Policy) (es : List Event) : ((start p).run es).store.Balanced :=
  run_induction (P := fun s => s.store.Balanced) (start_balanced p)
    (fun _ e h => step_balanced h e) es

theorem run?_eq {s : Session} (h : s.store.Balanced) (es : List Event) :
    s.run? es = some (s.run es) := by
  induction es generalizing s with
  | nil => rfl
  | cons e es ih =>
    simp only [run?, List.foldlM_cons, step?_eq h e, Option.bind_some, Option.bind_eq_bind]
    exact ih (step_balanced h e)

end Session
end ReverseProxy.Cache
