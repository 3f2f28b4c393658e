import ReverseProxy.Proofs.Cache.Admission

set_option autoImplicit false

namespace ReverseProxy.Cache
open Http.Date (Instant)

def filled (data : List Bytes) : List Bytes := data.filter (!·.isEmpty)

@[simp] theorem filled_cons (chunk : Bytes) (data : List Bytes) :
    filled (chunk :: data) = if chunk = [] then filled data else chunk :: filled data := by
  cases chunk <;> rfl

theorem flatten_filled (data : List Bytes) : (filled data).flatten = data.flatten := by
  induction data with
  | nil => rfl
  | cons chunk data ih =>
    rw [filled_cons]
    split
    · next hempty => rw [ih, hempty, List.flatten_cons, List.nil_append]
    · rw [List.flatten_cons, List.flatten_cons, ih]

theorem sum_filled (data : List Bytes) :
    ((filled data).map List.length).sum = data.flatten.length := by
  rw [← List.length_flatten, flatten_filled]

namespace CapturedBody

def total (b : CapturedBody) : Nat := b.heapBytes + b.directBytes

def pushAll (b : CapturedBody) (data : List Bytes) : CapturedBody := (filled data).foldl push b

theorem pushAll_spec (b : CapturedBody) (data : List Bytes) :
    (b.pushAll data).chunks = b.chunks ++ filled data ∧
      (b.pushAll data).total = b.total + data.flatten.length := by
  rw [← flatten_filled]
  unfold pushAll
  induction filled data generalizing b with
  | nil => exact ⟨(List.append_nil _).symm, rfl⟩
  | cons chunk rest ih =>
    obtain ⟨hchunks, htotal⟩ := ih (b.push chunk)
    refine ⟨?_, ?_⟩
    · rw [List.foldl_cons, hchunks]
      simp [push]
    · rw [List.foldl_cons, htotal, total, push_bytes, total]
      simp [Nat.add_assoc]

/-- The same body in one piece. -/
def undivided (b : CapturedBody) : CapturedBody := ⟨[b.chunks.flatten], b.total, 0⟩

end CapturedBody

def Entry.undivided (e : Entry) : Entry :=
  { e with chunks := [e.body], heapBytes := e.heapBytes + e.directBytes, directBytes := 0 }

namespace Capture

inductive Call where
  | head (status : Http.Status) (headers : Http.Headers)
  | chunk (data : Bytes)

def perform? (c : Capture) : Call → Option Capture
  | .head status headers => c.onHead? status headers
  | .chunk data => some (c.onChunk data)

def run? (c : Capture) (calls : List Call) : Option Capture := calls.foldlM perform? c

/-- The first head that was shown and the chunks that came after it. -/
structure Heard where
  status : Http.Status
  headers : Http.Headers
  data : List Bytes

def Call.data? : Call → Option Bytes
  | .head _ _ => none
  | .chunk data => some data

def heard? : List Call → Option Heard
  | [] => none
  | .chunk _ :: calls => heard? calls
  | .head status headers :: calls => some ⟨status, headers, calls.filterMap Call.data?⟩

def Heard.calls (heard : Heard) : List Call :=
  .head heard.status heard.headers :: heard.data.map .chunk

/-- The capture takes this head and records from then on. -/
def Accepts (c : Capture) (status : Http.Status) (headers : Http.Headers) : Prop :=
  ∃ d, c.onHead? status headers = some d ∧ c.acceptsHead d = true

def CaptureState.undivided : CaptureState → CaptureState
  | .recording head body => .recording head body.undivided
  | s => s

def undivided (c : Capture) : Capture := { c with state := CaptureState.undivided c.state }

@[simp] theorem run?_nil (c : Capture) : c.run? [] = some c := rfl

@[simp] theorem run?_cons (c : Capture) (call : Call) (calls : List Call) :
    c.run? (call :: calls) = (c.perform? call).bind (·.run? calls) := rfl

section
variable {c d : Capture} {status : Http.Status} {headers : Http.Headers} {calls : List Call}
  {head : CapturedHead} {body : CapturedBody} {heard : Heard}

theorem onChunk_of_awaiting (h : c.state = .awaitingHead) (data : Bytes) : c.onChunk data = c := by
  simp only [onChunk, h]

theorem foldl_onChunk_of_rejected {why : Rejection} (h : c.state = .rejected why)
    (data : List Bytes) : data.foldl onChunk c = c := by
  have hchunk (chunk : Bytes) : c.onChunk chunk = c := by simp only [onChunk, h]
  induction data with
  | nil => rfl
  | cons chunk data ih => rw [List.foldl_cons, hchunk, ih]

theorem onChunk_not_awaiting (h : c.state ≠ .awaitingHead) (data : Bytes) :
    (c.onChunk data).state ≠ .awaitingHead := by
  rcases c.onChunk_cases data with hsame | ⟨why, hreject⟩ | ⟨head, body, _, _, hpush⟩
  · rw [hsame]
    exact h
  · rw [hreject]
    exact nofun
  · rw [hpush]
    exact nofun

theorem onHead?_of_not_awaiting (h : c.state ≠ .awaitingHead) (status : Http.Status)
    (headers : Http.Headers) : c.onHead? status headers = some c := by
  unfold onHead?
  split
  · next hstate => exact absurd hstate h
  · rfl

theorem onHead?_not_awaiting (h : c.onHead? status headers = some d) :
    d.state ≠ .awaitingHead := by
  rcases onHead?_cases h with ⟨hstate, rfl⟩ | ⟨_, why, rfl⟩ | ⟨_, _, _, _, _, _, rfl⟩
  · exact hstate
  · exact nofun
  · exact nofun

theorem run?_of_not_awaiting (h : c.state ≠ .awaitingHead) :
    c.run? calls = some ((calls.filterMap Call.data?).foldl onChunk c) := by
  induction calls generalizing c with
  | nil => rfl
  | cons call calls ih =>
    cases call with
    | head status headers =>
      rw [run?_cons, perform?, onHead?_of_not_awaiting h, Option.bind_some, ih h]
      rfl
    | chunk data =>
      rw [run?_cons, perform?, Option.bind_some, ih (onChunk_not_awaiting h data)]
      rfl

theorem run?_of_inactive (h : c.isActive = false) : c.run? calls = some c := by
  obtain ⟨why, hstate⟩ : ∃ why, c.state = .rejected why := by
    unfold isActive at h
    split at h
    · exact ⟨_, ‹_›⟩
    · cases h
  rw [run?_of_not_awaiting (hstate ▸ nofun), foldl_onChunk_of_rejected hstate]

theorem run?_of_awaiting (h : c.state = .awaitingHead) :
    c.run? calls = match heard? calls with
      | none => some c
      | some heard => (c.onHead? heard.status heard.headers).map (heard.data.foldl onChunk) := by
  induction calls with
  | nil => rfl
  | cons call calls ih =>
    cases call with
    | chunk data =>
      rw [run?_cons, perform?, onChunk_of_awaiting h, Option.bind_some, ih, heard?]
    | head status headers =>
      rw [run?_cons, perform?, heard?]
      dsimp only
      cases hd : c.onHead? status headers with
      | none => rfl
      | some d =>
        rw [Option.bind_some, Option.map_some]
        exact run?_of_not_awaiting (onHead?_not_awaiting hd)

theorem heard?_calls (heard : Heard) : heard? heard.calls = some heard := by
  have hdata : (heard.data.map Call.chunk).filterMap Call.data? = heard.data := by
    rw [List.filterMap_map]
    exact List.filterMap_some
  rw [Heard.calls, heard?, hdata]

theorem run?_eq_heard (h : c.state = .awaitingHead) :
    c.run? calls = match heard? calls with
      | none => some c
      | some heard => c.run? heard.calls := by
  rw [run?_of_awaiting h]
  cases heard? calls with
  | none => rfl
  | some heard =>
    dsimp only
    rw [run?_of_awaiting h, heard?_calls]

theorem onChunk_of_recording (hstate : c.state = .recording head body) (chunk : Bytes) :
    c.onChunk chunk = if chunk = [] then c
      else if c.maxFileSize < body.total + chunk.length then c.reject .bodyTooLarge
      else { c with state := .recording head (body.push chunk) } := by
  unfold onChunk
  rw [hstate]
  cases chunk <;> rfl

theorem foldl_onChunk (hstate : c.state = .recording head body)
    (hfits : body.total ≤ c.maxFileSize) (data : List Bytes) :
    data.foldl onChunk c = if body.total + data.flatten.length ≤ c.maxFileSize then
      { c with state := .recording head (body.pushAll data) } else c.reject .bodyTooLarge := by
  induction data generalizing c body with
  | nil =>
    rw [List.flatten_nil, List.length_nil, Nat.add_zero, if_pos hfits]
    cases c
    cases hstate
    rfl
  | cons chunk data ih =>
    rw [List.foldl_cons, List.flatten_cons, List.length_append, onChunk_of_recording hstate]
    by_cases hempty : chunk = []
    · have hskip : body.pushAll (chunk :: data) = body.pushAll data := by
        rw [CapturedBody.pushAll, filled_cons, if_pos hempty]
        rfl
      rw [if_pos hempty, ih hstate hfits, hskip, hempty, List.length_nil, Nat.zero_add]
    rw [if_neg hempty]
    by_cases hlarge : c.maxFileSize < body.total + chunk.length
    · rw [if_pos hlarge, foldl_onChunk_of_rejected rfl, if_neg (by omega)]
    · have hpushed : (body.push chunk).total = body.total + chunk.length := body.push_bytes chunk
      have hfirst : body.pushAll (chunk :: data) = (body.push chunk).pushAll data := by
        rw [CapturedBody.pushAll, filled_cons, if_neg hempty]
        rfl
      have hstill : (body.push chunk).total ≤ c.maxFileSize := hpushed ▸ Nat.not_lt.1 hlarge
      have hrest := ih (c := { c with state := .recording head (body.push chunk) }) rfl hstill
      rw [hpushed, Nat.add_assoc] at hrest
      rw [if_neg hlarge, hfirst]
      exact hrest

theorem accepts_iff (h : c.state = .awaitingHead) : c.Accepts status headers ↔
    ∃ head, c.onHead? status headers = some { c with state := .recording head {} } := by
  constructor
  · rintro ⟨d, hd, haccepts⟩
    rcases onHead?_cases hd with ⟨hstate, _⟩ | ⟨_, why, rfl⟩ | ⟨_, _, _, _, _, _, rfl⟩
    · exact absurd h hstate
    · rw [acceptsHead, Bool.and_eq_true] at haccepts
      cases haccepts.2
    · exact ⟨_, hd⟩
  · rintro ⟨head, hd⟩
    refine ⟨_, hd, ?_⟩
    rw [acceptsHead, h]
    rfl

theorem run?_of_accepted (h : c.state = .awaitingHead) (hheard : heard? calls = some heard)
    (hd : c.onHead? heard.status heard.headers = some { c with state := .recording head {} }) :
    c.run? calls = some (if heard.data.flatten.length ≤ c.maxFileSize then
      { c with state := .recording head (({} : CapturedBody).pushAll heard.data) }
      else c.reject .bodyTooLarge) := by
  have hfold := foldl_onChunk (c := { c with state := .recording head {} }) rfl (Nat.zero_le _)
    heard.data
  have hzero : ({} : CapturedBody).total = 0 := rfl
  rw [hzero, Nat.zero_add] at hfold
  rw [run?_of_awaiting h, hheard]
  dsimp only
  rw [hd, Option.map_some, hfold]
  rfl

theorem run?_of_not_accepted (h : c.state = .awaitingHead) (hheard : heard? calls = some heard)
    (hnot : ¬c.Accepts heard.status heard.headers) :
    (c.onHead? heard.status heard.headers = none ∧ c.run? calls = none) ∨
      ∃ why, c.run? calls = some (c.reject why) := by
  rw [run?_of_awaiting h, hheard]
  dsimp only
  cases hd : c.onHead? heard.status heard.headers with
  | none => exact .inl ⟨rfl, rfl⟩
  | some d =>
    rcases onHead?_cases hd with ⟨hstate, _⟩ | ⟨_, why, rfl⟩ | ⟨_, _, _, _, _, _, rfl⟩
    · exact absurd h hstate
    · refine .inr ⟨why, ?_⟩
      rw [Option.map_some, foldl_onChunk_of_rejected rfl]
    · exact absurd ((accepts_iff h).2 ⟨_, hd⟩) hnot

theorem yields_iff (h : c.state = .awaitingHead) {now : Instant} {e : Entry} :
    (c.run? calls).bind (·.finished? now) = some e ↔
      ∃ heard head, heard? calls = some heard ∧
        c.onHead? heard.status heard.headers = some { c with state := .recording head {} } ∧
        heard.data.flatten.length ≤ c.maxFileSize ∧
        ({ c with state := .recording head (({} : CapturedBody).pushAll heard.data) } :
          Capture).finished? now = some e := by
  constructor
  · intro he
    cases hheard : heard? calls with
    | none =>
      rw [run?_of_awaiting h, hheard, Option.bind_some, finished?, h] at he
      cases he
    | some heard =>
      by_cases haccepts : c.Accepts heard.status heard.headers
      · obtain ⟨head, hd⟩ := (accepts_iff h).1 haccepts
        rw [run?_of_accepted h hheard hd, Option.bind_some] at he
        by_cases hfits : heard.data.flatten.length ≤ c.maxFileSize
        · rw [if_pos hfits] at he
          exact ⟨heard, head, rfl, hd, hfits, he⟩
        · rw [if_neg hfits] at he
          cases he
      · rcases run?_of_not_accepted h hheard haccepts with ⟨_, hrun⟩ | ⟨why, hrun⟩
        · rw [hrun] at he
          cases he
        · rw [hrun] at he
          cases he
  · rintro ⟨heard, head, hheard, hd, hfits, he⟩
    rw [run?_of_accepted h hheard hd, if_pos hfits]
    exact he

theorem body_of_finished {now : Instant} {e : Entry} {data : List Bytes}
    (hstate : c.state = .recording head (({} : CapturedBody).pushAll data))
    (he : c.finished? now = some e) : e.chunks = filled data ∧
      e.body = (filled data).flatten ∧ e.heapBytes + e.directBytes = e.body.length := by
  obtain ⟨hchunks, htotal⟩ := ({} : CapturedBody).pushAll_spec data
  have hbytes : (({} : CapturedBody).pushAll data).total =
      (({} : CapturedBody).pushAll data).chunks.flatten.length := by
    rw [htotal, hchunks, List.nil_append, flatten_filled]
    exact Nat.zero_add _
  rw [finished?, hstate] at he
  cases he
  exact ⟨hchunks, congrArg List.flatten hchunks, hbytes⟩

theorem foldl_undivided (hstate : c.state = .recording head body)
    (hfits : body.total ≤ c.maxFileSize) {data others : List Bytes}
    (hbody : data.flatten = others.flatten) :
    (data.foldl onChunk c).undivided = (others.foldl onChunk c).undivided := by
  have hpushed : (body.pushAll data).undivided = (body.pushAll others).undivided := by
    obtain ⟨hchunks, htotal⟩ := body.pushAll_spec data
    obtain ⟨hchunks', htotal'⟩ := body.pushAll_spec others
    rw [CapturedBody.undivided, CapturedBody.undivided, hchunks, hchunks', htotal, htotal', hbody,
      List.flatten_append, List.flatten_append, flatten_filled, flatten_filled, hbody]
  rw [foldl_onChunk hstate hfits, foldl_onChunk hstate hfits, hbody]
  by_cases hall : body.total + others.flatten.length ≤ c.maxFileSize
  · rw [if_pos hall, if_pos hall, undivided, undivided]
    dsimp only [CaptureState.undivided]
    rw [hpushed]
  · rw [if_neg hall, if_neg hall]

theorem run?_undivided (h : c.state = .awaitingHead) {others : List Call} {other : Heard}
    (hheard : heard? calls = some heard) (hother : heard? others = some other)
    (hstatus : heard.status = other.status) (hheaders : heard.headers = other.headers)
    (hbody : heard.data.flatten = other.data.flatten) :
    (c.run? calls).map undivided = (c.run? others).map undivided := by
  rw [run?_of_awaiting h, run?_of_awaiting h, hheard, hother]
  dsimp only
  rw [← hstatus, ← hheaders]
  cases hd : c.onHead? heard.status heard.headers with
  | none => rfl
  | some d =>
    rw [Option.map_some, Option.map_some, Option.map_some, Option.map_some]
    rcases onHead?_cases hd with ⟨hstate, _⟩ | ⟨_, why, rfl⟩ | ⟨_, _, _, _, _, _, rfl⟩
    · exact absurd h hstate
    · rw [foldl_onChunk_of_rejected rfl, foldl_onChunk_of_rejected rfl]
    · rw [foldl_undivided rfl (Nat.zero_le _) hbody]

theorem finished?_undivided (c : Capture) (now : Instant) :
    (c.finished? now).map Entry.undivided = c.undivided.finished? now := by
  obtain ⟨key, maxFileSize, defaultTtlMs, started, state⟩ := c
  cases state <;> rfl

theorem yield_undivided (r : Option Capture) (now : Instant) :
    (r.bind (·.finished? now)).map Entry.undivided =
      (r.map undivided).bind (·.finished? now) := by
  cases r with
  | none => rfl
  | some c => exact c.finished?_undivided now

end

/-- Let a new capture be shown any heads and chunks. It yields an entry exactly if it took the first
head and the chunks behind it fit, and the entry holds just these chunks. Once it has given up it
stays as it is. Chunks before the first head and heads after it make no difference. Nor does the way
in which the body was cut, but for what is copied of it. -/
theorem protocol_of_calls (key : Key) (maxFileSize defaultTtlMs : Nat) (started : Instant)
    (calls : List Call) :
    let c : Capture := { key, maxFileSize, defaultTtlMs, started }
    (∀ now, ((c.run? calls).bind (·.finished? now)).isSome ↔
      ∃ heard, heard? calls = some heard ∧ c.Accepts heard.status heard.headers ∧
        ((filled heard.data).map List.length).sum ≤ maxFileSize) ∧
    (∀ now e, (c.run? calls).bind (·.finished? now) = some e →
      ∃ heard, heard? calls = some heard ∧ e.chunks = filled heard.data ∧
        e.body = (filled heard.data).flatten ∧ e.heapBytes + e.directBytes = e.body.length) ∧
    (∀ d, c.run? calls = some d → d.isActive = false → ∀ more, d.run? more = some d) ∧
    (c.run? calls = match heard? calls with
      | none => some c
      | some heard => c.run? heard.calls) ∧
    ∀ others heard other, heard? calls = some heard → heard? others = some other →
      heard.status = other.status → heard.headers = other.headers →
      heard.data.flatten = other.data.flatten →
      (c.run? calls).map undivided = (c.run? others).map undivided ∧
      ∀ now, ((c.run? calls).bind (·.finished? now)).map Entry.undivided =
        ((c.run? others).bind (·.finished? now)).map Entry.undivided := by
  intro c
  have hc : c.state = .awaitingHead := rfl
  refine ⟨fun now => ⟨fun hsome => ?_, ?_⟩, fun now e he => ?_,
    fun d _ hd more => run?_of_inactive hd, run?_eq_heard hc,
    fun others heard other hheard hother hstatus hheaders hbody => ?_⟩
  · obtain ⟨e, he⟩ := Option.isSome_iff_exists.1 hsome
    obtain ⟨heard, head, hheard, hd, hfits, _⟩ := (yields_iff hc).1 he
    exact ⟨heard, hheard, (accepts_iff hc).2 ⟨head, hd⟩, (sum_filled heard.data).symm ▸ hfits⟩
  · rintro ⟨heard, hheard, haccepts, hfits⟩
    obtain ⟨head, hd⟩ := (accepts_iff hc).1 haccepts
    rw [sum_filled] at hfits
    exact Option.isSome_of_eq_some ((yields_iff hc).2 ⟨heard, head, hheard, hd, hfits, rfl⟩)
  · obtain ⟨heard, head, hheard, _, _, hentry⟩ := (yields_iff hc).1 he
    exact ⟨heard, hheard, body_of_finished rfl hentry⟩
  · have hsame := run?_undivided hc hheard hother hstatus hheaders hbody
    refine ⟨hsame, fun now => ?_⟩
    rw [yield_undivided, yield_undivided, hsame]

theorem protocol_of_calls_cut :
    let c : Capture := { key := default, maxFileSize := 3, defaultTtlMs := 1000, started := 0 }
    let calls : List Call :=
      [.chunk [9], .head 200 .empty, .chunk [1], .chunk [], .head 404 .empty, .chunk [2, 3]]
    let others : List Call := [.head 200 .empty, .chunk [1, 2, 3]]
    (∃ e, (c.run? calls).bind (·.finished? 5) = some e ∧ e.body = [1, 2, 3] ∧
      e.heapBytes + e.directBytes = 3) ∧
    (c.run? calls).map undivided = (c.run? others).map undivided ∧
    ((c.run? (calls ++ [.chunk [4]])).bind (·.finished? 5)).isSome = false ∧
    ∀ d, c.run? (calls ++ [.chunk [4]]) = some d → d.isActive = false →
      d.run? others = some d := by
  intro c calls others
  have haccepts : c.Accepts 200 .empty := by
    have htaken : (c.onHead? 200 .empty).any c.acceptsHead = true := by decide +kernel
    obtain ⟨d, hd, hactive⟩ := (Option.any_eq_true _ _).1 htaken
    exact ⟨d, hd, hactive⟩
  obtain ⟨hyields, hentry, _, _, hcut⟩ :=
    protocol_of_calls c.key c.maxFileSize c.defaultTtlMs c.started calls
  obtain ⟨hlarge, _, hstays, _, _⟩ :=
    protocol_of_calls c.key c.maxFileSize c.defaultTtlMs c.started (calls ++ [.chunk [4]])
  have hheard : heard? calls = some ⟨200, .empty, [[1], [], [2, 3]]⟩ := rfl
  have hother : heard? others = some ⟨200, .empty, [[1, 2, 3]]⟩ := rfl
  refine ⟨?_, (hcut others _ _ hheard hother rfl rfl rfl).1, ?_, fun d hd hgone =>
    hstays d hd hgone others⟩
  · have hsome := (hyields 5).2 ⟨_, hheard, haccepts, by decide⟩
    obtain ⟨e, he⟩ := Option.isSome_iff_exists.1 hsome
    obtain ⟨heard, hheard', _, hbody, hbytes⟩ := hentry 5 e he
    cases hheard.symm.trans hheard'
    exact ⟨e, he, hbody, hbytes.trans (by rw [hbody]; rfl)⟩
  · refine Bool.eq_false_iff.2 fun hsome => ?_
    obtain ⟨heard, hheard', _, hfits⟩ := (hlarge 5).1 hsome
    cases hheard'
    exact absurd hfits (by decide)

end Capture
end ReverseProxy.Cache
