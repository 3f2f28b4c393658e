import ReverseProxy.Proofs.Proxy.Run

set_option autoImplicit false

/-!
# One record for each request

A request whose forward is under way has no record yet, every other one has exactly one, with the
status that its client was told. The counters of finished requests count the records, whether they
are logged or not.
-/
namespace ReverseProxy
open Request

namespace Request.Context

theorem status_finish (c : Context) (now : Nat) :
    (c.finish now).status = c.told.headD Forward.clientClosedRequest := by
  have hdone (c : Context) : ((c.backendDone now).record now).status = c.status := by
    unfold backendDone
    split <;> rfl
  unfold finish told
  rw [hdone]
  split <;> rfl

theorem finish_of (c : Context) (now : Nat) :
    (c.finish now).requestId = c.id ∧ (c.finish now).action = c.decision.action ∧
      (c.finish now).fromCache = c.fromCache ∧
      (c.fromCache = true → (c.finish now).backendElapsedMs = 0) := by
  have hdone (c : Context) : ((c.backendDone now).record now).requestId = c.id ∧
      ((c.backendDone now).record now).action = c.decision.action ∧
      ((c.backendDone now).record now).fromCache = c.fromCache ∧
      (c.fromCache = true → ((c.backendDone now).record now).backendElapsedMs = 0) := by
    unfold backendDone
    split <;> exact ⟨rfl, rfl, rfl, fun hcache => if_pos hcache⟩
  unfold finish
  dsimp only
  split
  · exact hdone c
  · exact hdone { c with status := Forward.clientClosedRequest }

end Request.Context

def countOf {α : Type} [BEq α] (a : α) (n : List (α × Nat)) : Nat :=
  ((n.find? (·.1 == a)).map Prod.snd).getD 0

theorem countOf_tally {α : Type} [BEq α] [LawfulBEq α] (a b : α) (n : List (α × Nat)) :
    countOf a (tally b n) = countOf a n + if b == a then 1 else 0 := by
  induction n with
  | nil => cases h : b == a <;> simp [tally, countOf, h]
  | cons x n ih =>
    have hcons (y : α × Nat) (m : List (α × Nat)) :
        countOf a (y :: m) = if y.1 == a then y.2 else countOf a m := by
      unfold countOf
      rw [List.find?_cons]
      cases y.1 == a <;> rfl
    unfold tally
    rw [hcons]
    by_cases hb : x.1 == b
    · have heq : x.1 = b := eq_of_beq hb
      rw [if_pos hb, hcons, ← heq]
      cases x.1 == a <;> rfl
    · rw [if_neg hb, hcons, ih]
      cases hx : x.1 == a with
      | false => rfl
      | true =>
        have hne : (b == a) = false := by
          rw [← eq_of_beq hx]
          simpa using fun heq : b = x.1 => hb (beq_iff_eq.2 heq.symm)
        rw [hne]
        rfl

theorem countOf_foldl_tally {α β : Type} [BEq α] [LawfulBEq α] (g : β → α) (a : α) (bs : List β)
    (n : List (α × Nat)) :
    countOf a (bs.foldl (fun n b => tally (g b) n) n) = countOf a n + bs.countP (g · == a) := by
  induction bs generalizing n with
  | nil => rfl
  | cons b bs ih =>
    rw [List.foldl_cons, ih, countOf_tally, List.countP_cons, Nat.add_assoc,
      Nat.add_comm (ite _ _ _)]

namespace Proxy

def subject? : Moment → Option Nat
  | (p, .event (.request _ _)) => some p.nextId
  | (_, .event (.forward id _)) => some id
  | _ => none

def toldAt (m : Moment) (id : Nat) : List Http.Status :=
  if subject? m = some id then (m.1.change m.2).1.told else []

def told (H : List Moment) (id : Nat) : List Http.Status := H.flatMap (toldAt · id)

def forwardsOf (p : Proxy) (id : Nat) : List Forward := p.forwards.filter (·.context.id == id)

def recordsOf (rs : List Access.Record) (id : Nat) : List Access.Record :=
  rs.filter (·.requestId == id)

structure Concerns (p : Proxy) (connection : Connection) (r : Incoming) (told : List Http.Status)
    (c : Context) : Prop where
  id : c.id = p.nextId
  decision : c.decision = (p.contextFor connection r).decision
  fromCache : c.fromCache = (p.served? connection r).isSome
  told : c.told = told

/-- How it stands with a request that `p` took in. -/
inductive Stands (p : Proxy) (connection : Connection) (r : Incoming) (told : List Http.Status)
    (fs : List Forward) (rs : List Access.Record) : Prop where
  | underWay (f : Forward) (forwards : fs = [f]) (records : rs = [])
      (starts : p.startsTo? connection r = some f.endpoint)
      (concerns : p.Concerns connection r told f.context)
  | ended (c : Context) (now : Nat) (forwards : fs = []) (records : rs = [c.finish now])
      (concerns : p.Concerns connection r told c)

/-- The records `rs` are those of the requests that have ended. -/
structure Logged (H : List Moment) (rs : List Access.Record) (p : Proxy) : Prop where
  log : p.log = if p.keepsLog then rs else []
  finished : p.finished = rs.foldl (fun n r => tally (r.action, r.status) n) []
  requests : ∀ s connection r, (s, .event (.request connection r)) ∈ H → s.nextId < p.nextId ∧
    s.Stands connection r (told H s.nextId) (p.forwardsOf s.nextId) (recordsOf rs s.nextId)
  forwards : ∀ f ∈ p.forwards, ∃ m ∈ H, requestId? m = some f.context.id
  records : ∀ rec ∈ rs, ∃ m ∈ H, requestId? m = some rec.requestId
  silent : ∀ id, p.nextId ≤ id → told H id = []

/-- The moment `m` took `p` to `q`, and only the request `id` has to do with it. -/
structure Only (p : Proxy) (m : Moment) (id : Nat) (added : List Access.Record) (q : Proxy) :
    Prop where
  log : q.log = p.log ++ if p.keepsLog then added else []
  finished : q.finished = added.foldl (fun n r => tally (r.action, r.status) n) p.finished
  keepsLog : q.keepsLog = p.keepsLog
  next : p.nextId ≤ q.nextId
  given : id < q.nextId
  subject : subject? m = some id
  records : ∀ rec ∈ added, rec.requestId = id
  others : ∀ other, other ≠ id → (q.forwardsOf other).Perm (p.forwardsOf other)
  forwards : ∀ f ∈ q.forwards, f ∈ p.forwards ∨ f.context.id = id

section
variable {p q s : Proxy} {connection : Connection} {r : Incoming} {c c' : Context} {o : Outcome}
  {e : Endpoint} {h : Pool.Holding} {H : List Moment} {rs : List Access.Record} {id : Nat}

theorem exists_of_requestId? {m : Moment} (h : requestId? m = some id) :
    ∃ connection r, m = (m.1, .event (.request connection r)) ∧ m.1.nextId = id := by
  obtain ⟨p, change⟩ := m
  unfold requestId? at h
  split at h
  · next p connection r heq =>
    cases heq
    cases h
    exact ⟨connection, r, rfl, rfl⟩
  · cases h

theorem Concerns.tells {told : List Http.Status} (hs : s.Concerns connection r told c)
    (ht : c.Tells o c') : s.Concerns connection r (told ++ o.told) c' :=
  ⟨ht.id.trans hs.id, ht.decision.trans hs.decision, ht.fromCache.trans hs.fromCache,
    ht.told.trans (hs.told ▸ rfl)⟩

theorem Stands.perm {told : List Http.Status} {fs fs' : List Forward}
    (hs : s.Stands connection r told fs rs) (hp : fs'.Perm fs) :
    s.Stands connection r told fs' rs := by
  cases hs with
  | underWay f forwards records starts concerns =>
    exact .underWay f (List.perm_singleton.1 (forwards ▸ hp)) records starts concerns
  | ended c now forwards records concerns =>
    exact .ended c now (List.perm_nil.1 (forwards ▸ hp)) records concerns

theorem forwardsOf_others (p : Proxy) {other : Nat} (hne : other ≠ id) :
    (p.others id).filter (·.context.id == other) = p.forwardsOf other := by
  unfold others forwardsOf
  rw [List.filter_filter]
  apply List.filter_congr
  intro f _
  by_cases hf : f.context.id = other
  · simp [hf, hne]
  · simp [hf]

theorem forwardsOf_self (p : Proxy) (id : Nat) :
    (p.others id).filter (·.context.id == id) = [] := by
  rw [List.filter_eq_nil_iff]
  intro f hf
  simpa using (mem_others.1 hf).2

theorem recordsOf_append (rs added : List Access.Record) (id : Nat) :
    recordsOf (rs ++ added) id = recordsOf rs id ++ recordsOf added id := List.filter_append _ _

theorem recordsOf_finish (c : Context) (now : Nat) :
    recordsOf [c.finish now] c.id = [c.finish now] := by
  unfold recordsOf
  rw [List.filter_cons_of_pos (by simp [(c.finish_of now).1])]
  rfl

theorem recordsOf_nil_of_ne {added : List Access.Record}
    (hadded : ∀ rec ∈ added, rec.requestId = id) {other : Nat} (hne : other ≠ id) :
    recordsOf added other = [] := by
  unfold recordsOf
  rw [List.filter_eq_nil_iff]
  intro rec hrec
  simpa [hadded rec hrec] using fun heq : id = other => hne heq.symm

theorem Turn.stands (ht : p.Turn c e h o q) :
    ∃ added, p.Adds q added ∧ (∀ rec ∈ added, rec.requestId = c.id) ∧
      (∀ other, other ≠ c.id → (q.forwardsOf other).Perm (p.forwardsOf other)) ∧
      (∀ f ∈ q.forwards, f ∈ p.forwards ∨ f.context.id = c.id) ∧
      ∀ s connection r told rs, Concerns s connection r told c → s.startsTo? connection r = some e →
        recordsOf rs c.id = [] → s.Stands connection r (told ++ o.told) (q.forwardsOf c.id)
          (recordsOf (rs ++ added) c.id) := by
  cases ht with
  | goesOn f forwards pending books deals tells endpoint sound =>
    have hid : f.context.id = c.id := tells.id
    have hfilter (id : Nat) := forwards.filter (·.context.id == id)
    refine ⟨[], books, fun rec hrec => (List.not_mem_nil hrec).elim, fun other hne => ?_,
      fun g hg => ?_, fun s connection r told rs hs hstarts hrs => ?_⟩
    · have hother := hfilter other
      rw [List.filter_cons_of_neg (by simpa [hid] using fun heq : c.id = other => hne heq.symm),
        forwardsOf_others p hne] at hother
      exact hother
    · rcases List.mem_cons.1 (forwards.subset hg) with rfl | hg
      · exact .inr hid
      · exact .inl (mem_others.1 hg).1
    · have hself := hfilter c.id
      rw [List.filter_cons_of_pos (by simp [hid]), forwardsOf_self] at hself
      refine .underWay f (List.perm_singleton.1 hself) ?_ (endpoint ▸ hstarts) (hs.tells tells)
      rw [List.append_nil, hrs]
  | ends c' now forwards pending books deals tells =>
    have hid : c'.id = c.id := tells.id
    refine ⟨[c'.finish now], books, fun rec hrec => ?_, fun other hne => ?_, fun g hg => ?_,
      fun s connection r told rs hs hstarts hrs => ?_⟩
    · rw [List.mem_singleton.1 hrec, (c'.finish_of now).1, hid]
    · unfold forwardsOf
      rw [forwards, forwardsOf_others p hne]
      exact .refl _
    · rw [forwards] at hg
      exact .inl (mem_others.1 hg).1
    · refine .ended c' now ?_ ?_ (hs.tells tells)
      · unfold forwardsOf
        rw [forwards, forwardsOf_self]
      · rw [recordsOf_append, hrs, ← hid, recordsOf_finish]
        rfl

theorem told_concat (H : List Moment) (m : Moment) (id : Nat) :
    told (H ++ [m]) id = told H id ++ toldAt m id := by
  unfold told
  rw [List.flatMap_append, List.flatMap_singleton]

theorem subject?_of_requestId? {m : Moment} (hm : requestId? m = some id) :
    subject? m = some id := by
  obtain ⟨connection, r, heq, rfl⟩ := exists_of_requestId? hm
  rw [heq]
  rfl

theorem Logged.extend (hl : Logged H rs p) {m : Moment} {added : List Access.Record}
    (ho : p.Only m id added q) (hknown : ∃ m' ∈ H ++ [m], requestId? m' = some id)
    (hstands : ∀ s connection r, (s, .event (.request connection r)) ∈ H ++ [m] → s.nextId = id →
      s.Stands connection r (told (H ++ [m]) id) (q.forwardsOf id) (recordsOf (rs ++ added) id)) :
    Logged (H ++ [m]) (rs ++ added) q := by
  have hsame (other : Nat) (hne : other ≠ id) : told (H ++ [m]) other = told H other := by
    have hnone : toldAt m other = [] := by
      refine if_neg fun heq => hne ?_
      rw [ho.subject] at heq
      exact (Option.some.inj heq).symm
    rw [told_concat, hnone, List.append_nil]
  refine ⟨?_, ?_, fun s connection r hmem => ?_, fun f hf => ?_, fun rec hrec => ?_,
    fun other ho' => ?_⟩
  · rw [ho.log, hl.log, ho.keepsLog]
    split <;> rfl
  · rw [ho.finished, hl.finished, List.foldl_append]
  · by_cases heq : s.nextId = id
    · exact ⟨heq ▸ ho.given, heq ▸ hstands s connection r hmem heq⟩
    · have hold : (s, .event (.request connection r)) ∈ H := by
        rcases List.mem_append.1 hmem with hmem | hmem
        · exact hmem
        · have hsubject : subject? (s, .event (.request connection r)) = some s.nextId :=
            subject?_of_requestId? rfl
          rw [List.mem_singleton.1 hmem, ho.subject] at hsubject
          exact absurd (Option.some.inj hsubject).symm heq
      obtain ⟨hlt, hstill⟩ := hl.requests s connection r hold
      refine ⟨Nat.lt_of_lt_of_le hlt ho.next, ?_⟩
      rw [hsame _ heq, recordsOf_append, recordsOf_nil_of_ne ho.records heq, List.append_nil]
      exact hstill.perm (ho.others _ heq)
  · rcases ho.forwards f hf with hold | hnew
    · obtain ⟨m', hm', hr⟩ := hl.forwards f hold
      exact ⟨m', List.mem_append_left _ hm', hr⟩
    · rw [hnew]
      exact hknown
  · rcases List.mem_append.1 hrec with hrec | hrec
    · obtain ⟨m', hm', hr⟩ := hl.records rec hrec
      exact ⟨m', List.mem_append_left _ hm', hr⟩
    · rw [ho.records rec hrec]
      exact hknown
  · rw [hsame other (Nat.ne_of_gt (Nat.lt_of_lt_of_le ho.given ho'))]
    exact hl.silent other (Nat.le_trans ho.next ho')

theorem Logged.forward (hl : Logged H rs p) {f : Forward} (hf : f ∈ p.forwards)
    (hmem : (s, .event (.request connection r)) ∈ H) (hid : s.nextId = f.context.id) :
    s.Concerns connection r (told H f.context.id) f.context ∧
      s.startsTo? connection r = some f.endpoint ∧ recordsOf rs f.context.id = [] := by
  have hof : f ∈ p.forwardsOf s.nextId := List.mem_filter.2 ⟨hf, by simp [hid]⟩
  cases (hl.requests s connection r hmem).2 with
  | underWay g forwards records starts concerns =>
    rw [forwards] at hof
    have heq : f = g := List.mem_singleton.1 hof
    subst heq
    rw [hid] at records concerns
    exact ⟨concerns, starts, records⟩
  | ended c now forwards records concerns =>
    rw [forwards] at hof
    cases hof

theorem Logged.quiet (hl : Logged H rs p) (hq : p.Quiet q) {m : Moment}
    (htold : ∀ id, toldAt m id = []) (hm : requestId? m = none) : Logged (H ++ [m]) rs q := by
  have hsame (id : Nat) : told (H ++ [m]) id = told H id := by
    rw [told_concat, htold, List.append_nil]
  have hforwards (id : Nat) : q.forwardsOf id = p.forwardsOf id := by
    unfold forwardsOf
    rw [hq.forwards]
  refine ⟨?_, ?_, fun s connection r hmem => ?_, fun f hf => ?_, fun rec hrec => ?_,
    fun id hid => ?_⟩
  · rw [hq.books.log, hl.log, hq.books.keepsLog, ite_self, List.append_nil]
  · exact hq.books.finished.trans hl.finished
  · have hold : (s, .event (.request connection r)) ∈ H := by
      rcases List.mem_append.1 hmem with hmem | hmem
      · exact hmem
      · rw [← List.mem_singleton.1 hmem] at hm
        cases hm
    rw [hsame, hforwards, hq.books.nextId]
    exact hl.requests s connection r hold
  · obtain ⟨m', hm', hr⟩ := hl.forwards f (hq.forwards ▸ hf)
    exact ⟨m', List.mem_append_left _ hm', hr⟩
  · obtain ⟨m', hm', hr⟩ := hl.records rec hrec
    exact ⟨m', List.mem_append_left _ hm', hr⟩
  · rw [hsame]
    exact hl.silent id (hq.books.nextId ▸ hid)

theorem Logged.turn (hl : Logged H rs p) {f : Forward} (hf : f ∈ p.forwards)
    (hgiven : f.context.id < p.nextId) {m : Moment} (hsubject : subject? m = some f.context.id)
    (hm : requestId? m = none) (ho : (m.1.change m.2).1 = o)
    (ht : p.Turn f.context f.endpoint h o q) : ∃ added, Logged (H ++ [m]) (rs ++ added) q := by
  obtain ⟨added, hadds, hrecords, hothers, hforwards, hstands⟩ := ht.stands
  obtain ⟨m', hm', hr⟩ := hl.forwards f hf
  have hnext : q.nextId = p.nextId := hadds.nextId
  have honly : p.Only m f.context.id added q :=
    ⟨hadds.log, hadds.finished, hadds.keepsLog, Nat.le_of_eq hnext.symm, hnext ▸ hgiven, hsubject,
      hrecords, hothers, hforwards⟩
  refine ⟨added, hl.extend honly ⟨m', List.mem_append_left _ hm', hr⟩
    fun s connection r hmem hid => ?_⟩
  have hold : (s, .event (.request connection r)) ∈ H := by
    rcases List.mem_append.1 hmem with hmem | hmem
    · exact hmem
    · rw [← List.mem_singleton.1 hmem] at hm
      cases hm
  obtain ⟨hconcerns, hstarts, hnone⟩ := hl.forward hf hold hid
  have htold : toldAt m f.context.id = o.told := by
    unfold toldAt
    rw [if_pos hsubject, ho]
  rw [told_concat, htold]
  exact hstands s connection r _ rs hconcerns hstarts hnone

theorem Logged.given (hl : Logged H rs p) {m : Moment} (hm : m ∈ H) {id : Nat}
    (hid : requestId? m = some id) : id < p.nextId := by
  obtain ⟨connection, r, heq, rfl⟩ := exists_of_requestId? hid
  exact (hl.requests m.1 connection r (heq ▸ hm)).1

theorem Logged.unknown (hl : Logged H rs p) : recordsOf rs p.nextId = [] ∧
    p.forwardsOf p.nextId = [] ∧ told H p.nextId = [] := by
  refine ⟨?_, ?_, hl.silent _ (Nat.le_refl _)⟩
  · unfold recordsOf
    rw [List.filter_eq_nil_iff]
    intro rec hrec
    obtain ⟨m, hm, hid⟩ := hl.records rec hrec
    simpa using Nat.ne_of_lt (hl.given hm hid)
  · unfold forwardsOf
    rw [List.filter_eq_nil_iff]
    intro f hf
    obtain ⟨m, hm, hid⟩ := hl.forwards f hf
    simpa using Nat.ne_of_lt (hl.given hm hid)

theorem only_answered (connection : Connection) (r : Incoming) {p' : Proxy} {c : Context}
    {now : Nat} (ha : p.Admits p')
    (hforwards : q.forwards = p'.forwards) (hbooks : p'.Adds q [c.finish now])
    (hid : c.id = p.nextId) :
    p.Only (p, .event (.request connection r)) p.nextId [c.finish now] q := by
  have hsame : q.forwards = p.forwards := hforwards.trans ha.forwards
  have hnext : q.nextId = p.nextId + 1 := hbooks.nextId.trans ha.nextId
  refine ⟨?_, ?_, hbooks.keepsLog.trans ha.keepsLog, by omega, by omega, rfl, fun rec hrec => ?_,
    fun other _ => ?_, fun f hf => .inl (hsame ▸ hf)⟩
  · rw [hbooks.log, ha.log, ha.keepsLog]
  · rw [hbooks.finished, ha.finished]
  · rw [List.mem_singleton.1 hrec, (c.finish_of now).1, hid]
  · unfold forwardsOf
    rw [hsame]

theorem only_forwarded (connection : Connection) (r : Incoming) {p' : Proxy} {e : Endpoint}
    {added : List Access.Record} (ha : p.Admits p') (hadds : (p'.begins e).Adds q added)
    (hadded : ∀ rec ∈ added, rec.requestId = p.nextId)
    (hothers : ∀ other, other ≠ p.nextId →
      (q.forwardsOf other).Perm ((p'.begins e).forwardsOf other))
    (hleft : ∀ f ∈ q.forwards, f ∈ (p'.begins e).forwards ∨ f.context.id = p.nextId) :
    p.Only (p, .event (.request connection r)) p.nextId added q := by
  have hsame : (p'.begins e).forwards = p.forwards := ha.forwards
  have hbegins (id : Nat) : (p'.begins e).forwardsOf id = p.forwardsOf id := by
    unfold forwardsOf
    rw [hsame]
  have hnext : q.nextId = p.nextId + 1 := hadds.nextId.trans ha.nextId
  refine ⟨?_, ?_, hadds.keepsLog.trans ha.keepsLog, by omega, by omega, rfl, hadded,
    fun other hne => hbegins other ▸ hothers other hne, fun f hf => hsame ▸ hleft f hf⟩
  · rw [hadds.log]
    exact congrArg₂ (fun l k => l ++ if k then added else []) ha.log ha.keepsLog
  · rw [hadds.finished]
    exact congrArg (added.foldl _) ha.finished

theorem Logged.intake (hl : Logged H rs p) (ho : (p.receive connection r).1 = o)
    (hi : p.Intake connection r o q) :
    ∃ added, Logged (H ++ [(p, .event (.request connection r))]) (rs ++ added) q := by
  let m : Moment := (p, .event (.request connection r))
  obtain ⟨hrecords, hforwards, hsilent⟩ := hl.unknown
  have hknown : ∃ m' ∈ H ++ [m], requestId? m' = some p.nextId :=
    ⟨m, List.mem_append_right _ List.mem_cons_self, rfl⟩
  have htold : told (H ++ [m]) p.nextId = o.told := by
    have hat : toldAt m p.nextId = o.told := by
      rw [← ho]
      exact if_pos rfl
    rw [told_concat, hsilent, hat]
    rfl
  -- The request of this moment is the only one with its number.
  have hthis {s : Proxy} {connection' : Connection} {r' : Incoming}
      (hmem : (s, .event (.request connection' r')) ∈ H ++ [m]) (hid : s.nextId = p.nextId) :
      s = p ∧ connection' = connection ∧ r' = r := by
    rcases List.mem_append.1 hmem with hmem | hmem
    · exact absurd hid (Nat.ne_of_lt (hl.requests s connection' r' hmem).1)
    · have heq : ((s, .event (.request connection' r')) : Moment) =
          (p, .event (.request connection r)) := List.mem_singleton.1 hmem
      cases heq
      exact ⟨rfl, rfl, rfl⟩
  cases hi with
  | answered p' c now admits forwards pending pools books id decision told fromCache served
      starts =>
    have honly := only_answered connection r admits forwards books id
    refine ⟨[c.finish now], hl.extend honly hknown fun s connection' r' hmem hid => ?_⟩
    obtain ⟨rfl, rfl, rfl⟩ := hthis hmem hid
    refine .ended c now ?_ ?_ ⟨id, decision, fromCache, told.trans htold.symm⟩
    · unfold forwardsOf at hforwards ⊢
      rw [forwards, admits.forwards]
      exact hforwards
    · rw [recordsOf_append, hrecords, ← id, recordsOf_finish]
      rfl
  | forwarded p' e admits served starts turn =>
    obtain ⟨added, hadds, hadded, hothers, hleft, hstands⟩ := turn.stands
    have honly := only_forwarded connection r admits hadds hadded hothers hleft
    refine ⟨added, hl.extend honly hknown fun s connection' r' hmem hid => ?_⟩
    obtain ⟨rfl, rfl, rfl⟩ := hthis hmem hid
    have hconcerns : Concerns s connection' r' [] (s.contextFor connection' r') :=
      ⟨rfl, rfl, by rw [served]; rfl, rfl⟩
    rw [htold]
    exact hstands s connection' r' [] rs hconcerns starts hrecords

theorem Logged.change (hp : p.Held) (hl : Logged H rs p) (c : Change) :
    ∃ added, Logged (H ++ [(p, c)]) (rs ++ added) (p.change c).2 := by
  cases hp.step c with
  | quiet quiet ledger told other =>
    refine ⟨[], ?_⟩
    rw [List.append_nil]
    refine hl.quiet quiet (fun id => ?_) ?_
    · unfold toldAt
      split
      · exact told
      · rfl
    · by_contra hsome
      obtain ⟨id, hid⟩ := Option.ne_none_iff_exists'.1 hsome
      obtain ⟨connection, r, heq, _⟩ := exists_of_requestId? hid
      exact other connection r (congrArg Prod.snd heq)
  | turn f e underWay event turn =>
    subst event
    exact hl.turn underWay (hp.fresh f underWay) rfl rfl rfl turn
  | intake connection r event intake =>
    subst event
    exact hl.intake rfl intake

theorem logged_after (hp : p.Held) (hl : Logged H rs p) (cs : List Change) :
    ∃ added, Logged (H ++ p.history cs) (rs ++ added) (p.after cs) := by
  induction cs generalizing p H rs with
  | nil =>
    refine ⟨[], ?_⟩
    rw [history, List.append_nil, List.append_nil]
    exact hl
  | cons c cs ih =>
    obtain ⟨added, hnext⟩ := hl.change hp c
    obtain ⟨more, hlast⟩ := ih (hp.change c) hnext
    refine ⟨added ++ more, ?_⟩
    rw [List.append_assoc, List.append_assoc] at hlast
    exact hlast

theorem response_of_served (hp : p.Held) {s : Http.Response}
    (hs : p.served? connection r = some s) : (p.receive connection r).1 = .response s := by
  have hfresh (f : Forward) (hf : f ∈ p.forwards) : f.context.id ≠ p.nextId :=
    Nat.ne_of_lt (hp.fresh f hf)
  cases intake_receive hfresh connection r with
  | answered p' c now admits forwards pending pools books id decision told fromCache served
      starts =>
    exact served s hs
  | forwarded p' e admits served starts turn =>
    rw [served] at hs
    cases hs

def finishedOf (p : Proxy) (action : Routing.Action) (status : Http.Status) : Nat :=
  countOf (action, status) p.finished

theorem Logged.finishedOf (hl : Logged H rs p) (action : Routing.Action) (status : Http.Status) :
    p.finishedOf action status = rs.countP fun r => r.action == action && r.status == status := by
  unfold Proxy.finishedOf
  rw [hl.finished, countOf_foldl_tally]
  exact Nat.zero_add _

theorem forward?_eq (p : Proxy) (id : Nat) : p.forward? id = (p.forwardsOf id).head? :=
  (List.head?_filter ..).symm

theorem keepsLog_after (hp : p.Held) (cs : List Change) : (p.after cs).keepsLog = p.keepsLog := by
  induction cs generalizing p with
  | nil => rfl
  | cons c cs ih =>
    have hstep : (p.change c).2.keepsLog = p.keepsLog := by
      cases hp.step c with
      | quiet quiet ledger told other => exact quiet.books.keepsLog
      | turn f e underWay event turn =>
        obtain ⟨added, hadds⟩ := turn.adds
        exact hadds.keepsLog
      | intake connection r event intake =>
        cases intake with
        | answered p' c now admits forwards pending pools books =>
          exact books.keepsLog.trans admits.keepsLog
        | forwarded p' e admits served starts turn =>
          obtain ⟨added, hadds⟩ := turn.adds
          exact hadds.keepsLog.trans admits.keepsLog
    exact (ih (hp.change c)).trans hstep

end

theorem logged_new (c : Config) (mapper : Routing.Mapper) (pages : Pages) (keepsLog : Bool)
    (nowMs : Nat) : Logged [] [] (new c mapper pages keepsLog nowMs) where
  log := by split <;> rfl
  finished := rfl
  requests _ _ _ hmem := (List.not_mem_nil hmem).elim
  forwards _ hf := (List.not_mem_nil hf).elim
  records _ hrec := (List.not_mem_nil hrec).elim
  silent _ _ := rfl

/-- Whatever happens to a proxy, requests have numbers of their own, and one whose forward is under
way has no record yet. Any other has exactly one, in the log if one is kept and in the counters in
any case: with the action decided, the status of the one response the client was told, or that of a
request given up where there was none, and marked as from the cache, with no time spent on the
backend, just if the response was built from an entry. -/
theorem record_of_request (c : Config) (mapper : Routing.Mapper) (pages : Pages) (keepsLog : Bool)
    (nowMs : Nat) (cs : List Change) :
    let start := new c mapper pages keepsLog nowMs
    let p := start.after cs
    let H := start.history cs
    (H.filterMap requestId?).Nodup ∧ ∃ rs : List Access.Record,
      p.log = (if keepsLog then rs else []) ∧
      (∀ action status, p.finishedOf action status =
        rs.countP fun r => r.action == action && r.status == status) ∧
      (∀ rec ∈ rs, ∃ m ∈ H, requestId? m = some rec.requestId) ∧
      ∀ s connection r, (s, .event (.request connection r)) ∈ H →
        (told H s.nextId).length ≤ 1 ∧
        (∀ resp, s.served? connection r = some resp →
          (s.receive connection r).1 = .response resp) ∧
        ((p.forward? s.nextId).isSome = true → recordsOf rs s.nextId = []) ∧
        (p.forward? s.nextId = none → ∃ rec, recordsOf rs s.nextId = [rec] ∧
          rec.action = (s.contextFor connection r).decision.action ∧
          rec.status = (told H s.nextId).headD Forward.clientClosedRequest ∧
          (rec.fromCache = true ↔ (s.served? connection r).isSome = true) ∧
          (rec.fromCache = true → rec.backendElapsedMs = 0)) := by
  intro start p H
  have hheld : start.Held := held_new c mapper pages keepsLog nowMs
  obtain ⟨rs, hlogged⟩ := logged_after hheld (logged_new c mapper pages keepsLog nowMs) cs
  rw [List.nil_append, List.nil_append] at hlogged
  have hkeeps : p.keepsLog = keepsLog := keepsLog_after hheld cs
  refine ⟨(nodup_requestIds hheld cs).1, rs, hkeeps ▸ hlogged.log, hlogged.finishedOf,
    hlogged.records, fun s connection r hmem => ?_⟩
  have hone {ts : List Http.Status} {x : Context} (hx : x.told = ts) : ts.length ≤ 1 := by
    rw [← hx]
    unfold Context.told
    split <;> simp
  have hserved (resp : Http.Response) (hs : s.served? connection r = some resp) :=
    response_of_served (held_of_history hheld hmem) hs
  rw [forward?_eq]
  cases (hlogged.requests s connection r hmem).2 with
  | underWay f forwards records starts concerns =>
    refine ⟨hone concerns.told, hserved, fun _ => records, fun hnone => ?_⟩
    rw [forwards] at hnone
    cases hnone
  | ended x now forwards records concerns =>
    obtain ⟨_, haction, hcache, hbackend⟩ := x.finish_of now
    refine ⟨hone concerns.told, hserved, fun hsome => ?_,
      fun _ => ⟨x.finish now, records, ?_, ?_, ?_, ?_⟩⟩
    · rw [forwards] at hsome
      cases hsome
    · rw [haction, concerns.decision]
    · rw [x.status_finish, concerns.told]
    · rw [hcache, concerns.fromCache]
    · rw [hcache]
      exact hbackend

theorem record_of_request_given_up :
    let connection : Connection := ⟨.v4 [127, 0, 0, 1] 50000, .v4 [127, 0, 0, 1] 8080, none⟩
    let r : Incoming := ⟨⟨"GET", ⟨none, none, "/page", none⟩, .http11, .empty⟩, []⟩
    let mapper : Routing.Mapper := ⟨.constant (some (.proxy "site" ⟨"10.0.0.1", 80⟩ false)), [], {}⟩
    let start := new {} mapper .empty true 0
    let cs := [Change.event (.request connection r), .event (.forward 1 .clientLeaves)]
    ∃ rec, recordsOf (start.after cs).log 1 = [rec] ∧ rec.status = 499 ∧ rec.fromCache = false := by
  intro connection r mapper start cs
  obtain ⟨_, rs, hlog, _, _, hrequests⟩ := record_of_request {} mapper .empty true 0 cs
  obtain ⟨_, _, _, hended⟩ := hrequests start connection r List.mem_cons_self
  have hgone : (start.after cs).forward? 1 = none := by decide +kernel
  have htold : told (start.history cs) 1 = [] := by decide +kernel
  obtain ⟨rec, hrec, _, hstatus, hcache, _⟩ := hended hgone
  rw [hlog]
  refine ⟨rec, hrec, hstatus.trans ?_, ?_⟩
  · change (told (start.history cs) 1).headD _ = _
    rw [htold]
    rfl
  · have hmiss : start.served? connection r = none := by rfl
    rw [hmiss] at hcache
    simpa using hcache

end Proxy
end ReverseProxy
