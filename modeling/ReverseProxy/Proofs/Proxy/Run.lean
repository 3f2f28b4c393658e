import ReverseProxy.Proofs.Proxy.Intake

set_option autoImplicit false

/-!
# Runs of the proxy

Requests come in and forwards move on while time passes, the mapper and the pools are exchanged and
the cache is worked on by others. At every moment the forwards hold just what the pools lend and who
waits, and each of them is counted as pending.
-/
namespace ReverseProxy.Proxy
open Request
open Pool (Holding)

/-- What happens to a proxy, by itself or from around it. -/
inductive Change where
  | event (e : Event)
  | mapper (m : Routing.Mapper)
  | cache (store : Cache.Store)
  | reload (configs : List Config.Pool) (endpoints : List Endpoint)
  | forgo (configs : List Config.Pool)
  | dispose (ref : Pool.PoolRef)

def change (p : Proxy) : Change → Outcome × Proxy
  | .event e => p.step e
  | .mapper mapper => (.none, { p with mapper })
  | .cache cache => (.none, { p with cache })
  | .reload configs endpoints => (.none, { p with pools := (p.pools.reload configs endpoints).2 })
  | .forgo configs =>
    (.none, { p with pools := { p.pools with registry := p.pools.registry.forgo configs } })
  | .dispose ref => (.none, { p with pools := p.pools.dispose ref })

def after (p : Proxy) (cs : List Change) : Proxy := cs.foldl (fun p c => (p.change c).2) p

/-- A change and the proxy that it happened to. -/
abbrev Moment := Proxy × Change

def history (p : Proxy) : List Change → List Moment
  | [] => []
  | c :: cs => (p, c) :: (p.change c).2.history cs

def requestId? : Moment → Option Nat
  | (p, .event (.request _ _)) => some p.nextId
  | _ => none

/-- The forwards account for the pending ones and for what the pools lend. -/
structure Held (p : Proxy) : Prop where
  ids : (p.forwards.map fun f => f.context.id).Nodup
  fresh : ∀ f ∈ p.forwards, f.context.id < p.nextId
  sound : ∀ f ∈ p.forwards, f.Sound
  pending : p.pending = p.forwards.length
  ledger : p.pools.Ledger (p.forwards.map Forward.holding)

structure Room (p : Proxy) (id : Nat) (h : Holding) : Prop where
  ids : ((p.others id).map fun f => f.context.id).Nodup
  fresh : ∀ f ∈ p.others id, f.context.id < p.nextId
  given : id < p.nextId
  sound : ∀ f ∈ p.others id, f.Sound
  pending : p.pending = (p.others id).length + 1
  ledger : p.pools.Ledger (h :: (p.others id).map Forward.holding)

inductive Step (p : Proxy) (c : Change) (o : Outcome) (q : Proxy) : Prop where
  | quiet (quiet : p.Quiet q) (ledger : ∀ hs, p.pools.Ledger hs → q.pools.Ledger hs)
      (told : o.told = []) (other : ∀ connection r, c ≠ .event (.request connection r))
  | turn (f : Forward) (e : Forward.Event) (underWay : f ∈ p.forwards)
      (event : c = .event (.forward f.context.id e))
      (turn : p.Turn f.context f.endpoint f.holding o q)
  | intake (connection : Connection) (r : Incoming) (event : c = .event (.request connection r))
      (intake : p.Intake connection r o q)

section
variable {p p' q : Proxy} {f : Forward} {c : Context} {e : Endpoint} {h : Holding} {o : Outcome}

theorem after_append (p : Proxy) (cs ds : List Change) :
    p.after (cs ++ ds) = (p.after cs).after ds := List.foldl_append

theorem history_append (p : Proxy) (cs ds : List Change) :
    p.history (cs ++ ds) = p.history cs ++ (p.after cs).history ds := by
  induction cs generalizing p with
  | nil => rfl
  | cons c cs ih => exact congrArg ((p, c) :: ·) (ih (p.change c).2)

theorem snd_mem_of_history {cs : List Change} {m : Moment} (hm : m ∈ p.history cs) : m.2 ∈ cs := by
  induction cs generalizing p with
  | nil => exact (List.not_mem_nil hm).elim
  | cons c cs ih =>
    rcases List.mem_cons.1 hm with rfl | hm
    · exact List.mem_cons_self
    · exact List.mem_cons_of_mem _ (ih hm)

theorem eq_after_of_history {cs : List Change} {m : Moment} (hm : m ∈ p.history cs) :
    ∃ before since, cs = before ++ m.2 :: since ∧ m.1 = p.after before := by
  induction cs generalizing p with
  | nil => exact (List.not_mem_nil hm).elim
  | cons c cs ih =>
    rcases List.mem_cons.1 hm with rfl | hm
    · exact ⟨[], cs, rfl, rfl⟩
    · obtain ⟨before, since, rfl, hbefore⟩ := ih hm
      exact ⟨c :: before, since, rfl, hbefore⟩

theorem mem_others {id : Nat} : f ∈ p.others id ↔ f ∈ p.forwards ∧ f.context.id ≠ id := by
  unfold others
  rw [List.mem_filter, bne_iff_ne]

theorem Held.split (hp : p.Held) (hf : f ∈ p.forwards) :
    p.forwards.Perm (f :: p.others f.context.id) :=
  Keyed.perm_cons_filter (fun f : Forward => f.context.id) hp.ids hf

theorem Held.room (hp : p.Held) (hf : f ∈ p.forwards) : p.Room f.context.id f.holding where
  ids := hp.ids.sublist (List.filter_sublist.map _)
  fresh g hg := hp.fresh g (mem_others.1 hg).1
  given := hp.fresh f hf
  sound g hg := hp.sound g (mem_others.1 hg).1
  pending := hp.pending.trans (hp.split hf).length_eq
  ledger := hp.ledger.perm ((hp.split hf).map Forward.holding)

theorem Held.others_fresh (hp : p.Held) : p.others p.nextId = p.forwards := by
  refine Keyed.filter_of_notMem (fun f : Forward => f.context.id) fun hmem => ?_
  obtain ⟨f, hf, heq⟩ := List.mem_map.1 hmem
  exact Nat.ne_of_lt (hp.fresh f hf) heq

theorem Held.room_begins (hp : p.Held) (ha : p.Admits p') (e : Endpoint) :
    (p'.begins e).Room p.nextId .nothing := by
  have hothers : (p'.begins e).others p.nextId = p.forwards := by
    change p'.forwards.filter _ = _
    rw [ha.forwards]
    exact hp.others_fresh
  have hnext : (p'.begins e).nextId = p.nextId + 1 := ha.nextId
  refine ⟨?_, fun f hf => ?_, ?_, fun f hf => ?_, ?_, ?_⟩
  · rw [hothers]
    exact hp.ids
  · rw [hothers] at hf
    rw [hnext]
    exact Nat.lt_succ_of_lt (hp.fresh f hf)
  · rw [hnext]
    exact Nat.lt_succ_self _
  · rw [hothers] at hf
    exact hp.sound f hf
  · rw [hothers, ← hp.pending, ← ha.pending]
    rfl
  · rw [hothers]
    change p'.pools.Ledger _
    rw [ha.pools]
    exact hp.ledger.nothing

theorem Room.turn (hr : p.Room c.id h) (ht : p.Turn c e h o q) : q.Held := by
  cases ht with
  | goesOn f forwards pending books deals tells endpoint sound =>
    have hnew : ∀ g, g ∈ q.forwards → g = f ∨ g ∈ p.others c.id := fun g hg =>
      List.mem_cons.1 (forwards.subset hg)
    refine ⟨?_, fun g hg => ?_, fun g hg => ?_, ?_, ?_⟩
    · rw [(forwards.map fun f => f.context.id).nodup_iff, List.map_cons, List.nodup_cons, tells.id]
      refine ⟨fun hmem => ?_, hr.ids⟩
      obtain ⟨g, hg, heq⟩ := List.mem_map.1 hmem
      exact (mem_others.1 hg).2 heq
    · rw [books.nextId]
      rcases hnew g hg with rfl | hg
      · rw [tells.id]
        exact hr.given
      · exact hr.fresh g hg
    · rcases hnew g hg with rfl | hg
      · exact sound
      · exact hr.sound g hg
    · rw [pending, hr.pending, forwards.length_eq]
      rfl
    · exact (deals _ hr.ledger).perm (forwards.map Forward.holding).symm
  | ends c' now forwards pending books deals tells =>
    refine ⟨?_, fun g hg => ?_, fun g hg => ?_, ?_, ?_⟩
    · rw [forwards]
      exact hr.ids
    · rw [forwards] at hg
      rw [books.nextId]
      exact hr.fresh g hg
    · rw [forwards] at hg
      exact hr.sound g hg
    · rw [pending, hr.pending, forwards]
      rfl
    · rw [forwards]
      exact (deals _ hr.ledger).of_nothing

theorem Held.quiet (hp : p.Held) (hq : p.Quiet q)
    (hl : q.pools.Ledger (p.forwards.map Forward.holding)) : q.Held where
  ids := hq.forwards ▸ hp.ids
  fresh f hf := by
    rw [hq.books.nextId]
    exact hp.fresh f (hq.forwards ▸ hf)
  sound f hf := hp.sound f (hq.forwards ▸ hf)
  pending := by rw [hq.pending, hp.pending, hq.forwards]
  ledger := hq.forwards ▸ hl

theorem change_forward (p : Proxy) (id : Nat) (e : Forward.Event) :
    p.change (.event (.forward id e)) =
      match p.forward? id with
      | some f => p.onForward f e
      | none => (.none, p) := rfl

theorem Held.step (hp : p.Held) (c : Change) : p.Step c (p.change c).1 (p.change c).2 := by
  have hpools (pools : Pool.Schedule) (hl : ∀ hs, p.pools.Ledger hs → pools.Ledger hs)
      (hc : ∀ connection r, c ≠ .event (.request connection r)) :
      p.Step c .none { p with pools } := .quiet (quiet_pools p pools) hl rfl hc
  have hsame (q : Proxy) (hq : p.Quiet q) (hpools : q.pools = p.pools)
      (hc : ∀ connection r, c ≠ .event (.request connection r)) : p.Step c .none q :=
    .quiet hq (fun hs hl => hpools ▸ hl) rfl hc
  cases c with
  | event e =>
    cases e with
    | request connection r =>
      exact .intake connection r rfl
        (intake_receive (fun f hf => Nat.ne_of_lt (hp.fresh f hf)) connection r)
    | forward id e =>
      rw [change_forward]
      cases hf : p.forward? id with
      | none => exact hsame p (quiet_refl p) rfl (by simp)
      | some f =>
        obtain ⟨hmem, rfl⟩ :=
          (Keyed.find?_eq_some_iff (fun f : Forward => f.context.id) hp.ids).1 hf
        exact .turn f e hmem rfl (turn_onForward hp.ids hmem (hp.sound f hmem) e)
    | timePasses ms => exact hpools _ (fun hs hl => hl.advance ms) (by simp)
    | clockSet nowMs => exact hsame _ ⟨rfl, rfl, adds_of_eq rfl rfl rfl rfl rfl⟩ rfl (by simp)
    | sweep => exact hsame _ ⟨rfl, rfl, adds_of_eq rfl rfl rfl rfl rfl⟩ rfl (by simp)
  | mapper m => exact hsame _ ⟨rfl, rfl, adds_of_eq rfl rfl rfl rfl rfl⟩ rfl (by simp)
  | cache store => exact hsame _ ⟨rfl, rfl, adds_of_eq rfl rfl rfl rfl rfl⟩ rfl (by simp)
  | reload configs endpoints =>
    exact hpools _ (fun hs hl => hl.reload configs endpoints) (by simp)
  | forgo configs =>
    exact hpools _ (fun hs hl => hl.registry (hl.backs.forgo configs)) (by simp)
  | dispose ref => exact hpools _ (fun hs hl => hl.dispose ref) (by simp)

theorem Held.intake {connection : Connection} {r : Incoming} (hp : p.Held)
    (hi : p.Intake connection r o q) : q.Held := by
  cases hi with
  | answered p' c now admits forwards pending pools books id decision told fromCache served
      starts =>
    have hforwards : q.forwards = p.forwards := forwards.trans admits.forwards
    have hnext : q.nextId = p.nextId + 1 := books.nextId.trans admits.nextId
    refine ⟨hforwards ▸ hp.ids, fun f hf => ?_, fun f hf => hp.sound f (hforwards ▸ hf), ?_, ?_⟩
    · rw [hnext]
      exact Nat.lt_succ_of_lt (hp.fresh f (hforwards ▸ hf))
    · rw [pending, admits.pending, hp.pending, hforwards]
    · rw [pools, admits.pools, hforwards]
      exact hp.ledger
  | forwarded p' e admits served starts turn => exact (hp.room_begins admits e).turn turn

theorem Held.change (hp : p.Held) (c : Change) : (p.change c).2.Held := by
  cases hp.step c with
  | quiet quiet ledger told other => exact hp.quiet quiet (ledger _ hp.ledger)
  | turn f e underWay event turn => exact (hp.room underWay).turn turn
  | intake connection r event intake => exact hp.intake intake

theorem Held.after (hp : p.Held) (cs : List Change) : (p.after cs).Held := by
  induction cs generalizing p with
  | nil => exact hp
  | cons c cs ih => exact ih (hp.change c)

theorem held_of_history (hp : p.Held) {cs : List Change} {m : Moment} (hm : m ∈ p.history cs) :
    m.1.Held := by
  induction cs generalizing p with
  | nil => exact (List.not_mem_nil hm).elim
  | cons c cs ih =>
    rcases List.mem_cons.1 hm with rfl | hm
    · exact hp
    · exact ih (hp.change c) hm

theorem requestId?_of_other {c : Change}
    (other : ∀ connection r, c ≠ .event (.request connection r)) : requestId? (p, c) = none := by
  unfold requestId?
  split
  · next heq =>
    cases heq
    exact absurd rfl (other _ _)
  · rfl

theorem Held.nextId (hp : p.Held) (c : Change) :
    (p.change c).2.nextId = p.nextId + if (requestId? (p, c)).isSome then 1 else 0 := by
  have hplain {q : Proxy} (hq : q.nextId = p.nextId) (hc : requestId? (p, c) = none) :
      q.nextId = p.nextId + if (requestId? (p, c)).isSome then 1 else 0 := by
    rw [hq, hc]
    rfl
  cases hp.step c with
  | quiet quiet ledger told other =>
    exact hplain quiet.books.nextId (requestId?_of_other other)
  | turn f e underWay event turn =>
    subst event
    obtain ⟨added, hadds⟩ := turn.adds
    exact hplain hadds.nextId rfl
  | intake connection r event intake =>
    subst event
    cases intake with
    | answered p' c now admits forwards pending pools books =>
      exact books.nextId.trans admits.nextId
    | forwarded p' e admits served starts turn =>
      obtain ⟨added, hadds⟩ := turn.adds
      exact hadds.nextId.trans admits.nextId

theorem nodup_requestIds (hp : p.Held) (cs : List Change) :
    ((p.history cs).filterMap requestId?).Nodup ∧
      ∀ id ∈ (p.history cs).filterMap requestId?, p.nextId ≤ id := by
  induction cs generalizing p with
  | nil => exact ⟨List.nodup_nil, fun id hid => (List.not_mem_nil hid).elim⟩
  | cons c cs ih =>
    obtain ⟨hd, hle⟩ := ih (hp.change c)
    have hnext := hp.nextId c
    change (List.filterMap requestId? ((p, c) :: (p.change c).2.history cs)).Nodup ∧
      ∀ id ∈ List.filterMap requestId? ((p, c) :: (p.change c).2.history cs), p.nextId ≤ id
    cases hid : requestId? (p, c) with
    | none =>
      rw [hid] at hnext
      rw [List.filterMap_cons_none hid]
      have hsame : (p.change c).2.nextId = p.nextId := hnext
      exact ⟨hd, fun id hmem => hsame ▸ hle id hmem⟩
    | some id =>
      have heq : p.nextId = id := by
        unfold requestId? at hid
        split at hid
        · next hm =>
          cases hm
          exact Option.some.inj hid
        · cases hid
      rw [hid] at hnext
      have hlater : ∀ other ∈ ((p.change c).2.history cs).filterMap requestId?, id < other := by
        intro other hmem
        have hge := hle other hmem
        rw [hnext, heq] at hge
        exact hge
      rw [List.filterMap_cons_some hid, List.nodup_cons]
      refine ⟨⟨fun hmem => Nat.lt_irrefl _ (hlater id hmem), hd⟩, fun other hmem => ?_⟩
      rcases List.mem_cons.1 hmem with rfl | hmem
      · exact Nat.le_of_eq heq
      · exact heq ▸ Nat.le_of_lt (hlater other hmem)

end

theorem held_new (c : Config) (mapper : Routing.Mapper) (pages : Pages) (keepsLog : Bool)
    (nowMs : Nat) : (new c mapper pages keepsLog nowMs).Held where
  ids := List.nodup_nil
  fresh _ hf := (List.not_mem_nil hf).elim
  sound _ hf := (List.not_mem_nil hf).elim
  pending := rfl
  ledger := Pool.Schedule.ledger_start c.pools (Routing.configuredEndpoints c)

end ReverseProxy.Proxy
