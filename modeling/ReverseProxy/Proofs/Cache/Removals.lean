import Mathlib.Data.List.Range
import ReverseProxy.Proofs.Cache.Steps

set_option autoImplicit false

/-!
# Removals that come late

Between the look at an entry and its removal, other operations may remove it or put another one
under its key. A removal is tied to the serial number of the entry it was decided for, and serial
numbers are not used twice: whatever operations come in between, every entry ever put in is in
exactly one place. It is live, or some operation has taken it out and owes what it was charged with,
or that was given back.
-/
namespace ReverseProxy.Cache
open Http.Date (Instant)

/-- What tells an entry apart from every other. -/
def Live.name (l : Live) : Key × Nat := (l.key, l.serial)

namespace Action

def owes? : Action → Option Live
  | .release l => some l
  | _ => none

def decides : Action → List Live
  | .take l _ => [l]
  | .evict ls => ls
  | _ => []

end Action

namespace Thread

def owed (u : Thread) : List Live := u.todo.filterMap Action.owes?

def decided (u : Thread) : List Live := u.todo.flatMap Action.decides

end Thread

def Shared.owed (s : Shared) : List Live := s.threads.flatMap Thread.owed

namespace Store
variable {s : Store}

theorem find?_perm (hd : s.Distinct) (key : Key) :
    s.live.Perm ((s.find? key).toList ++ s.live.filter (·.key != key)) := by
  cases hf : s.find? key with
  | none =>
    have hkeys : key ∉ s.live.map Live.key := Keyed.find?_eq_none_iff.1 hf
    rw [Keyed.filter_of_notMem Live.key hkeys]
    exact List.Perm.refl _
  | some old =>
    obtain ⟨hold, rfl⟩ := (find?_eq_some_iff hd).1 hf
    exact Keyed.perm_cons_filter Live.key hd hold

theorem insert_perm (hd : s.Distinct) (key : Key) (e : Entry) :
    (⟨key, s.nextSerial, e⟩ :: s.live).Perm ((s.find? key).toList ++ (s.insert key e).live) := by
  have hlast := List.perm_append_singleton (⟨key, s.nextSerial, e⟩ : Live)
    ((s.find? key).toList ++ s.live.filter (·.key != key))
  rw [List.append_assoc] at hlast
  exact ((find?_perm hd key).cons _).trans hlast.symm

end Store

/-- The counters are those of the live entries and of those that are owed. Every entry ever put in
is live, owed or given back, and only one of these. -/
structure Store.Charged (s : Store) (owed given : List Live) : Prop where
  distinct : s.Distinct
  counted : s.stats.Matches (s.live ++ owed)
  serials : ((s.live ++ owed ++ given).map Live.serial).Perm (List.range s.nextSerial)

namespace Store.Charged
variable {s : Store} {owed owed' given : List Live}

theorem perm (h : s.Charged owed given) (p : owed.Perm owed') : s.Charged owed' given where
  distinct := h.distinct
  counted := h.counted.perm (p.append_left s.live)
  serials := (((p.append_left s.live).append_right given).map Live.serial).symm.trans h.serials

theorem serial_lt (h : s.Charged owed given) {l : Live} (hl : l ∈ s.live ++ owed ++ given) :
    l.serial < s.nextSerial :=
  List.mem_range.1 (h.serials.subset (List.mem_map_of_mem hl))

theorem live_lt (h : s.Charged owed given) {l : Live} (hl : l ∈ s.live) :
    l.serial < s.nextSerial :=
  h.serial_lt (List.mem_append_left given (List.mem_append_left owed hl))

theorem congr (h : s.Charged owed given) {t : Store} (hlive : t.live = s.live)
    (hnext : t.nextSerial = s.nextSerial) (hentries : t.stats.entries = s.stats.entries)
    (hheap : t.stats.heapBytes = s.stats.heapBytes)
    (hdirect : t.stats.directBytes = s.stats.directBytes) : t.Charged owed given where
  distinct := by
    rw [Distinct, hlive]
    exact h.distinct
  counted := by
    rw [hlive]
    exact ⟨hentries.trans h.counted.entries, hheap.trans h.counted.heap,
      hdirect.trans h.counted.direct⟩
  serials := by
    rw [hlive, hnext]
    exact h.serials

theorem touch (h : s.Charged owed given) (key : Key) (serial : Nat) (now : Instant) :
    (s.touch key serial now).Charged owed given where
  distinct := h.distinct.touch key serial now
  counted := by
    refine h.counted.congr ?_ ?_ <;>
      rw [List.map_append, List.map_append, touch_map fun _ _ => rfl]
  serials := by
    rw [List.map_append, List.map_append, touch_map (fun _ _ => rfl), ← List.map_append,
      ← List.map_append]
    exact h.serials

theorem take (h : s.Charged owed given) {l : Live} (hl : l ∈ s.live) :
    { s with live := s.live.filter (·.key != l.key) }.Charged (l :: owed) given := by
  have hparts := Keyed.perm_cons_filter Live.key h.distinct hl
  have hmoved : (s.live ++ owed).Perm (s.live.filter (·.key != l.key) ++ l :: owed) :=
    (hparts.append_right owed).trans List.perm_middle.symm
  exact ⟨h.distinct.drop l, h.counted.perm hmoved,
    ((hmoved.append_right given).map Live.serial).symm.trans h.serials⟩

theorem release {l : Live} (h : s.Charged (l :: owed) given) :
    s.stats.release? l.entry = some (s.stats.release l.entry) ∧
      { s with stats := s.stats.release l.entry }.Charged owed (given ++ [l]) := by
  have hfirst : (s.live ++ l :: owed).Perm (l :: (s.live ++ owed)) := List.perm_middle
  have hcounted := h.counted.perm hfirst
  have hlast : (s.live ++ owed ++ (given ++ [l])).Perm (s.live ++ l :: owed ++ given) := by
    rw [← List.append_assoc]
    exact (List.perm_append_singleton l _).trans (hfirst.symm.append_right given)
  exact ⟨hcounted.covers.release?, h.distinct, hcounted.release,
    (hlast.map Live.serial).trans h.serials⟩

theorem put (h : s.Charged owed given) (key : Key) (e : Entry) :
    s.insert? key e = some (s.insert key e) ∧
      (s.insert key e).Charged owed (given ++ (s.find? key).toList) := by
  have hparts := insert_perm h.distinct key e
  -- The new entry is charged first, so the counters hold both when the old one is given back.
  have hcharged := (h.counted.charge ⟨key, s.nextSerial, e⟩).perm (hparts.append_right owed)
  have hserials := (hparts.append_right (owed ++ given)).map Live.serial
  have hnext : ((⟨key, s.nextSerial, e⟩ :: s.live ++ (owed ++ given)).map Live.serial).Perm
      (List.range (s.nextSerial + 1)) := by
    rw [List.range_succ, List.cons_append, ← List.append_assoc]
    exact (h.serials.cons s.nextSerial).trans (List.perm_append_singleton _ _).symm
  have hback : ((s.insert key e).live ++ owed ++ (given ++ (s.find? key).toList)).Perm
      ((s.find? key).toList ++ (s.insert key e).live ++ (owed ++ given)) := by
    have hmoved : ((s.insert key e).live ++ owed ++ given ++ (s.find? key).toList).Perm
        ((s.find? key).toList ++ ((s.insert key e).live ++ owed ++ given)) :=
      List.perm_append_comm
    simpa only [List.append_assoc] using hmoved
  refine ⟨?_, h.distinct.insert key e, ?_, (hback.map _).trans (hserials.symm.trans hnext)⟩
  · simp only [insert?, insert]
    cases hf : s.find? key with
    | none => rfl
    | some old =>
      rw [hf] at hcharged
      simp only [hcharged.covers.release?, Option.map_some]
  · simp only [insert] at hcharged ⊢
    cases hf : s.find? key with
    | none =>
      rw [hf] at hcharged
      exact hcharged
    | some old =>
      rw [hf] at hcharged
      exact hcharged.release

end Store.Charged

structure Effect.Kept (e : Effect) (s : Store) (a : Action) (owed given : List Live) : Prop where
  charged : e.store.Charged (e.next.filterMap Action.owes? ++ owed) (given ++ a.gives s)
  policy : e.store.policy = s.policy
  serials : s.nextSerial ≤ e.store.nextSerial
  decided : ∀ l ∈ e.next.flatMap Action.decides, l ∈ s.live ∨ l ∈ a.decides
  entries : ∀ l ∈ e.store.live, s.nextSerial ≤ l.serial ∨ l.name ∈ s.live.map Live.name

namespace Effect.Kept
variable {s t : Store} {r : Store.SweepReport} {a : Action} {next : List Action}
  {owed given : List Live}

-- Most actions take nothing out and put nothing in.
theorem look (h : t.Charged owed given) (hnames : t.live.map Live.name = s.live.map Live.name)
    (hnext : t.nextSerial = s.nextSerial) (hpolicy : t.policy = s.policy) (hgives : a.gives s = [])
    (howes : next.filterMap Action.owes? = [])
    (hdecides : ∀ l ∈ next.flatMap Action.decides, l ∈ s.live ∨ l ∈ a.decides) :
    (Effect.mk t r next).Kept s a owed given where
  charged := by
    rw [howes, hgives, List.append_nil]
    exact h
  policy := hpolicy
  serials := hnext.ge
  decided := hdecides
  entries l hl := .inr (hnames ▸ List.mem_map_of_mem hl)

theorem find (h : s.Charged owed given) (key : Key) (now : Instant) :
    ∃ e, (Action.find key now).perform? s r = some e ∧ e.Kept s (.find key now) owed given := by
  refine ⟨_, rfl, look h rfl rfl rfl rfl ?_ ?_⟩
  · cases s.find? key with
    | none => rfl
    | some l => cases hx : l.entry.isExpired now <;> simp [hx, Action.owes?]
  · cases hf : s.find? key with
    | none => simp [Action.decides]
    | some l =>
      have hl := ((Store.find?_eq_some_iff h.distinct).1 hf).1
      cases hx : l.entry.isExpired now <;> simp [hx, Action.decides, hl]

theorem take (h : s.Charged owed given) (l : Live) (cause : Cause) :
    ∃ e, (Action.take l cause).perform? s r = some e ∧ e.Kept s (.take l cause) owed given := by
  cases hf : s.live.find? (Store.isEntry l.key l.serial) with
  | none =>
    exact ⟨_, Action.perform?_take_of_none hf cause, look h rfl rfl rfl rfl rfl (by simp)⟩
  | some found =>
    have hfound : found ∈ s.live := List.mem_of_find?_eq_some hf
    have hname := List.find?_some hf
    simp only [Store.isEntry, Bool.and_eq_true, beq_iff_eq] at hname
    have hlive : (s.live.filter fun a => !Store.isEntry l.key l.serial a) =
        s.live.filter (·.key != found.key) := by
      have hdrop := congrArg (·.2.live) (Store.removeExact_of_mem h.distinct hfound)
      rw [hname.1, hname.2] at hdrop
      simpa only [Store.removeExact, hf, Store.drop, hname.1] using hdrop
    refine ⟨_, Action.perform?_take_of_some hf cause, ?_, rfl, Nat.le_refl _, ?_, ?_⟩
    · have howes : (Action.release found :: if cause = .lookup then [.publish] else []).filterMap
          Action.owes? = [found] := by
        cases cause <;> rfl
      have htaken := h.take hfound
      rw [← hlive] at htaken
      have hgives : (Action.take l cause).gives s = [] := rfl
      rw [howes, hgives, List.append_nil]
      exact htaken
    · cases cause <;> simp [Action.decides]
    · exact fun m hm => .inr (List.mem_map_of_mem (List.mem_of_mem_filter hm))

theorem release {l : Live} (h : s.Charged (l :: owed) given) :
    ∃ e, (Action.release l).perform? s r = some e ∧ e.Kept s (.release l) owed given := by
  obtain ⟨hrelease, hcharged⟩ := h.release
  refine ⟨⟨{ s with stats := s.stats.release l.entry }, r, []⟩, ?_, hcharged, rfl,
    Nat.le_refl _, by simp, fun m hm => .inr (List.mem_map_of_mem hm)⟩
  simp only [Action.perform?, hrelease, Option.map_some]

theorem put (h : s.Charged owed given) (key : Key) (e : Entry) :
    ∃ f, (Action.put key e).perform? s r = some f ∧ f.Kept s (.put key e) owed given := by
  obtain ⟨hinsert, hcharged⟩ := h.put key e
  refine ⟨⟨s.insert key e, r, [.publish, .ask]⟩, ?_, hcharged, rfl, Nat.le_succ _,
    by simp [Action.decides], fun m hm => ?_⟩
  · simp only [Action.perform?, hinsert, Option.map_some]
  · rcases List.mem_append.1 hm with hm | hm
    · exact .inr (List.mem_map_of_mem (List.mem_of_mem_filter hm))
    · rw [List.mem_singleton.1 hm]
      exact .inl (Nat.le_refl _)

theorem pickExpired (h : s.Charged owed given) (now : Instant) :
    ∃ e, (Action.pickExpired now).perform? s r = some e ∧
      e.Kept s (.pickExpired now) owed given := by
  refine ⟨_, rfl, look h rfl rfl rfl rfl ?_ fun l hl => ?_⟩
  · simp [Action.owes?]
  · obtain ⟨a, ha, hla⟩ := List.mem_flatMap.1 hl
    obtain ⟨m, hm, rfl⟩ := List.mem_map.1 ha
    rw [List.mem_singleton.1 hla]
    exact .inl (List.mem_of_mem_filter hm)

theorem evict (h : s.Charged owed given) (ls : List Live) :
    ∃ e, (Action.evict ls).perform? s r = some e ∧ e.Kept s (.evict ls) owed given := by
  cases ls with
  | nil => exact ⟨_, rfl, look h rfl rfl rfl rfl rfl (by simp)⟩
  | cons l ls =>
    refine ⟨_, rfl, look h rfl rfl rfl rfl ?_ ?_⟩
    · cases s.overBudget <;> simp [Action.owes?]
    · cases s.overBudget <;> simp +contextual [Action.decides]

theorem tally (h : s.Charged owed given) :
    ∃ e, Action.tally.perform? s r = some e ∧ e.Kept s .tally owed given := by
  refine ⟨_, rfl, ?_⟩
  split
  · exact look (h.congr rfl rfl rfl rfl rfl) rfl rfl rfl rfl rfl (by simp [Action.decides])
  · exact look h rfl rfl rfl rfl rfl (by simp)

end Effect.Kept

/-- Where nothing is owed but `owed` and what it is to give back itself, an action happens: no
counter stands in its way. -/
theorem Store.Charged.perform {s : Store} {a : Action} {owed given : List Live}
    (h : s.Charged (a.owes?.toList ++ owed) given) (r : SweepReport) :
    ∃ e, a.perform? s r = some e ∧ e.Kept s a owed given := by
  cases a with
  | find key now => exact Effect.Kept.find h key now
  | touch l now =>
    exact ⟨_, rfl, .look (h.touch l.key l.serial now)
      (touch_map (fun _ _ => rfl) s l.key l.serial now) rfl rfl rfl rfl (by simp)⟩
  | take l cause => exact Effect.Kept.take h l cause
  | release l => exact Effect.Kept.release h
  | publish => exact ⟨_, rfl, .look (h.congr rfl rfl rfl rfl rfl) rfl rfl rfl rfl rfl (by simp)⟩
  | count hit =>
    refine ⟨_, rfl, ?_⟩
    cases hit <;> exact .look (h.congr rfl rfl rfl rfl rfl) rfl rfl rfl rfl rfl (by simp)
  | put key e => exact Effect.Kept.put h key e
  | ask =>
    refine ⟨_, rfl, .look h rfl rfl rfl rfl ?_ ?_⟩ <;> cases s.overBudget <;>
      simp [Action.owes?, Action.decides]
  | notify => exact ⟨_, rfl, .look (h.congr rfl rfl rfl rfl rfl) rfl rfl rfl rfl rfl (by simp)⟩
  | pickExpired now => exact Effect.Kept.pickExpired h now
  | weigh now =>
    refine ⟨_, rfl, .look h rfl rfl rfl rfl ?_ ?_⟩ <;> cases s.overBudget <;>
      simp [Action.owes?, Action.decides]
  | pickOrder now =>
    exact ⟨_, rfl, .look h rfl rfl rfl rfl rfl
      (by simp [Action.decides, evictionOrder, List.mem_mergeSort])⟩
  | evict ls => exact Effect.Kept.evict h ls
  | tally => exact Effect.Kept.tally h

theorem Action.mem_take {s : Store} {l : Live} {cause : Cause} {r : Store.SweepReport} {e : Effect}
    (he : (take l cause).perform? s r = some e) {m : Live} :
    m ∈ e.store.live ↔ m ∈ s.live ∧ m.name ≠ l.name := by
  have hentry : Store.isEntry l.key l.serial m = false ↔ m.name ≠ l.name := by
    simp [Store.isEntry, Live.name]
  cases hf : s.live.find? (Store.isEntry l.key l.serial) with
  | none =>
    rw [perform?_take_of_none hf] at he
    cases he
    refine ⟨fun hm => ⟨hm, ?_⟩, fun hm => hm.1⟩
    exact hentry.1 (Bool.eq_false_iff.2 (List.find?_eq_none.1 hf m hm))
  | some found =>
    rw [perform?_take_of_some hf] at he
    cases he
    rw [← hentry, List.mem_filter, Bool.not_eq_true']

theorem Thread.exists_others {threads : List Thread} {i : Nat} {u : Thread}
    (h : threads[i]? = some u) (f : Thread → List Live) : ∃ others,
      (threads.flatMap f).Perm (f u ++ others) ∧
      ∀ v, ((threads.set i v).flatMap f).Perm (f v ++ others) := by
  induction threads generalizing i with
  | nil => cases h
  | cons a threads ih =>
    cases i with
    | zero =>
      obtain rfl : a = u := by simpa using h
      exact ⟨threads.flatMap f, List.Perm.refl _, fun v => List.Perm.refl _⟩
    | succ i =>
      obtain ⟨others, hu, hset⟩ := ih (i := i) (by simpa using h)
      refine ⟨f a ++ others, ?_, fun v => ?_⟩
      · exact (hu.append_left (f a)).trans (List.perm_append_comm_assoc _ _ _)
      · exact ((hset v).append_left (f a)).trans (List.perm_append_comm_assoc _ _ _)

namespace Shared

/-- What holds at all times of a store with operations under way: what they owe is accounted for,
and what they are to remove was put in by then. -/
structure Sound (s : Shared) : Prop where
  charged : s.store.Charged s.owed s.given
  decided : ∀ u ∈ s.threads, ∀ l ∈ u.decided, l.serial < s.store.nextSerial

/-- The store at a later time: what is new in it has a new serial number. -/
structure Later (s t : Shared) : Prop where
  policy : t.store.policy = s.store.policy
  serials : s.store.nextSerial ≤ t.store.nextSerial
  entries : ∀ l ∈ t.store.live,
    s.store.nextSerial ≤ l.serial ∨ l.name ∈ s.store.live.map Live.name

variable {s t w : Shared}

theorem Later.refl (s : Shared) : s.Later s :=
  ⟨rfl, Nat.le_refl _, fun _ hl => .inr (List.mem_map_of_mem hl)⟩

theorem Later.trans (h : s.Later t) (h' : t.Later w) : s.Later w where
  policy := h'.policy.trans h.policy
  serials := h.serials.trans h'.serials
  entries l hl := by
    rcases h'.entries l hl with hnew | hold
    · exact .inl (h.serials.trans hnew)
    · obtain ⟨m, hm, hname⟩ := List.mem_map.1 hold
      have hserial : m.serial = l.serial := congrArg Prod.snd hname
      rcases h.entries m hm with hnew | hold
      · exact .inl (hserial ▸ hnew)
      · exact .inr (hname ▸ hold)

theorem start_sound (p : Policy) : (start p).Sound where
  charged := ⟨List.nodup_nil, ⟨rfl, rfl, rfl⟩, List.Perm.refl _⟩
  decided := by simp [start]

theorem begin_sound (h : s.Sound) (job : Job) : (s.begin job).Sound := by
  have hnothing : (Thread.mk job.actions ⟨0, 0⟩).owed = [] ∧
      (Thread.mk job.actions ⟨0, 0⟩).decided = [] := by
    cases job with
    | lookup key now => exact ⟨rfl, rfl⟩
    | commit c now =>
      cases hf : c.finished? now <;>
        simp [Thread.owed, Thread.decided, Job.actions, hf, Action.owes?, Action.decides]
    | sweep now => exact ⟨rfl, rfl⟩
  refine ⟨?_, fun u hu l hl => ?_⟩
  · simpa [Shared.owed, begin, hnothing.1] using h.charged
  · rcases List.mem_append.1 hu with hu | hu
    · exact h.decided u hu l hl
    · rw [List.mem_singleton.1 hu, hnothing.2] at hl
      cases hl

theorem Sound.decided_lt (h : s.Sound) {i : Nat} {a : Action} {rest : List Action}
    {r r' : Store.SweepReport} {e : Effect} {owed given : List Live}
    (hi : s.threads[i]? = some ⟨a :: rest, r⟩) (hkept : e.Kept s.store a owed given) {l : Live}
    (hl : l ∈ (Thread.mk (e.next ++ rest) r').decided) : l.serial < s.store.nextSerial := by
  have hmem : ⟨a :: rest, r⟩ ∈ s.threads := List.mem_of_getElem? hi
  rw [Thread.decided, List.flatMap_append, List.mem_append] at hl
  rcases hl with hl | hl
  · rcases hkept.decided l hl with hlive | hown
    · exact h.charged.live_lt hlive
    · exact h.decided _ hmem l (List.mem_append_left _ hown)
  · exact h.decided _ hmem l (List.mem_append_right _ hl)

theorem go_sound (h : s.Sound) (i : Nat) : ∃ t, s.go? i = some t ∧ t.Sound ∧ s.Later t := by
  rcases hi : s.threads[i]? with _ | ⟨_ | ⟨a, rest⟩, r⟩
  · exact ⟨s, by simp only [go?, hi], h, .refl s⟩
  · exact ⟨s, by simp only [go?, hi], h, .refl s⟩
  · let u : Thread := ⟨a :: rest, r⟩
    obtain ⟨others, hu, hset⟩ := Thread.exists_others hi Thread.owed
    have howed : u.owed = a.owes?.toList ++ rest.filterMap Action.owes? := by
      cases ha : a.owes? <;> simp [u, Thread.owed, ha]
    have hcharged := h.charged.perm hu
    rw [howed, List.append_assoc] at hcharged
    -- What the rest of this thread and the other threads owe stays as it is.
    obtain ⟨e, he, hkept⟩ := hcharged.perform r
    let v : Thread := ⟨e.next ++ rest, e.report⟩
    have hgo : s.go? i = some ⟨e.store, s.threads.set i v, s.given ++ a.gives s.store⟩ := by
      simp only [go?, hi, he, Option.map_some, v]
    have hv : v.owed = e.next.filterMap Action.owes? ++ rest.filterMap Action.owes? :=
      List.filterMap_append
    refine ⟨_, hgo, ⟨?_, fun w hw l hl => ?_⟩, hkept.policy, hkept.serials, hkept.entries⟩
    · refine hkept.charged.perm (.trans ?_ (hset v).symm)
      rw [hv, List.append_assoc]
    · rcases List.mem_or_eq_of_mem_set hw with hw | rfl
      · exact (h.decided w hw l hl).trans_le hkept.serials
      · exact (h.decided_lt hi hkept hl).trans_le hkept.serials

theorem step_sound (h : s.Sound) (e : Event) : ∃ t, s.step? e = some t ∧ t.Sound ∧ s.Later t := by
  cases e with
  | begin job =>
    exact ⟨s.begin job, rfl, begin_sound h job, rfl, Nat.le_refl _, (Later.refl s).entries⟩
  | go i => exact go_sound h i

theorem run_sound (h : s.Sound) (es : List Event) :
    ∃ t, s.run? es = some t ∧ t.Sound ∧ s.Later t := by
  induction es generalizing s with
  | nil => exact ⟨s, rfl, h, .refl s⟩
  | cons e es ih =>
    obtain ⟨t, ht, hsound, hlater⟩ := step_sound h e
    obtain ⟨w, hw, hsound', hlater'⟩ := ih hsound
    refine ⟨w, ?_, hsound', hlater.trans hlater'⟩
    rw [run?, List.foldlM_cons, ht]
    exact hw

/-- The removal of an entry that was known at an earlier time takes nothing that came later. -/
theorem Sound.take (h : t.Sound) (hlater : s.Later t) {i : Nat} {l : Live} {cause : Cause}
    {rest : List Action} {r : Store.SweepReport}
    (hi : t.threads[i]? = some ⟨.take l cause :: rest, r⟩)
    (hl : l.serial < s.store.nextSerial) : ∃ w, t.step? (.go i) = some w ∧
      (∀ m, m ∈ w.store.live ↔ m ∈ t.store.live ∧ m.name ≠ l.name) ∧
      ∀ m ∈ t.store.live, m.name ∉ s.store.live.map Live.name → m ∈ w.store.live := by
  obtain ⟨w, hgo, -, -⟩ := go_sound h i
  obtain ⟨e, he, hlive⟩ : ∃ e, (Action.take l cause).perform? t.store r = some e ∧
      e.store.live = w.store.live := by
    simp only [go?, hi, Option.map_eq_some_iff] at hgo
    obtain ⟨e, he, rfl⟩ := hgo
    exact ⟨e, he, rfl⟩
  have hmem (m : Live) : m ∈ w.store.live ↔ m ∈ t.store.live ∧ m.name ≠ l.name :=
    hlive ▸ Action.mem_take he
  refine ⟨w, hgo, hmem, fun m hm hnew => (hmem m).2 ⟨hm, fun hname => ?_⟩⟩
  have hserial : m.serial = l.serial := congrArg Prod.snd hname
  rcases hlater.entries m hm with hge | hold
  · exact Nat.not_le.2 hl (hserial ▸ hge)
  · exact hnew hold

theorem Sound.balanced (h : s.Sound) (hnothing : s.owed = []) : s.store.Balanced := by
  have hcharged := h.charged
  rw [hnothing] at hcharged
  exact ⟨hcharged.distinct, by simpa using hcharged.counted⟩

theorem owed_eq_nil (h : ∀ u ∈ s.threads, u.todo = []) : s.owed = [] := by
  rw [owed, List.flatMap_eq_nil_iff]
  intro u hu
  rw [Thread.owed, h u hu, List.filterMap_nil]

/-- Look-ups, commits and sweeps run at the same time in any way. No counter ever has to give back
more than it holds. What is decided to be removed at some time is all that the removal takes later:
whatever was put in after that time stays. Every entry ever put in is live, or taken out and owed,
or given back, and never given back twice. The counters are those of the live entries and of the
ones owed. Where no operation is under way they are those of the live entries, and one that comes
next and is left alone comes to its end and does what the operation of the store does. -/
theorem removals_of_interleaving (p : Policy) (es fs : List Event) :
    ∃ s t, (start p).run? es = some s ∧ s.run? fs = some t ∧
    (∀ u ∈ s.threads, ∀ l ∈ u.decided, ∀ i cause rest r,
      t.threads[i]? = some ⟨.take l cause :: rest, r⟩ → ∃ w, t.step? (.go i) = some w ∧
        (∀ m, m ∈ w.store.live ↔ m ∈ t.store.live ∧ m.name ≠ l.name) ∧
        ∀ m ∈ t.store.live, m.name ∉ s.store.live.map Live.name → m ∈ w.store.live) ∧
    ((t.store.live ++ t.owed ++ t.given).map Live.serial).Perm (List.range t.store.nextSerial) ∧
    (t.given.map Live.serial).Nodup ∧
    t.store.stats.Matches (t.store.live ++ t.owed) ∧
    ((∀ u ∈ t.threads, u.todo = []) → t.store.Balanced ∧ ∀ job, ∃ n w,
      t.run? (.begin job :: List.replicate n (.go t.threads.length)) = some w ∧
        w.store = job.result t.store ∧ ∃ r, w.threads = t.threads ++ [⟨[], r⟩]) := by
  obtain ⟨s, hs, hsound, -⟩ := run_sound (start_sound p) es
  obtain ⟨t, ht, hsound', hlater⟩ := run_sound hsound fs
  have hserials := hsound'.charged.serials
  refine ⟨s, t, hs, ht, fun u hu l hl i cause rest r hi => ?_, hserials, ?_,
    hsound'.charged.counted, fun hidle => ?_⟩
  · exact hsound'.take hlater hi (hsound.decided u hu l hl)
  · have hall := hserials.nodup_iff.2 List.nodup_range
    rw [List.map_append] at hall
    exact hall.of_append_right
  · have hbalanced := hsound'.balanced (owed_eq_nil hidle)
    refine ⟨hbalanced, fun job => ?_⟩
    obtain ⟨n, r, given, hrun⟩ := run?_job t hbalanced job
    exact ⟨n, _, hrun, rfl, r, rfl⟩

/-- A look-up finds an expired entry, a newer response is stored under the key, and the look-up goes
on: it takes nothing, and in the end the counters are those of the newer entry. -/
theorem removals_of_interleaving_newer_entry :
    let key : Key := ⟨"GET", false, "site.test", "/", ""⟩
    let response (expires : Instant) : Capture := ⟨key, 100, 1000, 0,
      .recording ⟨200, .empty, expires, [], false, none⟩ ⟨[[1, 2]], 2, 0⟩⟩
    let p : Policy := ⟨true, 100, 100, true, 1000, 1000⟩
    let es : List Event := [.begin (.commit (response 10) 0), .go 0, .go 0, .go 0,
      .begin (.lookup key 20), .go 1]
    let fs : List Event := [.begin (.commit (response 1000) 20), .go 2]
    let rest : List Event := [.go 1, .go 1, .go 2, .go 2]
    let seen : Live := ⟨key, 0, ⟨200, .empty, [[1, 2]], 2, 0, 0, 0, 10, [], 0⟩⟩
    (∃ s t w, (start p).run? es = some s ∧ s.run? fs = some t ∧ t.step? (.go 1) = some w ∧
      (∃ u ∈ s.threads, u.decided = [seen]) ∧ t.store.live.map Live.name = [(key, 1)] ∧
      ∀ m ∈ t.store.live, m ∈ w.store.live) ∧
    ∃ t, (start p).run? (es ++ fs ++ rest) = some t ∧ t.store.Balanced ∧
      t.store.live.map Live.name = [(key, 1)] := by
  intro key response p es fs rest seen
  constructor
  · obtain ⟨s, t, hs, ht, htake, -⟩ := removals_of_interleaving p es fs
    have hearly : ((start p).run? es).map (fun s =>
        (s.threads[1]?.map Thread.decided, s.store.live.map Live.name)) =
          some (some [seen], [(key, 0)]) := by decide +kernel
    have hlate : ((start p).run? (es ++ fs)).map (fun t =>
        (t.threads[1]?, t.store.live.map Live.name)) =
          some (some ⟨[.take seen .lookup, .count false], ⟨0, 0⟩⟩, [(key, 1)]) := by decide +kernel
    rw [hs] at hearly
    rw [run?_append hs, ht] at hlate
    obtain ⟨hthread, hold⟩ := Prod.mk.inj (Option.some.inj hearly)
    obtain ⟨hnext, hnew⟩ := Prod.mk.inj (Option.some.inj hlate)
    obtain ⟨u, hu, hdecided⟩ := Option.map_eq_some_iff.1 hthread
    have hmem : u ∈ s.threads := List.mem_of_getElem? hu
    obtain ⟨w, hw, -, hstays⟩ := htake u hmem seen (by simp [hdecided]) 1 .lookup [.count false]
      ⟨0, 0⟩ hnext
    refine ⟨s, t, w, hs, ht, hw, ⟨u, hmem, hdecided⟩, hnew, fun m hm => hstays m hm ?_⟩
    have hname : m.name ∈ t.store.live.map Live.name := List.mem_map_of_mem hm
    rw [hnew] at hname
    rw [hold, List.mem_singleton.1 hname]
    simp
  · obtain ⟨t, t', ht, ht', -, -, -, -, hbalanced⟩ :=
      removals_of_interleaving p (es ++ fs ++ rest) []
    obtain rfl : t = t' := Option.some.inj ht'
    have hidle : ((start p).run? (es ++ fs ++ rest)).map (fun t =>
        (decide (∀ u ∈ t.threads, u.todo = []), t.store.live.map Live.name)) =
          some (true, [(key, 1)]) := by decide +kernel
    rw [ht] at hidle
    obtain ⟨hnone, hnew⟩ := Prod.mk.inj (Option.some.inj hidle)
    exact ⟨t, ht, (hbalanced (of_decide_eq_true hnone)).1, hnew⟩

end Shared
end ReverseProxy.Cache
