import Mathlib.Data.List.Forall2
import ReverseProxy.Proofs.Routing.Hosts
import ReverseProxy.Proofs.Routing.Validated

set_option autoImplicit false

namespace ReverseProxy.Routing

/-- One letter in either case. A Kelvin sign is a third `k`: of the characters outside ASCII it is
the one whose lower case is inside. -/
def SameLetter (a b : Char) : Prop :=
  a.toLower = b.toLower ∨ a ∈ ['k', 'K', '\u212A'] ∧ b ∈ ['k', 'K', '\u212A']

instance (a b : Char) : Decidable (SameLetter a b) :=
  inferInstanceAs (Decidable (_ ∨ _ ∧ _))

def SameHost (s t : String) : Prop := List.Forall₂ SameLetter s.toList t.toList

theorem toLower_eq_k {c : Char} : c.toLower = 'k' ↔ c = 'k' ∨ c = 'K' := by
  constructor
  · intro h
    unfold Char.toLower at h
    split at h
    · next hupper =>
      have hhigh : c.val.toNat ≤ 90 := UInt32.le_iff_toNat_le.1 hupper.2
      have hsum : (c.val + 32).toNat = 107 := congrArg (fun k : Char => k.val.toNat) h
      simp only [UInt32.toNat_add, UInt32.reduceToNat] at hsum
      refine .inr (Char.ext (UInt32.toNat.inj ?_))
      change c.val.toNat = 75
      omega
    · exact .inl h
  · rintro (rfl | rfl) <;> rfl

theorem sameLetter_iff (a b : Char) :
    (if a = '\u212A' then 'k' else a.toLower) = (if b = '\u212A' then 'k' else b.toLower) ↔
      SameLetter a b := by
  have hkelvin (c : Char) : c.toLower = '\u212A' ↔ c = '\u212A' :=
    Chars.toLower_eq_iff (by decide) c
  have hkelvin' (c : Char) : '\u212A' = c.toLower ↔ c = '\u212A' := eq_comm.trans (hkelvin c)
  have hk (c : Char) : 'k' = c.toLower ↔ c = 'k' ∨ c = 'K' := eq_comm.trans toLower_eq_k
  have hself : '\u212A'.toLower = '\u212A' := rfl
  unfold SameLetter
  simp only [List.mem_cons, List.not_mem_nil, or_false]
  by_cases ha : a = '\u212A'
  · by_cases hb : b = '\u212A'
    · simp [ha, hb]
    · simp [ha, hb, hself, hkelvin', hk]
  · by_cases hb : b = '\u212A'
    · simp [ha, hb, hself, toLower_eq_k, hkelvin]
    · simp only [ha, hb, if_false, or_false, ← toLower_eq_k]
      exact ⟨.inl, fun h => h.elim id fun h => h.1.trans h.2.symm⟩

theorem lowerHost_eq_iff {s t : String} : lowerHost s = lowerHost t ↔ SameHost s t := by
  unfold lowerHost SameHost
  rw [String.ofList_inj, ← List.forall₂_eq_eq_eq, List.forall₂_map_left_iff,
    List.forall₂_map_right_iff]
  simp only [sameLetter_iff]

theorem lower_eq_colon {c : Char} :
    (if c = '\u212A' then 'k' else c.toLower) = ':' ↔ c = ':' := by
  by_cases hc : c = '\u212A'
  · simp [hc]
  · rw [if_neg hc, Chars.toLower_eq_iff (by decide)]

theorem lowerHost_eq_port_iff {t h : String} :
    (∃ port, lowerHost t = lowerHost h ++ ":" ++ port ∧ ':' ∉ port.toList) ↔
      ∃ name port, t = name ++ ":" ++ port ∧ ':' ∉ port.toList ∧ SameHost name h := by
  constructor
  · rintro ⟨port, heq, hport⟩
    rw [← String.toList_inj, toList_port, lowerHost, String.toList_ofList,
      List.map_eq_append_iff] at heq
    obtain ⟨name, rest, ht, hname, hrest⟩ := heq
    obtain ⟨c, behind, hcut, hc, hbehind⟩ := List.map_eq_cons_iff.1 hrest
    refine ⟨String.ofList name, String.ofList behind, ?_, fun hmem => hport ?_, ?_⟩
    · rw [← String.toList_inj, toList_port, String.toList_ofList, String.toList_ofList, ht, hcut,
        lower_eq_colon.1 hc]
    · rw [String.toList_ofList] at hmem
      rw [← hbehind]
      exact List.mem_map.2 ⟨':', hmem, lower_eq_colon.2 rfl⟩
    · rw [← lowerHost_eq_iff, ← String.toList_inj, ← hname, lowerHost, String.toList_ofList,
        String.toList_ofList]
  · rintro ⟨name, port, rfl, hport, hsame⟩
    refine ⟨lowerHost port, ?_, fun hmem => hport ?_⟩
    · rw [← lowerHost_eq_iff.2 hsame, ← String.toList_inj, toList_port]
      simp only [lowerHost, String.toList_ofList, toList_port, List.map_append, List.map_cons]
      rw [lower_eq_colon.2 rfl]
    · rw [lowerHost, String.toList_ofList] at hmem
      obtain ⟨c, hc, hcolon⟩ := List.mem_map.1 hmem
      exact lower_eq_colon.1 hcolon ▸ hc

end ReverseProxy.Routing

namespace ReverseProxy.Config
open ReverseProxy.Routing

/-- The request meets what the route asks for: its host is the configured one, as it stands or
without what is behind its last colon, and its path begins as configured. -/
structure Route.Meets (rc : Route) (view : RequestView) : Prop where
  host : ∀ h, rc.host = some h → ∃ asked, view.host? = some asked ∧ (SameHost asked h ∨
    ∃ name port, asked = name ++ ":" ++ port ∧ ':' ∉ port.toList ∧ SameHost name h)
  path : ∀ start, rc.pathPrefix = some start → ∃ rest, view.path = start ++ rest

theorem holds_host_iff {view : RequestView} {h : String} :
    (Condition.ofHost h).holds view = true ↔ ∃ asked, view.host? = some asked ∧
      (SameHost asked h ∨
        ∃ name port, asked = name ++ ":" ++ port ∧ ':' ∉ port.toList ∧ SameHost name h) := by
  cases hasked : view.host? with
  | none => simp [Condition.ofHost, Condition.holds, hasked]
  | some asked =>
    rw [holds_ofHost_iff hasked, lowerHost_eq_iff, lowerHost_eq_port_iff]
    simp

theorem holds_path_iff {view : RequestView} {start : String} :
    (Condition.pathPrefix start).holds view = true ↔ ∃ rest, view.path = start ++ rest := by
  rw [Condition.holds, Text.hasStart, Option.isSome_iff_exists]
  simp only [Chars.stripStart?_eq_some_iff]
  constructor
  · rintro ⟨rest, hrest⟩
    refine ⟨String.ofList rest, ?_⟩
    rw [← String.toList_inj, String.toList_append, String.toList_ofList, hrest]
  · rintro ⟨rest, hrest⟩
    exact ⟨rest.toList, by rw [hrest, String.toList_append]⟩

theorem Route.isMet_iff {rc : Route} {view : RequestView} :
    rc.isMet view = true ↔ rc.Meets view := by
  unfold Route.isMet
  rw [Bool.and_eq_true, Option.all_eq_true, Option.all_eq_true]
  simp only [holds_host_iff, holds_path_iff]
  exact ⟨fun h => ⟨h.1, h.2⟩, fun h => ⟨h.host, h.path⟩⟩

/-- `rc` in place `i` is the route for the request: it is met, and no other one that is met has a
higher priority, or the same one and an earlier place. -/
structure Chosen (rcs : List Route) (view : RequestView) (i : Nat) (rc : Route) : Prop where
  held : rcs[i]? = some rc
  meets : rc.Meets view
  first : ∀ (j : Nat) (other : Route), rcs[j]? = some other → other.Meets view →
    ¬(rc.priority < other.priority ∨ other.priority = rc.priority ∧ j < i)

theorem Chosen.unique {rcs : List Route} {view : RequestView} {i j : Nat} {rc other : Route}
    (h : Chosen rcs view i rc) (hother : Chosen rcs view j other) : i = j ∧ rc = other := by
  have hij := h.first j other hother.held hother.meets
  have hji := hother.first i rc h.held h.meets
  simp only [UInt32.lt_iff_toNat_lt, ← UInt32.toNat_inj] at hij hji
  have hsame : i = j := by omega
  have hheld := h.held
  rw [hsame, hother.held, Option.some.injEq] at hheld
  exact ⟨hsame, hheld.symm⟩

def ranked (rcs : List Route) : List (Route × Nat) :=
  rcs.zipIdx.mergeSort (List.zipIdxLE fun a b => decide (b.priority ≤ a.priority))

theorem map_ranked (rcs : List Route) : (ranked rcs).map (·.1) = byPriority rcs :=
  List.mergeSort_zipIdx

theorem mem_ranked {rcs : List Route} {rc : Route} {i : Nat} :
    (rc, i) ∈ ranked rcs ↔ rcs[i]? = some rc :=
  List.mem_mergeSort.trans List.mem_zipIdx_iff_getElem?

theorem pairwise_ranked (rcs : List Route) : (ranked rcs).Pairwise fun x y =>
    ¬(x.1.priority < y.1.priority ∨ y.1.priority = x.1.priority ∧ y.2 < x.2) := by
  let le (a b : Route) : Bool := decide (b.priority ≤ a.priority)
  have htrans (a b c : Route) (hab : le a b = true) (hbc : le b c = true) : le a c = true :=
    decide_eq_true (UInt32.le_trans (of_decide_eq_true hbc) (of_decide_eq_true hab))
  have htotal (a b : Route) : (le a b || le b a) = true := by
    rw [Bool.or_eq_true, decide_eq_true_iff, decide_eq_true_iff]
    exact UInt32.le_total _ _
  have hsorted := List.pairwise_mergeSort (List.zipIdxLE_trans htrans)
    (List.zipIdxLE_total htotal) rcs.zipIdx
  refine hsorted.imp fun {x y} hxy => ?_
  unfold List.zipIdxLE at hxy
  simp only [le, decide_eq_true_eq, UInt32.le_iff_toNat_le] at hxy
  rw [UInt32.lt_iff_toNat_lt, ← UInt32.toNat_inj]
  split at hxy
  · split at hxy
    · rw [decide_eq_true_iff] at hxy
      omega
    · omega
  · cases hxy

/-- Trying the routes by descending priority finds the one that the configuration says. -/
theorem find?_byPriority (rcs : List Route) (view : RequestView) :
    (∃ i rc, (byPriority rcs).find? (·.isMet view) = some rc ∧ Chosen rcs view i rc) ∨
      ((byPriority rcs).find? (·.isMet view) = none ∧ ∀ rc ∈ rcs, ¬rc.Meets view) := by
  rw [← map_ranked, List.find?_map]
  cases hfind : (ranked rcs).find? ((·.isMet view) ∘ fun x => x.1) with
  | none =>
    refine .inr ⟨rfl, fun rc hrc hmeets => ?_⟩
    obtain ⟨i, hi⟩ := List.mem_iff_getElem?.1 hrc
    exact List.find?_eq_none.1 hfind (rc, i) (mem_ranked.2 hi) (Route.isMet_iff.2 hmeets)
  | some found =>
    obtain ⟨rc, i⟩ := found
    obtain ⟨hmet, before, behind, hsplit, hbefore⟩ := List.find?_eq_some_iff_append.1 hfind
    refine .inl ⟨i, rc, rfl, mem_ranked.1 (List.mem_of_find?_eq_some hfind), Route.isMet_iff.1 hmet,
      fun j other hj hmeets => ?_⟩
    have hother := mem_ranked.2 hj
    have hsorted := pairwise_ranked rcs
    rw [hsplit] at hother hsorted
    rcases List.mem_append.1 hother with hother | hother
    · have hnot := hbefore _ hother
      rw [Function.comp_apply, Route.isMet_iff.2 hmeets] at hnot
      cases hnot
    · rcases List.mem_cons.1 hother with heq | hother
      · cases heq
        rintro (hless | ⟨_, hless⟩)
        · exact absurd hless (UInt32.lt_irrefl _)
        · exact absurd hless (Nat.lt_irrefl _)
      · exact List.rel_of_pairwise_cons (List.pairwise_append.1 hsorted).2.1 hother

end ReverseProxy.Config
