import Mathlib.Data.List.Basic
import Mathlib.Data.List.Induction
import Mathlib.Tactic.Tauto
import ReverseProxy.Proofs.Text.Cut
import ReverseProxy.Request.Path

set_option autoImplicit false

namespace ReverseProxy.Request

def segments (path : String) : List (List Char) := Chars.splitOn '/' path.toList

def IsName (s : List Char) : Prop := s ≠ [] ∧ s ≠ ['.'] ∧ s ≠ ['.', '.']

/-- Where segments lead to from the root, one after the other. Above the root is the root. -/
inductive Reaches : List (List Char) → List (List Char) → Prop where
  | root : Reaches [] []
  | stays {ss place : List (List Char)} {s : List Char} (before : Reaches ss place)
      (same : s = [] ∨ s = ['.']) : Reaches (ss ++ [s]) place
  | up {ss place : List (List Char)} {last : List Char} (before : Reaches ss (place ++ [last])) :
    Reaches (ss ++ [['.', '.']]) place
  | upFromRoot {ss : List (List Char)} (before : Reaches ss []) : Reaches (ss ++ [['.', '.']]) []
  | down {ss place : List (List Char)} {s : List Char} (before : Reaches ss place)
      (name : IsName s) : Reaches (ss ++ [s]) (place ++ [s])

structure Normal (path : String) : Prop where
  rooted : path.toList.head? = some '/'
  filled : ∀ s ∈ (segments path).tail.dropLast, s ≠ []
  noDots : ∀ s ∈ (segments path).tail, s ≠ ['.'] ∧ s ≠ ['.', '.']

section
variable {ss kept : List (List Char)} {s : List Char} {cs : List Char} {path : String}

theorem rooted_concat (ss : List (List Char)) (s : List Char) :
    rooted (ss ++ [s]) = rooted ss ++ '/' :: s := by
  unfold rooted
  rw [List.flatMap_append, List.flatMap_singleton]

theorem splitOn_rooted (h : ∀ s ∈ ss, '/' ∉ s) : Chars.splitOn '/' (rooted ss) = [] :: ss := by
  induction ss using List.reverseRecOn with
  | nil => rfl
  | append_singleton ss s ih =>
    have hs : '/' ∉ s := h s (List.mem_append_right _ List.mem_cons_self)
    rw [rooted_concat, Chars.splitOn_append, Chars.splitOn_of_notMem hs,
      ih fun t ht => h t (List.mem_append_left _ ht), List.cons_append]

theorem rooted_splitOn (cs : List Char) : rooted (Chars.splitOn '/' cs) = '/' :: cs := by
  induction cs with
  | nil => rfl
  | cons c cs ih =>
    unfold Chars.splitOn
    cases hpieces : Chars.splitOn '/' cs with
    | nil => exact absurd hpieces (Chars.splitOn_ne_nil '/' cs)
    | cons piece pieces =>
      rw [hpieces] at ih
      by_cases hc : c = '/'
      · simpa [rooted, hc] using ih
      · simpa [rooted, hc] using ih

theorem getLast?_rooted_concat (ss : List (List Char)) (hs : '/' ∉ s) :
    (rooted (ss ++ [s])).getLast? = some '/' ↔ s = [] := by
  rw [rooted_concat, List.getLast?_append, List.getLast?_cons, Option.some_or, Option.some.injEq]
  cases hlast : s.getLast? with
  | none => exact iff_of_true rfl (List.getLast?_eq_none_iff.1 hlast)
  | some c =>
    have hmem : c ∈ s := List.mem_of_getLast? hlast
    exact iff_of_false (fun heq => hs (heq ▸ hmem)) (List.ne_nil_of_mem hmem)

theorem resolveAll_concat (ss : List (List Char)) (s : List Char) :
    resolveAll (ss ++ [s]) = resolve (resolveAll ss) s := by
  unfold resolveAll
  rw [List.foldl_append]
  rfl

theorem resolve_same (kept : List (List Char)) (hs : s = [] ∨ s = ['.']) : resolve kept s = kept :=
  if_pos hs

theorem resolve_up (kept : List (List Char)) : resolve kept ['.', '.'] = kept.dropLast := rfl

theorem resolve_name (kept : List (List Char)) (hs : IsName s) :
    resolve kept s = kept ++ [s] := by
  unfold resolve
  rw [if_neg (not_or.2 ⟨hs.1, hs.2.1⟩), if_neg hs.2.2]

theorem segment_cases (s : List Char) : (s = [] ∨ s = ['.']) ∨ s = ['.', '.'] ∨ IsName s := by
  unfold IsName
  tauto

theorem Reaches.eq_resolveAll {place : List (List Char)} (h : Reaches ss place) :
    resolveAll ss = place := by
  induction h with
  | root => rfl
  | stays before same ih => rw [resolveAll_concat, ih, resolve_same _ same]
  | up before ih => rw [resolveAll_concat, ih, resolve_up, List.dropLast_concat]
  | upFromRoot before ih => rw [resolveAll_concat, ih, resolve_up, List.dropLast_nil]
  | down before name ih => rw [resolveAll_concat, ih, resolve_name _ name]

theorem reaches_resolveAll (ss : List (List Char)) : Reaches ss (resolveAll ss) := by
  induction ss using List.reverseRecOn with
  | nil => exact .root
  | append_singleton ss s ih =>
    rw [resolveAll_concat]
    rcases segment_cases s with hsame | rfl | hname
    · rw [resolve_same _ hsame]
      exact .stays ih hsame
    · rw [resolve_up]
      rcases List.eq_nil_or_concat' (resolveAll ss) with hroot | ⟨place, last, hplace⟩
      · rw [hroot] at ih ⊢
        exact .upFromRoot ih
      · rw [hplace] at ih ⊢
        rw [List.dropLast_concat]
        exact .up ih
    · rw [resolve_name _ hname]
      exact .down ih hname

theorem mem_resolveAll (h : s ∈ resolveAll ss) : s ∈ ss ∧ IsName s := by
  induction ss using List.reverseRecOn generalizing s with
  | nil => cases h
  | append_singleton ss t ih =>
    have hkept (hs : s ∈ resolveAll ss) : s ∈ ss ++ [t] ∧ IsName s :=
      ⟨List.mem_append_left _ (ih hs).1, (ih hs).2⟩
    rw [resolveAll_concat] at h
    rcases segment_cases t with hsame | rfl | hname
    · rw [resolve_same _ hsame] at h
      exact hkept h
    · exact hkept (List.dropLast_subset _ h)
    · rw [resolve_name _ hname] at h
      rcases List.mem_append.1 h with h | h
      · exact hkept h
      · rw [List.mem_singleton.1 h]
        exact ⟨List.mem_append_right _ List.mem_cons_self, hname⟩

theorem resolveAll_of_names (h : ∀ s ∈ ss, IsName s) : resolveAll ss = ss := by
  induction ss using List.reverseRecOn with
  | nil => rfl
  | append_singleton ss s ih =>
    rw [resolveAll_concat, ih fun t ht => h t (List.mem_append_left _ ht),
      resolve_name _ (h s (List.mem_append_right _ List.mem_cons_self))]

/-- The empty segment that stands for a slash at the end of a path, which the root has always. -/
def ending (path : String) : List (List Char) :=
  if resolveAll (segments path) = [] ∨ path.toList.getLast? = some '/' then [[]] else []

theorem ending_cases (path : String) :
    ending path = [[]] ∨ ending path = [] ∧ resolveAll (segments path) ≠ [] := by
  unfold ending
  split
  · exact .inl rfl
  · next hneither => exact .inr ⟨rfl, fun hroot => hneither (.inl hroot)⟩

theorem eq_nil_of_mem_ending (h : s ∈ ending path) : s = [] := by
  unfold ending at h
  split at h
  · exact List.mem_singleton.1 h
  · cases h

theorem toList_normalizePath (path : String) :
    (normalizePath path).toList = rooted (resolveAll (segments path) ++ ending path) := by
  unfold normalizePath ending segments
  dsimp only
  cases hkept : resolveAll (Chars.splitOn '/' path.toList) with
  | nil =>
    rw [List.isEmpty_nil, if_pos rfl, if_pos (Or.inl rfl)]
    rfl
  | cons s kept =>
    rw [if_neg (by simp), String.toList_ofList]
    by_cases hlast : path.toList.getLast? = some '/'
    · rw [if_pos hlast, if_pos (.inr hlast), rooted_concat]
    · rw [if_neg hlast, if_neg (by simp [hlast]), List.append_nil, List.append_nil]

theorem slash_notMem (h : s ∈ resolveAll (segments path)) : '/' ∉ s :=
  Chars.notMem_of_mem_splitOn (mem_resolveAll h).1

/-- A normalized path has the segments that were kept, behind its first slash. -/
theorem segments_normalizePath (path : String) :
    segments (normalizePath path) = [] :: (resolveAll (segments path) ++ ending path) := by
  unfold segments
  rw [toList_normalizePath, splitOn_rooted]
  · rfl
  · intro s hs
    rcases List.mem_append.1 hs with hs | hs
    · exact slash_notMem hs
    · rw [eq_nil_of_mem_ending hs]
      exact List.not_mem_nil

theorem filter_segments_normalizePath (path : String) :
    (segments (normalizePath path)).filter (· ≠ []) = resolveAll (segments path) := by
  have hkept : (resolveAll (segments path)).filter (· ≠ []) = resolveAll (segments path) :=
    List.filter_eq_self.2 fun s hs => decide_eq_true (mem_resolveAll hs).2.1
  have hending : (ending path).filter (· ≠ []) = [] :=
    List.filter_eq_nil_iff.2 fun s hs => by simp [eq_nil_of_mem_ending hs]
  rw [segments_normalizePath, List.filter_cons_of_neg (by simp), List.filter_append, hkept,
    hending, List.append_nil]

theorem getLast?_normalizePath (path : String) :
    (normalizePath path).toList.getLast? = some '/' ↔
      normalizePath path = "/" ∨ path.toList.getLast? = some '/' := by
  have hroot (hkept : resolveAll (segments path) = []) : normalizePath path = "/" := by
    unfold normalizePath
    exact if_pos (List.isEmpty_iff.2 hkept)
  have hends : (normalizePath path).toList.getLast? = some '/' ↔ ending path = [[]] := by
    rw [toList_normalizePath]
    rcases ending_cases path with hslash | ⟨hnone, hkept⟩
    · rw [hslash]
      exact iff_of_true ((getLast?_rooted_concat _ List.not_mem_nil).2 rfl) rfl
    · rw [hnone, List.append_nil]
      obtain ⟨front, last, heq⟩ := (List.eq_nil_or_concat' _).resolve_left hkept
      have hlast : last ∈ resolveAll (segments path) := by simp [heq]
      rw [heq, getLast?_rooted_concat front (slash_notMem hlast)]
      exact iff_of_false (mem_resolveAll hlast).2.1 (by simp)
  constructor
  · intro hslash
    by_contra hneither
    have hkept : ¬(resolveAll (segments path) = [] ∨ path.toList.getLast? = some '/') :=
      fun h => hneither (h.imp_left hroot)
    have hnone : ending path = [] := if_neg hkept
    rw [hends, hnone] at hslash
    cases hslash
  · rintro (heq | hslash)
    · rw [heq]
      rfl
    · exact hends.2 (if_pos (.inr hslash))

theorem normal_normalizePath (path : String) : Normal (normalizePath path) := by
  have htail : (segments (normalizePath path)).tail =
      resolveAll (segments path) ++ ending path := congrArg List.tail (segments_normalizePath path)
  have hsome : resolveAll (segments path) ++ ending path ≠ [] := by
    rcases ending_cases path with hslash | ⟨_, hkept⟩
    · simp [hslash]
    · simp [hkept]
  refine ⟨?_, fun s hs => ?_, fun s hs => ?_⟩
  · obtain ⟨s, ss, heq⟩ := List.exists_cons_of_ne_nil hsome
    rw [toList_normalizePath, heq]
    rfl
  · rw [htail] at hs
    have hkept : s ∈ resolveAll (segments path) := by
      rcases ending_cases path with hslash | ⟨hnone, _⟩
      · rwa [hslash, List.dropLast_concat] at hs
      · rw [hnone, List.append_nil] at hs
        exact List.dropLast_subset _ hs
    exact (mem_resolveAll hkept).2.1
  · rw [htail] at hs
    rcases List.mem_append.1 hs with hs | hs
    · exact (mem_resolveAll hs).2.2
    · rw [eq_nil_of_mem_ending hs]
      decide

theorem normalizePath_of_normal (h : Normal path) : normalizePath path = path := by
  obtain ⟨cs, hpath⟩ := List.head?_eq_some_iff.1 h.rooted
  have hsegments : segments path = [] :: Chars.splitOn '/' cs := by
    unfold segments
    rw [hpath]
    exact Chars.splitOn_append '/' [] cs
  obtain ⟨front, last, hconcat⟩ :=
    (List.eq_nil_or_concat' _).resolve_left (Chars.splitOn_ne_nil '/' cs)
  have hrooted : path.toList = rooted (front ++ [last]) := by
    rw [hpath, ← hconcat, rooted_splitOn]
  have hfilled := h.filled
  have hdots := h.noDots
  rw [hsegments, List.tail_cons, hconcat] at hfilled hdots
  rw [List.dropLast_concat] at hfilled
  have hmem : last ∈ Chars.splitOn '/' cs := by simp [hconcat]
  have hslash : '/' ∉ last := Chars.notMem_of_mem_splitOn hmem
  have hfront : resolveAll front = front := resolveAll_of_names fun s hs =>
    ⟨hfilled s hs, hdots s (List.mem_append_left _ hs)⟩
  have hkept : resolveAll (segments path) = resolve front last := by
    rw [hsegments, hconcat, ← List.cons_append, resolveAll_concat]
    exact congrArg (resolve · last) hfront
  have hends : path.toList.getLast? = some '/' ↔ last = [] := by
    rw [hrooted, getLast?_rooted_concat front hslash]
  rw [← String.toList_inj, toList_normalizePath, hrooted, ending, hkept]
  by_cases hlast : last = []
  · rw [if_pos (.inr (hends.2 hlast)), resolve_same front (.inl hlast), hlast]
  · have hname : IsName last := ⟨hlast, hdots last (by simp)⟩
    rw [resolve_name front hname, if_neg (by simp [hends, hlast]), List.append_nil]

theorem normalizePath_eq_self_iff : normalizePath path = path ↔ Normal path :=
  ⟨fun heq => heq ▸ normal_normalizePath path, normalizePath_of_normal⟩

end

/-- A normalized path is normal. Its names are where the segments of the path lead to from the root,
it ends with a slash if the path does or if it is the root, and it is normalized already. -/
theorem normalizePath_canonical (path : String) :
    let normal := normalizePath path
    Normal normal ∧
    (∀ place, Reaches (segments path) place ↔ (segments normal).filter (· ≠ []) = place) ∧
    (normal.toList.getLast? = some '/' ↔
      normal = "/" ∨ path.toList.getLast? = some '/') ∧
    normalizePath normal = normal := by
  intro normal
  refine ⟨normal_normalizePath path, fun place => ?_, getLast?_normalizePath path,
    normalizePath_eq_self_iff.2 (normal_normalizePath path)⟩
  rw [filter_segments_normalizePath]
  exact ⟨Reaches.eq_resolveAll, fun heq => heq ▸ reaches_resolveAll _⟩

example : normalizePath "/a//b/./c/../../../d/" = "/d/" := by decide +kernel

end ReverseProxy.Request
