import Mathlib.Data.List.DropRight
import Mathlib.Data.List.TakeWhile
import ReverseProxy.Text

set_option autoImplicit false

namespace ReverseProxy

theorem dropWhile_ends_append {α : Type} {p : α → Bool} {w : List α} (hw : ∀ c ∈ w, p c = true)
    (m : List α) : (((m ++ w).dropWhile p).reverse.dropWhile p).reverse =
      ((m.dropWhile p).reverse.dropWhile p).reverse := by
  have hend (n : List α) : ((n ++ w).reverse.dropWhile p).reverse =
      (n.reverse.dropWhile p).reverse := by
    rw [List.reverse_append, List.dropWhile_append_of_pos fun c hc => hw c (List.mem_reverse.1 hc)]
  rw [List.dropWhile_append]
  split
  · next hm =>
    rw [List.isEmpty_iff.1 hm, List.dropWhile_eq_nil_iff.2 hw]
  · exact hend _

namespace Chars

section
variable {u m w cs : List Char}

theorem trim_blank_append (hu : ∀ c ∈ u, isBlank c = true) (m : List Char) :
    trim (u ++ m) = trim m := by
  unfold trim trimStart
  rw [List.dropWhile_append_of_pos hu]

theorem trim_append_blank (hw : ∀ c ∈ w, isBlank c = true) (m : List Char) :
    trim (m ++ w) = trim m :=
  dropWhile_ends_append hw m

theorem exists_dropEndWhile (p : Char → Bool) (cs : List Char) :
    ∃ w, cs = dropEndWhile p cs ++ w ∧ ∀ c ∈ w, p c = true := by
  refine ⟨(cs.reverse.takeWhile p).reverse, ?_, fun c hc => ?_⟩
  · unfold dropEndWhile
    rw [← List.reverse_append, List.takeWhile_append_dropWhile, List.reverse_reverse]
  · exact List.all_eq_true.1 List.all_takeWhile c (List.mem_reverse.1 hc)

theorem exists_trim (cs : List Char) : ∃ u w, cs = u ++ trim cs ++ w ∧
    (∀ c ∈ u, isBlank c = true) ∧ ∀ c ∈ w, isBlank c = true := by
  obtain ⟨w, hw, hblank⟩ := exists_dropEndWhile isBlank (trimStart cs)
  refine ⟨cs.takeWhile isBlank, w, ?_, fun c hc => List.all_eq_true.1 List.all_takeWhile c hc,
    hblank⟩
  have hsplit : cs = cs.takeWhile isBlank ++ trimStart cs := List.takeWhile_append_dropWhile.symm
  rw [List.append_assoc]
  exact hsplit.trans (congrArg (cs.takeWhile isBlank ++ ·) hw)

theorem dropEndWhile_subset (p : Char → Bool) (cs : List Char) : dropEndWhile p cs ⊆ cs := by
  obtain ⟨w, hcs, _⟩ := exists_dropEndWhile p cs
  exact fun c hc => hcs ▸ List.mem_append_left w hc

theorem trim_subset (cs : List Char) : trim cs ⊆ cs := by
  obtain ⟨u, w, hcs, _, _⟩ := exists_trim cs
  exact fun c hc => hcs ▸ List.mem_append_left w (List.mem_append_right u hc)

theorem trimStart_of_notBlank (h : ∀ c ∈ cs, isBlank c = false) : trimStart cs = cs := by
  cases cs with
  | nil => rfl
  | cons c cs =>
    unfold trimStart
    rw [List.dropWhile_cons, h c List.mem_cons_self]
    rfl

theorem trim_of_notBlank (h : ∀ c ∈ cs, isBlank c = false) : trim cs = cs := by
  have hreverse : trimStart cs.reverse = cs.reverse :=
    trimStart_of_notBlank fun c hc => h c (List.mem_reverse.1 hc)
  unfold trimStart at hreverse
  rw [trim, trimStart_of_notBlank h, trimEnd, dropEndWhile, hreverse, List.reverse_reverse]

theorem trimEnd_of_notBlank (h : ∀ c ∈ cs, isBlank c = false) : trimEnd cs = cs := by
  have htrim := trim_of_notBlank h
  rwa [trim, trimStart_of_notBlank h] at htrim

theorem dropEndWhile_of_getLast? {p : Char → Bool} {c : Char} (hlast : cs.getLast? = some c)
    (hc : p c = false) : dropEndWhile p cs = cs := by
  have hreverse : cs.reverse.head? = some c := by rw [List.head?_reverse, hlast]
  obtain ⟨r, hr⟩ := List.head?_eq_some_iff.1 hreverse
  rw [dropEndWhile, hr, List.dropWhile_cons, hc, ← hr]
  exact List.reverse_reverse cs

theorem trimStart_blank_append (hu : ∀ c ∈ u, isBlank c = true)
    (hm : ∀ c, m.head? = some c → isBlank c = false) : trimStart (u ++ m) = m := by
  unfold trimStart
  rw [List.dropWhile_append_of_pos hu]
  cases m with
  | nil => rfl
  | cons c m => rw [List.dropWhile_cons_of_neg (Bool.eq_false_iff.1 (hm c rfl))]

theorem trimStart_append_cons {sep : Char} (hsep : isBlank sep = false) (a b : List Char) :
    trimStart (a ++ sep :: b) = trimStart a ++ sep :: b := by
  unfold trimStart
  rw [List.dropWhile_append]
  split
  · next ha =>
    rw [List.isEmpty_iff.1 ha, List.dropWhile_cons, hsep]
    rfl
  · rfl

theorem trimEnd_append_cons {sep : Char} (hsep : isBlank sep = false) (a b : List Char) :
    trimEnd (a ++ sep :: b) = a ++ sep :: trimEnd b := by
  unfold trimEnd dropEndWhile
  have h := trimStart_append_cons hsep b.reverse a.reverse
  unfold trimStart at h
  rw [List.reverse_append, List.reverse_cons, List.append_assoc, List.singleton_append, h]
  simp

theorem trim_append_cons {sep : Char} (hsep : isBlank sep = false) (a b : List Char) :
    trim (a ++ sep :: b) = trimStart a ++ sep :: trimEnd b := by
  unfold trim
  rw [trimStart_append_cons hsep, trimEnd_append_cons hsep]

theorem trim_trim (cs : List Char) : trim (trim cs) = trim cs := by
  obtain ⟨u, w, hcs, hu, hw⟩ := exists_trim cs
  have htrim : trim (u ++ trim cs ++ w) = trim (trim cs) := by
    rw [trim_append_blank hw, trim_blank_append hu]
  rw [← hcs] at htrim
  exact htrim.symm

end

section
variable {sep : Char} (hsep : isBlank sep = false)

include hsep

theorem ne_of_isBlank {c : Char} (hc : isBlank c = true) : c ≠ sep := by
  rintro rfl
  rw [hsep] at hc
  cases hc

theorem takeWhile_blank_append {u : List Char} (hu : ∀ c ∈ u, isBlank c = true) (m : List Char) :
    (u ++ m).takeWhile (· != sep) = u ++ m.takeWhile (· != sep) :=
  List.takeWhile_append_of_pos fun c hc => bne_iff_ne.2 (ne_of_isBlank hsep (hu c hc))

theorem dropWhile_blank_append {u : List Char} (hu : ∀ c ∈ u, isBlank c = true) (m : List Char) :
    (u ++ m).dropWhile (· != sep) = m.dropWhile (· != sep) :=
  List.dropWhile_append_of_pos fun c hc => bne_iff_ne.2 (ne_of_isBlank hsep (hu c hc))

theorem trim_takeWhile (cs : List Char) :
    trim (cs.takeWhile (· != sep)) = trim ((trim cs).takeWhile (· != sep)) := by
  obtain ⟨u, w, hcs, hu, hw⟩ := exists_trim cs
  have hall : ∀ c ∈ w.takeWhile (· != sep), isBlank c = true :=
    fun c hc => hw c ((List.takeWhile_sublist _).subset hc)
  have hfront : trim (cs.takeWhile (· != sep)) = trim ((trim cs ++ w).takeWhile (· != sep)) := by
    rw [← trim_blank_append hu ((trim cs ++ w).takeWhile _), ← takeWhile_blank_append hsep hu,
      ← List.append_assoc, ← hcs]
  rw [hfront, List.takeWhile_append]
  split
  · next hlength =>
    rw [(List.takeWhile_sublist _).eq_of_length hlength, trim_append_blank hall]
  · rfl

theorem trim_dropWhile (cs : List Char) :
    trim ((cs.dropWhile (· != sep)).drop 1) = trim (((trim cs).dropWhile (· != sep)).drop 1) := by
  obtain ⟨u, w, hcs, hu, hw⟩ := exists_trim cs
  have hfront : cs.dropWhile (· != sep) = (trim cs ++ w).dropWhile (· != sep) := by
    rw [← dropWhile_blank_append hsep hu (trim cs ++ w), ← List.append_assoc, ← hcs]
  rw [hfront, List.dropWhile_append]
  split
  · next hnone =>
    have hblank : w.dropWhile (· != sep) = [] :=
      List.dropWhile_eq_nil_iff.2 fun c hc => bne_iff_ne.2 (ne_of_isBlank hsep (hw c hc))
    rw [List.isEmpty_iff.1 hnone, hblank]
  · next hsome =>
    rw [List.isEmpty_iff] at hsome
    have hpos : 1 ≤ ((trim cs).dropWhile (· != sep)).length := List.length_pos_iff.2 hsome
    rw [List.drop_append_of_le_length hpos, trim_append_blank hw]

end

theorem cutFirst?_eq (sep : Char) (cs : List Char) : cutFirst? sep cs =
    if sep ∈ cs then some (cs.takeWhile (· != sep), (cs.dropWhile (· != sep)).drop 1)
    else none := by
  induction cs with
  | nil => rfl
  | cons c cs ih =>
    rw [cutFirst?, ih]
    by_cases hc : c = sep
    · subst hc
      simp
    · have hc' : ¬sep = c := fun h => hc h.symm
      by_cases hmem : sep ∈ cs <;> simp [hc, hc', hmem]

theorem trim_cases (cs : List Char) :
    trimStart cs = trim cs ∨ (trim cs).length < (trimStart cs).length := by
  obtain ⟨w, hw, _⟩ := exists_dropEndWhile isBlank (trimStart cs)
  change trimStart cs = trim cs ++ w at hw
  cases w with
  | nil => exact .inl (hw.trans (List.append_nil _))
  | cons c w =>
    right
    rw [hw]
    simp

theorem trim_of_blank {cs : List Char} (h : ∀ c ∈ cs, isBlank c = true) : trim cs = [] := by
  rw [← List.append_nil cs, trim_blank_append h]
  rfl

theorem trim_of_ends {cs : List Char} {a b : Char} (hfirst : cs.head? = some a)
    (ha : isBlank a = false) (hlast : cs.getLast? = some b) (hb : isBlank b = false) :
    trim cs = cs := by
  have hstart : trimStart cs = cs := by
    obtain ⟨r, rfl⟩ := List.head?_eq_some_iff.1 hfirst
    rw [trimStart, List.dropWhile_cons, ha]
    rfl
  rw [trim, hstart]
  exact dropEndWhile_of_getLast? hlast hb

theorem trim_trimStart (cs : List Char) : trim (trimStart cs) = trim cs := by
  unfold trim trimStart
  rw [List.dropWhile_idempotent]

end Chars

namespace Text
variable {s : String}

theorem trim_eq_or_length_lt (s : String) :
    trim s = s ∨ (trim s).toList.length < s.toList.length := by
  obtain ⟨u, w, hs, _, _⟩ := Chars.exists_trim s.toList
  rw [← trim_toList] at hs
  have hlength := congrArg List.length hs
  simp only [List.length_append] at hlength
  by_cases hall : s.toList.length = (trim s).toList.length
  · left
    have hu : u = [] := List.length_eq_zero_iff.1 (by omega)
    have hw : w = [] := List.length_eq_zero_iff.1 (by omega)
    rw [hu, hw, List.nil_append, List.append_nil] at hs
    exact String.toList_inj.1 hs.symm
  · right
    omega

theorem trim_trim (s : String) : trim (trim s) = trim s := by
  rw [← String.toList_inj, trim_toList, trim_toList, Chars.trim_trim]

theorem trim_of_notBlank (h : ∀ c ∈ s.toList, Chars.isBlank c = false) : trim s = s := by
  rw [← String.toList_inj, trim_toList, Chars.trim_of_notBlank h]

theorem trim_of_isBlank (h : isBlank s = true) : trim s = "" := by
  rw [← String.toList_inj, trim_toList, Chars.trim_of_blank (List.all_eq_true.1 h)]
  rfl

end Text

end ReverseProxy
