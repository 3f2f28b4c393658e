import ReverseProxy.Config.Validation
import ReverseProxy.Proofs.Text.Case
import ReverseProxy.Proofs.Text.Cut
import ReverseProxy.Proofs.Text.Decimal

set_option autoImplicit false

namespace ReverseProxy

namespace Chars

def hostOf (cs : List Char) : List Char :=
  let h := trim cs
  if h.head? = some '[' then ((cutFirst? ']' h.tail).map Prod.fst).getD h
  else
    match cutLast? ':' h with
    | some (name, port) => if port.all Char.isDigit then name else h
    | none => h

theorem hostOf_toList (s : String) : (Pool.Domain.hostOf s).toList = hostOf s.toList := by
  unfold Pool.Domain.hostOf hostOf Text.cutLast?
  simp only [Text.trim_toList]
  split
  · next r hr =>
    rw [hr]
    cases hcut : cutFirst? ']' r with
    | none => simp [hcut, Text.trim_toList, hr]
    | some parts => simp [hcut]
  · next hr =>
    have hhead : (trim s.toList).head? ≠ some '[' := by
      cases h : trim s.toList with
      | nil => simp
      | cons c r =>
        rintro heq
        cases heq
        exact hr r h
    rw [if_neg hhead]
    cases hcut : cutLast? ':' (trim s.toList) with
    | none => simp [Text.trim_toList]
    | some parts =>
      obtain ⟨name, port⟩ := parts
      simp only [Option.map_some, String.toList_ofList]
      split <;> simp [Text.trim_toList]

theorem head?_lower_trim (cs : List Char) :
    (trim (lower cs)).head? = some '[' ↔ (trim cs).head? = some '[' := by
  rw [lower_trim, lower, List.head?_map]
  cases (trim cs).head? with
  | none => simp
  | some c =>
    simp only [Option.map_some, Option.some.injEq]
    exact toLower_eq_iff (by decide) c

theorem lower_hostOf (cs : List Char) : hostOf (lower cs) = lower (hostOf cs) := by
  have hdigit : Char.isDigit ∘ Char.toLower = Char.isDigit := funext isDigit_toLower
  unfold hostOf
  simp only [head?_lower_trim]
  split
  · rw [lower_trim]
    have htail : (lower (trim cs)).tail = lower (trim cs).tail := by simp [lower]
    rw [htail, lower_cutFirst? (by decide)]
    cases cutFirst? ']' (trim cs).tail <;> rfl
  · rw [lower_trim, lower_cutLast? (by decide)]
    cases cutLast? ':' (trim cs) with
    | none => rfl
    | some parts =>
      obtain ⟨name, port⟩ := parts
      simp only [Option.map_some, lower, List.all_map, hdigit]
      split <;> rfl

theorem hostOf_cases (cs : List Char) :
    hostOf cs = trim cs ∨ (hostOf cs).length < (trim cs).length := by
  unfold hostOf
  dsimp only
  split
  · next hhead =>
    cases hcut : cutFirst? ']' (trim cs).tail with
    | none => exact .inl rfl
    | some parts =>
      obtain ⟨inside, rest⟩ := parts
      right
      have htail := ((cutFirst?_eq_some_iff _ _ _ _).1 hcut).1
      have hlength := congrArg List.length htail
      simp only [List.length_tail, List.length_append, List.length_cons] at hlength
      simp only [Option.map_some, Option.getD_some]
      omega
  · cases hcut : cutLast? ':' (trim cs) with
    | none => exact .inl rfl
    | some parts =>
      obtain ⟨name, port⟩ := parts
      have hlength := congrArg List.length ((cutLast?_eq_some_iff _ _ _ _).1 hcut).1
      simp only [List.length_append, List.length_cons] at hlength
      dsimp only
      split
      · right
        omega
      · exact .inl rfl

theorem hostOf_subset (cs : List Char) : hostOf cs ⊆ cs := by
  refine List.Subset.trans ?_ (trim_subset cs)
  unfold hostOf
  dsimp only
  split
  · cases hcut : cutFirst? ']' (trim cs).tail with
    | none => exact List.Subset.refl _
    | some parts =>
      have htail := ((cutFirst?_eq_some_iff _ _ _ _).1 hcut).1
      refine List.Subset.trans ?_ (List.tail_sublist _).subset
      rw [htail]
      exact List.subset_append_left _ _
  · cases hcut : cutLast? ':' (trim cs) with
    | none => exact List.Subset.refl _
    | some parts =>
      have hwhole := ((cutLast?_eq_some_iff _ _ _ _).1 hcut).1
      dsimp only
      split
      · exact hwhole ▸ List.subset_append_left _ _
      · exact List.Subset.refl _

theorem head?_of_cons_append {c : Char} {y a b : List Char} (h : c :: (y ++ a) = y ++ b) :
    b.head? = some c := by
  induction y with
  | nil =>
    rw [← List.nil_append b, ← h]
    rfl
  | cons d y ih =>
    obtain ⟨rfl, h⟩ := List.cons.inj h
    exact ih h

/-- What is taken for the host of a name with a port behind it is the name, unless the name begins
with a bracket or ends with blanks or the port is no number. -/
theorem hostOf_port_iff {name port : List Char} (hport : ':' ∉ port) :
    hostOf (name ++ ':' :: port) = trim name ↔ trimStart name = trim name ∧
      (trim name).head? ≠ some '[' ∧ (trimEnd port).all Char.isDigit = true := by
  have hcolon : isBlank ':' = false := by decide
  have hbehind : ':' ∉ trimEnd port := fun h => hport (dropEndWhile_subset _ _ h)
  obtain ⟨w, hname, hw⟩ := exists_dropEndWhile isBlank (trimStart name)
  change trimStart name = trim name ++ w at hname
  have hlonger : trimStart name ++ ':' :: trimEnd port ≠ trim name := fun heq => by
    have hlength := congrArg List.length heq
    rw [hname] at hlength
    simp at hlength
  unfold hostOf
  simp only [trim_append_cons hcolon]
  by_cases hhead : (trimStart name).head? = some '['
  · obtain ⟨rest, hrest⟩ := List.head?_eq_some_iff.1 hhead
    rw [if_pos (by rw [hrest]; rfl)]
    refine iff_of_false (fun heq => ?_) fun ⟨hstart, hnone, _⟩ => hnone (hstart ▸ hhead)
    cases hcut : cutFirst? ']' (trimStart name ++ ':' :: trimEnd port).tail with
    | none =>
      rw [hcut] at heq
      exact hlonger heq
    | some parts =>
      obtain ⟨inside, behind⟩ := parts
      obtain rfl : inside = trim name := by simpa [hcut] using heq
      have hinside := ((cutFirst?_eq_some_iff _ _ _ _).1 hcut).1
      -- The name would repeat its bracket to its end, where a blank or the colon stands.
      have hrepeats : '[' :: (trim name ++ ']' :: behind) =
          trim name ++ (w ++ ':' :: trimEnd port) := by
        rw [← hinside, ← List.append_assoc, ← hname, hrest]
        rfl
      have hnext := head?_of_cons_append hrepeats
      cases w with
      | nil => simp at hnext
      | cons c w =>
        obtain rfl : c = '[' := by simpa using hnext
        exact absurd (hw _ List.mem_cons_self) (by decide)
  · have hnone : (trimStart name ++ ':' :: trimEnd port).head? ≠ some '[' := by
      cases hstart : trimStart name with
      | nil => simp
      | cons c rest =>
        rw [hstart] at hhead
        exact hhead
    rw [if_neg hnone, (cutLast?_eq_some_iff _ _ _ _).2 ⟨rfl, hbehind⟩]
    dsimp only
    split
    · next hdigits =>
      exact ⟨fun heq => ⟨heq, heq ▸ hhead, hdigits⟩, fun h => h.1⟩
    · next hdigits => exact iff_of_false hlonger fun h => hdigits h.2.2

def IsName (cs : List Char) : Prop :=
  cs ≠ [] ∧ ∀ c ∈ cs, isBlank c = false ∧ c ∉ [':', '[', ']']

instance (cs : List Char) : Decidable (IsName cs) :=
  @instDecidableAnd _ _ _ (List.decidableBAll _ cs)

def IsLiteral (cs : List Char) : Prop :=
  ':' ∈ cs ∧ ∀ c ∈ cs, isBlank c = false ∧ c ∉ ['[', ']']

def IsPort (cs : List Char) : Prop :=
  cs = [] ∨ ∃ digits, cs = ':' :: digits ∧ ∀ c ∈ digits, c.isDigit = true

theorem IsPort.notBlank {cs : List Char} (h : IsPort cs) : ∀ c ∈ cs, isBlank c = false := by
  rcases h with rfl | ⟨digits, rfl, hdigits⟩
  · nofun
  · intro c hc
    rcases List.mem_cons.1 hc with rfl | hc
    · decide
    · exact isBlank_of_isDigit (hdigits c hc)

section
variable {cs port : List Char}

theorem IsName.head?_ne (h : IsName cs) : cs.head? ≠ some '[' := fun hhead =>
  (h.2 '[' (List.mem_of_head? hhead)).2 (by decide)

theorem hostOf_name (h : IsName cs) (hport : IsPort port) : hostOf (cs ++ port) = cs := by
  have hblank : ∀ c ∈ cs, isBlank c = false := fun c hc => (h.2 c hc).1
  have htrim : trim cs = cs := trim_of_notBlank hblank
  rcases hport with rfl | ⟨digits, rfl, hdigits⟩
  · have hcolon : ':' ∉ cs := fun hmem => (h.2 ':' hmem).2 (by decide)
    unfold hostOf
    rw [List.append_nil, htrim, if_neg h.head?_ne, (cutLast?_eq_none_iff _ _).2 hcolon]
  · have hcolon : ':' ∉ digits := fun hmem => absurd (hdigits _ hmem) (by decide)
    refine Eq.trans ((hostOf_port_iff hcolon).2 ⟨?_, ?_, ?_⟩) htrim
    · rw [trimStart_of_notBlank hblank, htrim]
    · rw [htrim]
      exact h.head?_ne
    · exact List.all_eq_true.2 fun c hc => hdigits c (dropEndWhile_subset _ _ hc)

theorem hostOf_literal (h : IsLiteral cs) (hport : IsPort port) :
    hostOf ('[' :: (cs ++ ']' :: port)) = cs := by
  have hblank : ∀ c ∈ '[' :: (cs ++ ']' :: port), isBlank c = false := by
    intro c hc
    simp only [List.mem_cons, List.mem_append] at hc
    rcases hc with rfl | hc | rfl | hc
    · decide
    · exact (h.2 c hc).1
    · decide
    · exact hport.notBlank c hc
  have hclosing : ']' ∉ cs := fun hmem => (h.2 _ hmem).2 (by decide)
  unfold hostOf
  rw [trim_of_notBlank hblank, if_pos (by rfl), List.tail_cons,
    (cutFirst?_eq_some_iff _ _ _ _).2 ⟨rfl, hclosing⟩]
  rfl

end

end Chars

namespace Pool.Domain

/-- A host as a request names it, without its port. -/
inductive IsHost : String → Prop where
  | name {h : String} : Chars.IsName h.toList → IsHost h
  | literal {v : String} : Chars.IsLiteral v.toList → IsHost ("[" ++ v ++ "]")

section
variable {h d s v port : String}

theorem toList_literal (v port : String) :
    ("[" ++ v ++ "]" ++ port).toList = '[' :: (v.toList ++ ']' :: port.toList) := by
  simp only [String.toList_append, List.append_assoc]
  rfl

theorem IsHost.notBlank (hh : IsHost h) : ∀ c ∈ h.toList, Chars.isBlank c = false := by
  cases hh with
  | name hname => exact fun c hc => (hname.2 c hc).1
  | @literal v hv =>
    intro c hc
    rw [← String.append_empty (s := "[" ++ v ++ "]"), toList_literal] at hc
    simp only [List.mem_cons, List.mem_append, String.toList_empty, List.not_mem_nil,
      or_false] at hc
    rcases hc with rfl | hc | rfl
    · decide
    · exact (hv.2 c hc).1
    · decide

theorem parse_exact (hd : IsHost d) (hany : d ≠ anyDomain)
    (hsuffix : Text.hasStart "*." d = false) : parse d = .exact (Text.lower d) := by
  have hany' : Text.lower d ≠ anyDomain := by
    rw [ne_eq, ← String.toList_inj, Text.lower_toList, Chars.lower_eq_iff (by decide),
      String.toList_inj]
    exact hany
  have hsuffix' : Text.stripStart? "*." (Text.lower d) = none := by
    rw [Text.stripStart?, Option.map_eq_none_iff, Option.eq_none_iff_forall_ne_some]
    intro r hr
    rw [Chars.stripStart?_eq_some_iff, Text.lower_toList,
      Chars.lower_eq_append_iff (by decide)] at hr
    obtain ⟨rest, hrest, _⟩ := hr
    rw [Text.hasStart, (Chars.stripStart?_eq_some_iff _ _ _).2 hrest] at hsuffix
    cases hsuffix
  unfold parse
  rw [Text.trim_of_notBlank hd.notBlank, if_neg hany', hsuffix']

theorem parse_suffix (hs : Chars.IsName s.toList) :
    parse ("*." ++ s) = .suffix (Text.lower s) := by
  have hblank : ∀ c ∈ ("*." ++ s).toList, Chars.isBlank c = false := by
    rw [String.toList_append]
    intro c hc
    rcases List.mem_append.1 hc with hc | hc
    · have hstar : "*.".toList.all (fun c => !Chars.isBlank c) = true := by decide
      simpa using List.all_eq_true.1 hstar c hc
    · exact (hs.2 c hc).1
  have hlower : (Text.lower ("*." ++ s)).toList = "*.".toList ++ (Text.lower s).toList := by
    rw [Text.lower_toList, String.toList_append, Chars.lower_append, Text.lower_toList]
    rfl
  have hany : Text.lower ("*." ++ s) ≠ anyDomain := by
    rw [ne_eq, ← String.toList_inj, hlower]
    simp [anyDomain]
  unfold parse
  rw [Text.trim_of_notBlank hblank, if_neg hany, Text.stripStart?,
    (Chars.stripStart?_eq_some_iff _ _ _).2 hlower]
  simp

theorem hostOf_name (hname : Chars.IsName h.toList) (hport : Chars.IsPort port.toList) :
    hostOf (h ++ port) = h := by
  rw [← String.toList_inj, Chars.hostOf_toList, String.toList_append,
    Chars.hostOf_name hname hport]

theorem hostOf_literal (hv : Chars.IsLiteral v.toList) (hport : Chars.IsPort port.toList) :
    hostOf ("[" ++ v ++ "]" ++ port) = v := by
  rw [← String.toList_inj, Chars.hostOf_toList, toList_literal, Chars.hostOf_literal hv hport]

theorem covers_suffix (s host : String) :
    (Domain.suffix s).covers host = true ↔ host = s ∨ ∃ front, host = front ++ "." ++ s := by
  rw [covers, Bool.or_eq_true, beq_iff_eq, Text.hasEnd_iff]
  simp only [String.append_assoc]

theorem lower_name_ne (hname : Chars.IsName s.toList) {c : Char} (hc : c ∈ [':', '[', ']'])
    {t : String} (ht : c ∈ t.toList) : Text.lower t ≠ Text.lower s := by
  intro heq
  have hletter : Chars.Letterless [':', '[', ']'] := by decide
  have hmem := (Text.mem_lower (hletter c hc)).2 ht
  rw [heq, Text.mem_lower (hletter c hc)] at hmem
  exact (hname.2 c hmem).2 hc

theorem mem_literal (v : String) : '[' ∈ ("[" ++ v ++ "]").toList := by
  rw [← String.append_empty (s := "[" ++ v ++ "]"), toList_literal]
  exact List.mem_cons_self

theorem literal_inj {w : String} : "[" ++ v ++ "]" = "[" ++ w ++ "]" ↔ v = w := by
  refine ⟨fun heq => ?_, fun heq => heq ▸ rfl⟩
  have hlist := congrArg String.toList heq
  simp only [String.toList_append] at hlist
  exact String.toList_inj.1 (List.append_cancel_left (List.append_cancel_right hlist))

/-- An address in brackets does not end like a name. -/
theorem literal_ne_below (hs : Chars.IsName s.toList) (v front : String) :
    Text.lower ("[" ++ v ++ "]") ≠ front ++ "." ++ Text.lower s := by
  intro heq
  have hlast := congrArg (fun t : String => t.toList.getLast?) heq
  have hne : (Text.lower s).toList ≠ [] := by
    rw [Text.lower_toList]
    simpa [Chars.lower] using hs.1
  have hclosing : (Text.lower ("[" ++ v ++ "]")).toList.getLast? = some ']' := by
    rw [Text.lower_toList, String.toList_append, Chars.lower_append]
    exact List.getLast?_concat
  rw [hclosing, String.toList_append, List.getLast?_append, List.getLast?_eq_some_getLast hne,
    Option.some_or] at hlast
  have hmem := Option.some.inj hlast ▸ List.getLast_mem hne
  rw [Text.mem_lower (by decide)] at hmem
  exact (hs.2 _ hmem).2 (by decide)

end

/-- Let a request name a host, in any case, with or without a port in digits. A domain without a
wildcard serves it exactly if it is this name; it never serves an address in brackets. A wildcard in
front of a name serves the name and whatever ends in it behind a dot, and an address in brackets if
what they hold ends so. The wildcard alone serves everything. -/
theorem serves_of_host {h port : String} (hh : IsHost h) (hport : Chars.IsPort port.toList) :
    (∀ d, IsHost d → d ≠ anyDomain → Text.hasStart "*." d = false →
      ((parse d).serves (h ++ port) = true ↔
        Text.lower h = Text.lower d ∧ Chars.IsName h.toList)) ∧
    (∀ s, Chars.IsName s.toList →
      ((parse ("*." ++ s)).serves (h ++ port) = true ↔
        Text.lower h = Text.lower s ∨ (∃ front, Text.lower h = front ++ "." ++ Text.lower s) ∨
        ∃ v front, h = "[" ++ v ++ "]" ∧ Text.lower v = front ++ "." ++ Text.lower s)) ∧
    (parse anyDomain).serves (h ++ port) = true := by
  refine ⟨fun d hd hany hsuffix => ?_, fun s hs => ?_, rfl⟩
  · rw [serves, parse_exact hd hany hsuffix, covers, beq_iff_eq]
    cases hh with
    | name hname =>
      rw [hostOf_name hname hport]
      exact (and_iff_left hname).symm
    | @literal v hv =>
      rw [hostOf_literal hv hport]
      refine iff_of_false (fun heq => ?_) fun ⟨_, hname⟩ =>
        (hname.2 '[' (mem_literal v)).2 (by decide)
      cases hd with
      | name hname => exact lower_name_ne hname (by decide) hv.1 heq
      | @literal w _ =>
        have hopening : '[' ∈ (Text.lower _).toList :=
          (Text.mem_lower (by decide)).2 (mem_literal w)
        rw [← heq, Text.mem_lower (by decide)] at hopening
        exact (hv.2 _ hopening).2 (by decide)
  · rw [serves, parse_suffix hs, covers_suffix]
    cases hh with
    | name hname =>
      rw [hostOf_name hname hport]
      refine or_congr_right ⟨.inl, fun hends => hends.elim id ?_⟩
      rintro ⟨v, _, rfl, _⟩
      exact absurd (by decide) (hname.2 '[' (mem_literal v)).2
    | @literal v hv =>
      rw [hostOf_literal hv hport]
      have hcolon : Text.lower v ≠ Text.lower s := lower_name_ne hs (by decide) hv.1
      have hopening : Text.lower ("[" ++ v ++ "]") ≠ Text.lower s :=
        lower_name_ne hs (by decide) (mem_literal v)
      have hend : ¬∃ front, Text.lower ("[" ++ v ++ "]") = front ++ "." ++ Text.lower s :=
        fun ⟨front, heq⟩ => literal_ne_below hs v front heq
      rw [or_iff_right hcolon, or_iff_right hopening, or_iff_right hend]
      constructor
      · rintro ⟨front, hfront⟩
        exact ⟨v, front, rfl, hfront⟩
      · rintro ⟨w, front, heq, hfront⟩
        exact ⟨front, literal_inj.1 heq ▸ hfront⟩

theorem serves_of_host_port :
    (parse "Static.LOCAL").serves "static.Local:80" = true ∧
      (parse "*.Example.com").serves "a.b.EXAMPLE.com:8443" = true := by
  have hport : Chars.IsPort ":80".toList :=
    .inr ⟨['8', '0'], by decide, List.all_eq_true.1 (by decide)⟩
  have hsecure : Chars.IsPort ":8443".toList :=
    .inr ⟨['8', '4', '4', '3'], by decide, List.all_eq_true.1 (by decide)⟩
  have hname : IsHost "static.Local" := .name (by decide)
  obtain ⟨hexact, _⟩ := serves_of_host hname hport
  obtain ⟨_, hbelow, _⟩ := serves_of_host (h := "a.b.EXAMPLE.com") (.name (by decide)) hsecure
  exact ⟨(hexact "Static.LOCAL" (.name (by decide)) (by decide) (by decide)).2
      ⟨by decide, by decide⟩,
    (hbelow "Example.com" (by decide)).2 (.inr (.inl ⟨"a.b", by decide⟩))⟩

/-- With an address in brackets for its domain, which is accepted, a pool serves no request for that
address, and a wildcard for the end of an address serves what brackets hold. -/
theorem brackets_hide_address :
    ({ pools := [{ id := "six", domain := "[::1]" }] } : Config).Valid ∧
      (parse "[::1]").serves "[::1]" = false ∧ (parse "[::1]").serves "[::1]:8080" = false ∧
      (parse "*.3.4").serves "[::ffff:1.2.3.4]" = true := by
  decide +kernel

end Pool.Domain

end ReverseProxy
