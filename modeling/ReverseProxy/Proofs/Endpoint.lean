import ReverseProxy.Endpoint
import ReverseProxy.Proofs.Text.Case
import ReverseProxy.Proofs.Text.Cut
import ReverseProxy.Proofs.Text.Decimal

set_option autoImplicit false

namespace ReverseProxy.Endpoint

section
variable {s inside : String}

theorem unbracket_brackets (inside : String) : unbracket ("[" ++ inside ++ "]") = inside := by
  have hstart : Text.stripStart? "[" ("[" ++ inside ++ "]") = some (inside ++ "]") :=
    (Text.stripStart?_eq_some_iff _ _ _).2 String.append_assoc
  have hend : Text.stripEnd? "]" (inside ++ "]") = some inside :=
    (Text.stripEnd?_eq_some_iff _ _ _).2 rfl
  rw [unbracket, hstart, Option.bind_some, hend, Option.getD_some]

theorem unbracket_of_bare (h : ∀ inside, s ≠ "[" ++ inside ++ "]") : unbracket s = s := by
  unfold unbracket
  cases hstart : Text.stripStart? "[" s with
  | none => rfl
  | some r =>
    cases hend : Text.stripEnd? "]" r with
    | none => rw [Option.bind_some, hend, Option.getD_none]
    | some inside =>
      have hr := (Text.stripEnd?_eq_some_iff _ _ _).1 hend
      refine absurd ((Text.stripStart?_eq_some_iff _ _ _).1 hstart) ?_
      rw [hr, ← String.append_assoc]
      exact h inside

theorem unbracket_eq_or_length_lt (s : String) :
    unbracket s = s ∨ (unbracket s).toList.length < s.toList.length := by
  by_cases h : ∃ inside, s = "[" ++ inside ++ "]"
  · obtain ⟨inside, rfl⟩ := h
    have hone : "[".toList.length = 1 := rfl
    right
    rw [unbracket_brackets, String.toList_append, String.toList_append, List.length_append,
      List.length_append]
    omega
  · exact .inl (unbracket_of_bare fun inside heq => h ⟨inside, heq⟩)

theorem unbracket_trim_eq_or_length_lt (s : String) : unbracket (Text.trim s) = s ∨
    (unbracket (Text.trim s)).toList.length < s.toList.length := by
  rcases Text.trim_eq_or_length_lt s with htrim | htrim
  · rw [htrim]
    exact unbracket_eq_or_length_lt s
  · right
    rcases unbracket_eq_or_length_lt (Text.trim s) with hbare | hbare
    · rwa [hbare]
    · omega

theorem unbracket_trim_eq_iff (s : String) : unbracket (Text.trim s) = s ↔
    Text.trim s = s ∧ ∀ inside, s ≠ "[" ++ inside ++ "]" := by
  constructor
  · intro h
    rcases Text.trim_eq_or_length_lt s with htrim | htrim
    · refine ⟨htrim, ?_⟩
      rintro inside rfl
      rw [htrim, unbracket_brackets] at h
      have hone : "[".toList.length = 1 := rfl
      have hlength := congrArg (fun t : String => t.toList.length) h
      simp only [String.toList_append, List.length_append] at hlength
      omega
    · have hlength := congrArg (fun t : String => t.toList.length) h
      rcases unbracket_eq_or_length_lt (Text.trim s) with hbare | hbare
      · rw [hbare] at hlength
        omega
      · omega
  · rintro ⟨htrim, hbare⟩
    rw [htrim, unbracket_of_bare hbare]

theorem trim_brackets (inside : String) :
    Text.trim ("[" ++ inside ++ "]") = "[" ++ inside ++ "]" := by
  have hlist : ("[" ++ inside ++ "]").toList = '[' :: (inside.toList ++ [']']) := by
    rw [String.toList_append, String.toList_append, List.append_assoc]
    rfl
  rw [← String.toList_inj, Text.trim_toList, hlist]
  exact Chars.trim_of_ends (a := '[') (b := ']') rfl (by decide)
    (List.getLast?_concat (l := '[' :: inside.toList)) (by decide)

end

/-- A host that is read as it is written. -/
def Lasting (host : String) : Prop :=
  ':' ∈ host.toList ∨ Text.trim host = host ∧ ∀ inside, host ≠ "[" ++ inside ++ "]"

theorem exists_brackets_of_lower {s inside : String} (h : Text.lower s = "[" ++ inside ++ "]") :
    ∃ other, s = "[" ++ other ++ "]" := by
  have hlist := congrArg String.toList h
  rw [Text.lower_toList, String.toList_append, String.toList_append, List.append_assoc,
    Chars.lower_eq_append_iff (by decide)] at hlist
  obtain ⟨rest, hs, hrest⟩ := hlist
  obtain ⟨other, closing, rfl, _, hclosing⟩ := List.map_eq_append_iff.1 hrest
  rw [(Chars.lower_eq_iff (by decide) closing).1 hclosing, ← List.append_assoc] at hs
  refine ⟨String.ofList other, String.toList_inj.1 (hs.trans ?_)⟩
  rw [String.toList_append, String.toList_append, String.toList_ofList (l := other)]

section
variable {host : String} {port : Int} {e : Endpoint}

theorem new_eq_ok (h : new host port = .ok e) : unbracket (Text.trim host) ≠ "" ∧
    e.host = Text.lower (unbracket (Text.trim host)) := by
  unfold new at h
  dsimp only at h
  by_cases hblank : unbracket (Text.trim host) = ""
  · rw [if_pos hblank] at h
    cases h
  rw [if_neg hblank] at h
  by_cases hrange : 0 ≤ port ∧ port ≤ 65535
  · rw [if_pos hrange] at h
    exact ⟨hblank, (congrArg Endpoint.host (Except.ok.inj h)).symm⟩
  · rw [if_neg hrange] at h
    cases h

theorem new_port (p : UInt16) : new host p.toNat =
    if unbracket (Text.trim host) = "" then .error .blankHost
    else .ok ⟨Text.lower (unbracket (Text.trim host)), p⟩ := by
  have hrange : (0 : Int) ≤ p.toNat ∧ (p.toNat : Int) ≤ 65535 := by
    have hlt := p.toNat_lt
    omega
  have hport : (p.toNat : Int).toNat.toUInt16 = p := by simp
  unfold new
  dsimp only
  rw [if_pos hrange, hport]

theorem new_trim {other : String} (h : Text.trim host = Text.trim other) :
    new host port = new other port := by
  unfold new
  rw [h]

theorem parse_eq_ok {s : String} (h : parse s = .ok e) :
    ∃ host port, new host port = .ok e ∧ host.toList ⊆ s.toList := by
  unfold parse at h
  dsimp only at h
  generalize hbare : (Text.stripStart? "http://" (Text.trim s)).getD (Text.trim s) = bare at h
  cases hcut : Text.cutLast? ':' (Text.trimEndOf '/' bare) with
  | none =>
    rw [hcut] at h
    cases h
  | some parts =>
  obtain ⟨host, digits⟩ := parts
  rw [hcut] at h
  dsimp only at h
  cases hport : Text.signed? (1 <<< 63) digits with
  | none =>
    rw [hport] at h
    cases h
  | some port =>
  rw [hport] at h
  refine ⟨host, port, h, fun c hc => ?_⟩
  obtain ⟨hsplit, _⟩ := (Text.cutLast?_eq_some_iff _ _ _ _).1 hcut
  have hmem : c ∈ (Text.trimEndOf '/' bare).toList := by
    rw [hsplit]
    exact List.mem_append_left _ hc
  rw [Text.trimEndOf, String.toList_ofList] at hmem
  have hbare_mem := Chars.dropEndWhile_subset _ _ hmem
  have htrim : c ∈ (Text.trim s).toList := by
    rw [← hbare] at hbare_mem
    cases hscheme : Text.stripStart? "http://" (Text.trim s) with
    | none => rwa [hscheme] at hbare_mem
    | some r =>
      rw [hscheme] at hbare_mem
      rw [(Text.stripStart?_eq_some_iff _ _ _).1 hscheme, String.toList_append]
      exact List.mem_append_right _ hbare_mem
  rw [Text.trim_toList] at htrim
  exact Chars.trim_subset _ htrim

theorem parse_append {n : Nat} (hn : n < 1 <<< 63)
    (hscheme : ∀ r, Chars.trimStart host.toList ++ ':' :: Nat.toDigits 10 n ≠
      "http://".toList ++ r) :
    parse (host ++ ":" ++ Text.ofNat n) = new host n := by
  have htrim : (Text.trim (host ++ ":" ++ Text.ofNat n)).toList =
      Chars.trimStart host.toList ++ ':' :: Nat.toDigits 10 n := by
    have hlist : (host ++ ":" ++ Text.ofNat n).toList =
        host.toList ++ ':' :: Nat.toDigits 10 n := by
      rw [String.toList_append, String.toList_append, List.append_assoc, Text.ofNat,
        String.toList_ofList (l := Nat.toDigits 10 n)]
      rfl
    rw [Text.trim_toList, hlist, Chars.trim_append_cons (by decide),
      Chars.trimEnd_of_notBlank Chars.isBlank_toDigits]
  have hbare : Text.stripStart? "http://" (Text.trim (host ++ ":" ++ Text.ofNat n)) = none := by
    rw [Text.stripStart?, Option.map_eq_none_iff, Option.eq_none_iff_forall_ne_some]
    intro r hr
    rw [Chars.stripStart?_eq_some_iff, htrim] at hr
    exact hscheme r hr
  have hslash : Text.trimEndOf '/' (Text.trim (host ++ ":" ++ Text.ofNat n)) =
      Text.trim (host ++ ":" ++ Text.ofNat n) := by
    obtain ⟨d, hd⟩ : ∃ d, (Nat.toDigits 10 n).getLast? = some d :=
      ⟨_, List.getLast?_eq_some_getLast Nat.toDigits_ne_nil⟩
    have hdigit := Chars.isDigit_toDigits d (List.mem_of_getLast? hd)
    have hne : (d == '/') = false := by
      rw [beq_eq_false_iff_ne]
      rintro rfl
      cases hdigit
    have hlast : (Chars.trimStart host.toList ++ ':' :: Nat.toDigits 10 n).getLast? = some d := by
      rw [List.getLast?_append, List.getLast?_cons, hd]
      rfl
    rw [Text.trimEndOf, htrim, Chars.dropEndWhile_of_getLast? (p := (· == '/')) hlast hne,
      ← htrim, String.ofList_toList]
  have hcut : Text.cutLast? ':' (Text.trim (host ++ ":" ++ Text.ofNat n)) =
      some (String.ofList (Chars.trimStart host.toList), Text.ofNat n) := by
    rw [Text.cutLast?_eq_some_iff, htrim, String.toList_ofList, Text.ofNat, String.toList_ofList]
    exact ⟨rfl, fun hmem => absurd (Chars.isDigit_toDigits _ hmem) (by decide)⟩
  have hport : Text.signed? (1 <<< 63) (Text.ofNat n) = some (n : Int) := by
    rw [Text.signed?, Text.ofNat, String.toList_ofList, Chars.signed?_toDigits hn]
  unfold parse
  simp only [hbare, Option.getD_none, hslash, hcut, hport]
  refine new_trim ?_
  rw [← String.toList_inj, Text.trim_toList, Text.trim_toList, String.toList_ofList,
    Chars.trim_trimStart]

def shown (host : String) : String := if ':' ∈ host.toList then "[" ++ host ++ "]" else host

theorem text_eq (e : Endpoint) : e.text = shown e.host ++ ":" ++ Text.ofNat e.port.toNat := by
  unfold text shown
  simp only [List.contains_iff_mem]
  split
  · have hclosing : "]:" = "]" ++ ":" := rfl
    rw [hclosing, ← String.append_assoc]
  · rfl

theorem parse_text (e : Endpoint) : parse e.text = new (shown e.host) e.port.toNat := by
  have hport : e.port.toNat < 1 <<< 63 := Nat.lt_of_lt_of_le e.port.toNat_lt (by decide)
  rw [text_eq]
  refine parse_append hport fun r heq => ?_
  unfold shown at heq
  split at heq
  · -- The text begins with a bracket.
    have hstart : Chars.trimStart ("[" ++ e.host ++ "]").toList =
        '[' :: (e.host.toList ++ [']']) := by
      rw [String.toList_append, String.toList_append, List.append_assoc]
      rfl
    rw [hstart] at heq
    cases (List.cons.inj heq).1
  · next hcolon =>
    -- Its only colon stands before the port, and no port begins with a slash.
    have hnone : ':' ∉ Chars.trimStart e.host.toList := fun hmem =>
      hcolon ((List.dropWhile_sublist _).subset hmem)
    have hport := (Chars.cutFirst?_eq_some_iff ':' _ _ (Nat.toDigits 10 e.port.toNat)).2
      ⟨rfl, hnone⟩
    have hscheme := (Chars.cutFirst?_eq_some_iff ':' ("http://".toList ++ r) "http".toList
      ('/' :: '/' :: r)).2 ⟨rfl, by decide⟩
    rw [heq, hscheme] at hport
    have hdigits : '/' :: '/' :: r = Nat.toDigits 10 e.port.toNat :=
      congrArg Prod.snd (Option.some.inj hport)
    have hslash := Chars.isDigit_toDigits '/' (hdigits ▸ List.mem_cons_self)
    cases hslash

theorem lasting_of_bare (h : new host port = .ok e)
    (hbare : ∀ inside, Text.trim host ≠ "[" ++ inside ++ "]") : Lasting e.host := by
  obtain ⟨_, hhost⟩ := new_eq_ok h
  rw [unbracket_of_bare hbare] at hhost
  right
  rw [hhost, Text.lower_trim, Text.trim_trim]
  refine ⟨rfl, fun inside heq => ?_⟩
  obtain ⟨other, hother⟩ := exists_brackets_of_lower heq
  exact hbare other hother

end

section
variable {host : String} {port : Int} {e : Endpoint}

theorem host_of_new (h : new host port = .ok e) : e.host ≠ "" ∧ Text.lower e.host = e.host := by
  obtain ⟨hne, hhost⟩ := new_eq_ok h
  rw [hhost, Text.lower_lower]
  refine ⟨fun heq => hne ?_, rfl⟩
  have hlist := congrArg String.toList heq
  rw [Text.lower_toList, String.toList_empty, Chars.lower, List.map_eq_nil_iff] at hlist
  exact String.toList_eq_nil_iff.1 hlist

theorem notBlank_of_lasting (hne : e.host ≠ "") (h : Lasting e.host) :
    Text.isBlank e.host = false := by
  rw [← Bool.not_eq_true]
  intro hblank
  rcases h with hcolon | ⟨htrim, _⟩
  · cases List.all_eq_true.1 hblank _ hcolon
  · exact hne (htrim.symm.trans (Text.trim_of_isBlank hblank))

end

section
variable {e : Endpoint} (hne : e.host ≠ "") (hlower : Text.lower e.host = e.host)

include hne hlower

theorem parse_text_iff : parse e.text = .ok e ↔ Lasting e.host := by
  rw [parse_text, new_port]
  by_cases hcolon : ':' ∈ e.host.toList
  · rw [shown, if_pos hcolon, trim_brackets, unbracket_brackets, if_neg hne, hlower]
    exact iff_of_true rfl (.inl hcolon)
  · have hlasting : Lasting e.host ↔ unbracket (Text.trim e.host) = e.host := by
      rw [unbracket_trim_eq_iff, Lasting, or_iff_right hcolon]
    rw [shown, if_neg hcolon, hlasting]
    constructor
    · intro h
      rcases unbracket_trim_eq_or_length_lt e.host with heq | hlt
      · exact heq
      by_cases hblank : unbracket (Text.trim e.host) = ""
      · rw [if_pos hblank] at h
        cases h
      rw [if_neg hblank] at h
      have hhost := congrArg Endpoint.host (Except.ok.inj h)
      have hlength := congrArg (fun t : String => t.toList.length) hhost
      simp only [Text.lower_toList, Chars.lower, List.length_map] at hlength
      omega
    · intro h
      rw [h, if_neg hne, hlower]

end

/-- Let an endpoint be made from a host and a port or read from a text. Its own text is read as the
same endpoint exactly if its host has a colon, or has neither blanks nor brackets around it; a host
like that is not blank, while the text of an endpoint with a blank host is refused. All hosts are
like that which were given without brackets around them. -/
theorem text_of_endpoint {e : Endpoint}
    (he : (∃ s, parse s = .ok e) ∨ ∃ host port, new host port = .ok e) :
    (parse e.text = .ok e ↔ Lasting e.host) ∧
    (Lasting e.host → Text.isBlank e.host = false) ∧
    (Text.isBlank e.host = true → parse e.text = .error .blankHost) ∧
    (∀ s, parse s = .ok e → '[' ∉ s.toList → Lasting e.host) ∧
    ∀ host port, new host port = .ok e → (∀ inside, Text.trim host ≠ "[" ++ inside ++ "]") →
      Lasting e.host := by
  obtain ⟨host, port, hnew⟩ : ∃ host port, new host port = .ok e := by
    rcases he with ⟨s, hs⟩ | he
    · obtain ⟨host, port, hnew, _⟩ := parse_eq_ok hs
      exact ⟨host, port, hnew⟩
    · exact he
  obtain ⟨hne, hlower⟩ := host_of_new hnew
  refine ⟨parse_text_iff hne hlower, notBlank_of_lasting hne, fun hblank => ?_, ?_,
    fun host port hnew hbare => lasting_of_bare hnew hbare⟩
  · have hcolon : ':' ∉ e.host.toList := fun hmem => by
      cases List.all_eq_true.1 hblank _ hmem
    rw [parse_text, new_port, shown, if_neg hcolon, Text.trim_of_isBlank hblank]
    rfl
  · intro s hs hnone
    obtain ⟨host, port, hnew, hsub⟩ := parse_eq_ok hs
    refine lasting_of_bare hnew fun inside heq => hnone (hsub ?_)
    have hmem : '[' ∈ (Text.trim host).toList := by
      rw [heq, String.toList_append, String.toList_append]
      exact List.mem_cons_self
    rw [Text.trim_toList] at hmem
    exact Chars.trim_subset _ hmem

theorem text_of_endpoint_address : parse "http://[FE80::1]:8080/" = .ok ⟨"fe80::1", 8080⟩ ∧
    parse (text ⟨"fe80::1", 8080⟩) = .ok ⟨"fe80::1", 8080⟩ := by
  have hread : parse "http://[FE80::1]:8080/" = .ok ⟨"fe80::1", 8080⟩ := by decide +kernel
  obtain ⟨hsame, _⟩ := text_of_endpoint (.inl ⟨_, hread⟩)
  exact ⟨hread, hsame.2 (.inl (by decide))⟩

/-- Blanks and a second pair of brackets are kept inside of brackets. The texts of such endpoints
are refused or name other endpoints. -/
theorem brackets_keep_blanks :
    parse "[ ]:80" = .ok ⟨" ", 80⟩ ∧ parse (text ⟨" ", 80⟩) = .error .blankHost ∧
      parse "[ a]:80" = .ok ⟨" a", 80⟩ ∧ parse (text ⟨" a", 80⟩) = .ok ⟨"a", 80⟩ ∧
      new "[[a]]" 80 = .ok ⟨"[a]", 80⟩ ∧ parse (text ⟨"[a]", 80⟩) = .ok ⟨"a", 80⟩ := by
  decide +kernel

end ReverseProxy.Endpoint
