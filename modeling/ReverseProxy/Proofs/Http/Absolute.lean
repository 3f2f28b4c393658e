import ReverseProxy.Proofs.Http.AuthorityHosts
import ReverseProxy.Routing.Decision

set_option autoImplicit false

namespace ReverseProxy.Http.Uri

def behindScheme? (scheme : String) (cs : List Char) : Except UriError Uri := do
  let (front, rest) ← splitAuthority cs
  if front.isEmpty then .error .invalidFormat
  else
    let (path, query) ← splitPathAndQuery rest
    .ok ⟨some scheme, some (String.ofList front), String.ofList path, query.map String.ofList⟩

/-- An absolute URI. The text may have any length, which is the only difference to `parse`. -/
def absolute? (cs : List Char) : Except UriError Uri := do
  match ← splitScheme cs with
  | none => .error .invalidFormat
  | some (scheme, behind) => behindScheme? scheme behind

def queryText : Option String → List Char
  | some q => '?' :: q.toList
  | none => []

def slashed (path : List Char) : List Char :=
  if path.head? = some '/' then path else '/' :: path

structure WellFormed (u : Uri) : Prop where
  path : ∀ c ∈ u.rawPath.toList, isPathChar c = true
  query : ∀ q, u.query = some q → ∀ c ∈ q.toList, isQueryChar c = true
  alone : u.scheme = none → u.authority.isSome → u.rawPath = "" ∧ u.query = none

section
variable {cs rest path : List Char} {query : Option (List Char)}

theorem isPathChar_ne {c : Char} (hc : isPathChar c = true) : c ≠ '?' ∧ c ≠ '#' := by
  constructor <;> rintro rfl <;> exact absurd hc (by decide)

theorem isQueryChar_ne {c : Char} (hc : isQueryChar c = true) : c ≠ '#' := by
  rintro rfl
  exact absurd hc (by decide)

theorem of_splitPathAndQuery (h : splitPathAndQuery cs = .ok (path, query)) :
    (∀ c ∈ path, isPathChar c = true) ∧
      ∀ q, query = some q → ∀ c ∈ q, isQueryChar c = true := by
  unfold splitPathAndQuery at h
  dsimp only at h
  split at h
  · cases h
  next hpath =>
  have hpath : ∀ c ∈ cs.takeWhile (fun c => c != '?' && c != '#'), isPathChar c = true := by
    simpa using hpath
  split at h
  · split at h
    · next hquery =>
      cases h
      refine ⟨hpath, fun q hq => ?_⟩
      cases hq
      simpa using hquery
    · cases h
  · cases h
    exact ⟨hpath, nofun⟩

theorem wellFormed_of_split {scheme authority : Option String}
    (h : splitPathAndQuery cs = .ok (path, query)) (halone : scheme = none → authority = none) :
    WellFormed ⟨scheme, authority, String.ofList path, query.map String.ofList⟩ where
  path := by simpa using (of_splitPathAndQuery h).1
  query q hq := by
    obtain ⟨r, hr, rfl⟩ := Option.map_eq_some_iff.1 hq
    simpa using (of_splitPathAndQuery h).2 r hr
  alone hscheme hauthority := by
    rw [halone hscheme] at hauthority
    cases hauthority

theorem wellFormed_authority (authority : String) :
    WellFormed ⟨none, some authority, "", none⟩ where
  path := nofun
  query := nofun
  alone _ _ := ⟨rfl, rfl⟩

theorem wellFormed_of_parse {s : String} {u : Uri} (h : parse s = .ok u) : u.WellFormed := by
  unfold parse at h
  split at h
  · cases h
  dsimp only at h
  split at h
  · cases h
  · cases h
    exact ⟨List.all_eq_true.1 (by decide), nofun, nofun⟩
  · obtain ⟨⟨path, query⟩, hsplit, h⟩ := bind_ok h
    cases h
    exact wellFormed_of_split hsplit fun _ => rfl
  · obtain ⟨a, _, h⟩ := bind_ok h
    cases h
    exact wellFormed_authority a
  · obtain ⟨scheme, _, h⟩ := bind_ok h
    cases scheme with
    | none =>
      obtain ⟨⟨front, rest⟩, _, h⟩ := bind_ok h
      dsimp only at h
      split at h
      · cases h
        exact wellFormed_authority _
      · cases h
    | some scheme =>
      obtain ⟨⟨front, rest⟩, _, h⟩ := bind_ok h
      dsimp only at h
      split at h
      · cases h
      obtain ⟨⟨path, query⟩, hsplit, h⟩ := bind_ok h
      cases h
      exact wellFormed_of_split hsplit nofun

theorem splitPathAndQuery_append {path : List Char} {query : Option String}
    (hpath : ∀ c ∈ path, isPathChar c = true)
    (hquery : ∀ q, query = some q → ∀ c ∈ q.toList, isQueryChar c = true) :
    splitPathAndQuery (path ++ queryText query) = .ok (path, query.map String.toList) := by
  have hfront : (path ++ queryText query).takeWhile (fun c => c != '?' && c != '#') = path := by
    refine Chars.takeWhile_append (fun c hc => ?_) fun c hc => ?_
    · simpa using isPathChar_ne (hpath c hc)
    · cases query with
      | none => cases hc
      | some q =>
        cases hc
        rfl
  unfold splitPathAndQuery
  simp only [hfront, List.all_eq_true.2 hpath, List.drop_left, Bool.not_true, Bool.false_eq_true,
    if_false]
  cases query with
  | none => rfl
  | some q =>
    have hend : '#' ∉ q.toList := fun hmem => isQueryChar_ne (hquery q rfl _ hmem) rfl
    have hall : q.toList.takeWhile (· != '#') = q.toList := by
      simpa using takeWhile_of_notMem (b := []) hend (by simp)
    simp only [queryText, hall, List.all_eq_true.2 (hquery q rfl), if_true, Option.map_some]

theorem splitScheme_text (scheme : Routing.Scheme) (cs : List Char) :
    splitScheme (scheme.text.toList ++ ':' :: '/' :: '/' :: cs) = .ok (some (scheme.text, cs)) := by
  cases scheme <;> rfl

theorem absolute?_text (scheme : Routing.Scheme) (cs : List Char) :
    absolute? (scheme.text.toList ++ ':' :: '/' :: '/' :: cs) = behindScheme? scheme.text cs := by
  rw [absolute?, splitScheme_text]
  rfl

theorem parse_of_scheme {s : String} {scheme : Routing.Scheme} {cs : List Char}
    (hs : s.toList = scheme.text.toList ++ ':' :: '/' :: '/' :: cs) :
    parse s = if 65534 < s.utf8ByteSize then .error .tooLong else absolute? s.toList := by
  have hsplit := splitScheme_text scheme cs
  unfold parse
  rw [absolute?, hs, hsplit]
  cases scheme <;> rfl

theorem of_behindScheme? {scheme : String} {cs : List Char} {v : Uri}
    (h : behindScheme? scheme cs = .ok v) :
    ∃ a, v.authority = some (String.ofList a) ∧ IsAuthority a ∧
      a = cs.takeWhile fun c => !endsAuthority c := by
  obtain ⟨⟨front, rest⟩, hsplit, h⟩ := bind_ok h
  obtain ⟨hfront, heq, _⟩ := front_of_splitAuthority hsplit
  dsimp only at h
  split at h
  · cases h
  · obtain ⟨⟨path, query⟩, _, h⟩ := bind_ok h
    cases h
    exact ⟨front, rfl, hfront, heq⟩

theorem behindScheme?_append (scheme : String) {a path : List Char} {query : Option String}
    (ha : IsAuthority a) (hne : a ≠ []) (hpath : ∀ c ∈ path, isPathChar c = true)
    (hquery : ∀ q, query = some q → ∀ c ∈ q.toList, isQueryChar c = true)
    (hslash : path.head? = some '/') :
    behindScheme? scheme (a ++ (path ++ queryText query)) =
      .ok ⟨some scheme, some (String.ofList a), String.ofList path, query⟩ := by
  have hends : ∀ c, (path ++ queryText query).head? = some c → endsAuthority c = true := by
    intro c hc
    rw [List.head?_append, hslash] at hc
    cases hc
    rfl
  unfold behindScheme?
  rw [splitAuthority_append ha hends]
  change (if a.isEmpty then _ else _) = _
  rw [if_neg (by simpa using hne), splitPathAndQuery_append hpath hquery]
  cases query <;> simp [bind, Except.bind]

end

section
variable {u : Uri}

theorem head?_slashed (p : List Char) : (slashed p).head? = some '/' := by
  unfold slashed
  split
  · assumption
  · rfl

theorem path_of_slash (h : u.rawPath.toList.head? = some '/') : u.path = u.rawPath := by
  have hne : u.rawPath ≠ "" := by
    intro hnil
    rw [hnil] at h
    cases h
  have hhas : u.hasPath = true := by simp [hasPath, hne]
  rw [path, if_pos hhas, if_neg hne]

theorem slashed_append {p q : List Char} (hp : p ≠ []) : slashed (p ++ q) = slashed p ++ q := by
  unfold slashed
  rw [List.head?_append_of_ne_nil p hp]
  split <;> rfl

theorem isPathChar_slashed {p : List Char} (hp : ∀ c ∈ p, isPathChar c = true) :
    ∀ c ∈ slashed p, isPathChar c = true := by
  unfold slashed
  split
  · exact hp
  · exact List.forall_mem_cons.2 ⟨by decide, hp⟩

theorem WellFormed.path_chars (hu : u.WellFormed) : ∀ c ∈ u.path.toList, isPathChar c = true := by
  unfold Uri.path
  split
  · split
    · exact List.all_eq_true.1 (by decide)
    · exact hu.path
  · nofun

/-- The path and the query of a target stand in its text behind a slash. -/
theorem WellFormed.slashed_pathAndQuery (hu : u.WellFormed) :
    slashed (u.pathAndQuery?.getD "/").toList = slashed u.path.toList ++ queryText u.query := by
  by_cases hform : u.scheme.isSome || u.authority.isNone
  · unfold pathAndQuery?
    rw [if_pos hform, Option.getD_some]
    cases hquery : u.query with
    | none =>
      dsimp only
      by_cases hpath : u.rawPath = ""
      · unfold Uri.path
        rw [if_pos hpath]
        split <;> rfl
      · have hhas : u.hasPath = true := by simp [hasPath, hpath]
        rw [if_neg hpath, Uri.path, if_pos hhas, if_neg hpath, queryText, List.append_nil]
    | some q =>
      have hhas : u.hasPath = true := by simp [hasPath, hquery]
      have hsome : u.rawPath ++ "?" ++ q ≠ "" := fun hnone => by
        have hempty := String.toList_eq_nil_iff.2 hnone
        simp at hempty
      dsimp only
      rw [if_neg hsome, Uri.path, if_pos hhas]
      by_cases hpath : u.rawPath = ""
      · rw [if_pos hpath, hpath]
        simp [slashed, queryText]
      · have hlist : u.rawPath.toList ≠ [] := mt String.toList_eq_nil_iff.1 hpath
        rw [if_neg hpath, queryText, ← slashed_append hlist]
        simp
  · obtain ⟨hscheme, hauthority⟩ : u.scheme = none ∧ u.authority.isSome := by
      simpa [Option.isSome_iff_ne_none] using hform
    obtain ⟨hpath, hquery⟩ := hu.alone hscheme hauthority
    rw [pathAndQuery?, if_neg hform, Uri.path, hquery, hpath]
    simp [hasPath, hpath, hquery, hscheme, slashed, queryText]

end

end ReverseProxy.Http.Uri
