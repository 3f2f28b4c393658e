import ReverseProxy.Config.Validation
import ReverseProxy.Proofs.Http.Absolute
import ReverseProxy.Proofs.Http.Values
import ReverseProxy.Proofs.Pool.Domains
import ReverseProxy.Redirect
import ReverseProxy.Routing.Table

set_option autoImplicit false

namespace ReverseProxy.Redirect
open Routing
open Http (Uri)

/-- The text of a request's host: a name or an address in brackets, with a port or without. -/
inductive Spells (text : String) (host : List Char) : Prop where
  | name {port : List Char} : host ≠ [] → (∀ c ∈ host, Uri.isHostChar c = true) →
      Chars.IsPort port → text.toList = host ++ port → Spells text host
  | address {port : List Char} : Uri.IsIpv6 host → Chars.IsPort port →
      text.toList = '[' :: (host ++ ']' :: port) → Spells text host

/-- A host that a location can lead to. One with colons has to be an IPv6 address. -/
def Fits (host : List Char) : Prop := Uri.Addressable host ∧ (':' ∈ host → Uri.IsIpv6 host)

structure Names (authority host : List Char) (defaultPort port : Nat) : Prop where
  ne_nil : host ≠ []
  hostOf : Uri.hostOf authority = host
  port : (Uri.portOf? authority).getD defaultPort = port
  brackets : ∃ tail, Uri.IsTail tail ∧
    (Uri.IsIpv6 host ∧ authority = '[' :: (host ++ ']' :: tail) ∨
      ¬Uri.IsIpv6 host ∧ authority = host ++ tail)

/-- A URI leads to the path and the query of a request on a host, under the scheme and on the port
of a redirect. -/
structure LeadsTo (v : Uri) (target : RedirectTarget) (host : List Char) (u : Uri) : Prop where
  scheme : v.scheme = some target.scheme.text
  authority : ∃ a, v.authority = some (String.ofList a) ∧ Names a host target.scheme.defaultPort
    ((target.port.map UInt16.toNat).getD target.scheme.defaultPort)
  path : v.path.toList = Uri.slashed u.path.toList
  query : v.query = u.query

section
variable {host : List Char}

section
variable {text : String}

theorem Spells.fits (h : Spells text host) : Fits host := by
  cases h with
  | name hne hchars _ _ =>
    exact ⟨.name hne hchars, fun hcolon => absurd (hchars _ hcolon) (by decide)⟩
  | address haddress _ _ => exact ⟨haddress.addressable, fun _ => haddress⟩

theorem hostWithoutPort_of_bracketless (h : ∀ r, text.toList ≠ '[' :: r) :
    hostWithoutPort text = match Text.cutLast? ':' text with
      | some (host, _) => if host.toList.contains ':' then text else host
      | none => text := by
  unfold hostWithoutPort
  dsimp only
  split
  · next r hr => exact absurd hr (h r)
  · rfl

theorem Spells.hostWithoutPort (h : Spells text host) :
    (Redirect.hostWithoutPort text).toList = host := by
  cases h with
  | @name port hne hchars hport htext =>
    have hcolon : ':' ∉ host := fun hmem => absurd (hchars _ hmem) (by decide)
    have hopen : ∀ r, text.toList ≠ '[' :: r := by
      intro r hr
      obtain ⟨c, cs, rfl⟩ := List.exists_cons_of_ne_nil hne
      rw [htext] at hr
      cases hr
      exact absurd (hchars _ List.mem_cons_self) (by decide)
    rcases hport with rfl | ⟨digits, rfl, hdigits⟩
    · have hcut : Text.cutLast? ':' text = none := by
        rw [Text.cutLast?, (Chars.cutLast?_eq_none_iff _ _).2 (by simpa [htext] using hcolon)]
        rfl
      rw [hostWithoutPort_of_bracketless hopen, hcut, htext, List.append_nil]
    · have hdigit : ':' ∉ digits := fun hmem => absurd (hdigits _ hmem) (by decide)
      have hcut : Text.cutLast? ':' text = some (String.ofList host, String.ofList digits) := by
        rw [Text.cutLast?, (Chars.cutLast?_eq_some_iff _ _ _ _).2 ⟨htext, hdigit⟩]
        rfl
      rw [hostWithoutPort_of_bracketless hopen, hcut]
      simp [hcolon]
  | @address port haddress hport htext =>
    have hclose : ']' ∉ host := fun hmem =>
      absurd (((Uri.addressable_of_colon haddress.colon).1 haddress.addressable).1 _ hmem)
        (by decide)
    unfold Redirect.hostWithoutPort
    rw [htext]
    simp only [(Chars.cutFirst?_eq_some_iff _ _ _ _).2 ⟨rfl, hclose⟩, String.toList_ofList]

end

theorem toList_hostText (s : String) : (hostText s).toList = Uri.enclosed s.toList := by
  unfold hostText Uri.enclosed
  by_cases hcolon : ':' ∈ s.toList <;> simp [hcolon]

theorem isTail_portText (scheme : Scheme) (port : Option UInt16) :
    Uri.IsTail (portText scheme port).toList := by
  unfold portText
  split
  · split
    · exact .inl rfl
    · next p _ =>
      exact .inr ⟨Nat.toDigits 10 p.toNat, by simp [Text.ofNat],
        fun c hc => Uri.isHostChar_of_isDigit (Chars.isDigit_toDigits c hc)⟩
  · exact .inl rfl

def authority (target : RedirectTarget) (host : List Char) : List Char :=
  Uri.enclosed host ++ (portText target.scheme target.port).toList

variable {target : RedirectTarget} {u : Uri}

theorem portOf?_authority (target : RedirectTarget) (host : List Char) :
    (Uri.portOf? (authority target host)).getD target.scheme.defaultPort =
      (target.port.map UInt16.toNat).getD target.scheme.defaultPort := by
  unfold authority portText
  cases hport : target.port with
  | none =>
    rw [String.toList_empty, List.append_nil, Uri.portOf?_enclosed]
    rfl
  | some p =>
    dsimp only
    split
    · next hdefault =>
      rw [String.toList_empty, List.append_nil, Uri.portOf?_enclosed]
      exact hdefault.symm
    · have hwritten : Uri.enclosed host ++ (":" ++ Text.ofNat p.toNat).toList =
          Uri.written host (Nat.toDigits 10 p.toNat) := by
        simp [Uri.written, Text.ofNat]
      rw [hwritten, Uri.portOf?_written host p.toNat_lt]
      rfl

theorem endsAuthority_authority (h : ∀ c ∈ host, Uri.endsAuthority c = false) :
    ∀ c ∈ authority target host, Uri.endsAuthority c = false := by
  have htail : ∀ c ∈ (portText target.scheme target.port).toList, Uri.endsAuthority c = false :=
    fun c hc => (Uri.notMark_of_isHostChar
      (((isTail_portText _ _).chars c hc).imp_right Or.inr)).2
  refine List.forall_mem_append.2 ⟨?_, htail⟩
  unfold Uri.enclosed
  split
  · simpa using ⟨by decide, fun c hc => hc.elim (h c) (by rintro rfl; decide)⟩
  · exact h

theorem names_authority (h : Fits host) : Names (authority target host) host
    target.scheme.defaultPort ((target.port.map UInt16.toNat).getD target.scheme.defaultPort) where
  ne_nil := h.1.ne_nil
  hostOf := ((Uri.addressable_iff_enclosed (isTail_portText _ _) h.1.ne_nil).2 h.1).2
  port := portOf?_authority target host
  brackets := by
    refine ⟨_, isTail_portText target.scheme target.port, ?_⟩
    unfold authority Uri.enclosed
    by_cases hcolon : ':' ∈ host
    · exact .inl ⟨h.2 hcolon, by simp [hcolon]⟩
    · exact .inr ⟨fun haddress => hcolon haddress.colon, by simp [hcolon]⟩

theorem fits_of_names {defaultPort port : Nat}
    (hauthority : Uri.IsAuthority (authority target host))
    (h : Names (authority target host) host defaultPort port) : Fits host := by
  refine ⟨(Uri.addressable_iff_enclosed (isTail_portText _ _) h.ne_nil).1 ⟨hauthority, h.hostOf⟩,
    fun hcolon => ?_⟩
  obtain ⟨tail, htail, ⟨haddress, _⟩ | ⟨_, heq⟩⟩ := h.brackets
  · exact haddress
  · have hbracket : '[' :: (host ++ ']' :: (portText target.scheme target.port).toList) =
        host ++ tail := by
      rw [← heq, authority, Uri.enclosed, if_pos hcolon]
      simp
    exact absurd (htail.head (Chars.head?_of_cons_append hbracket)) (by decide)

theorem slash_append (s : String) :
    (if Text.hasStart "/" s then "" else "/").toList ++ s.toList = Uri.slashed s.toList := by
  unfold Uri.slashed Text.hasStart
  cases hs : s.toList with
  | nil => rfl
  | cons c cs =>
    by_cases hc : c = '/'
    · simp [hc, Chars.stripStart?]
    · simp [hc, Ne.symm hc, Chars.stripStart?]

theorem toList_location (htarget : target.location = none) (hu : u.WellFormed)
    (requestHost : String) :
    (location target requestHost (u.pathAndQuery?.getD "/")).toList =
      target.scheme.text.toList ++ ':' :: '/' :: '/' ::
        (authority target (target.host.getD (hostWithoutPort requestHost)).toList ++
          (Uri.slashed u.path.toList ++ Uri.queryText u.query)) := by
  rw [← hu.slashed_pathAndQuery, ← slash_append, authority, ← toList_hostText]
  simp [location, htarget]

theorem leadsTo_iff (htarget : target.location = none) (hu : u.WellFormed) (requestHost : String)
    (hhost : (target.host.getD (hostWithoutPort requestHost)).toList = host) :
    (∃ v, Uri.absolute? (location target requestHost (u.pathAndQuery?.getD "/")).toList = .ok v ∧
      LeadsTo v target host u) ↔ Fits host := by
  rw [toList_location htarget hu, hhost, Uri.absolute?_text]
  constructor
  · rintro ⟨v, hv, hleads⟩
    obtain ⟨front, hv, hauthority, hfront⟩ := Uri.of_behindScheme? hv
    obtain ⟨a, ha, hnames⟩ := hleads.authority
    obtain rfl : front = a := String.ofList_injective (Option.some.inj (hv.symm.trans ha))
    -- What was read has every character of the host, so the host does not end it.
    have hhostchars : ∀ c ∈ host, Uri.endsAuthority c = false := by
      intro c hc
      rw [← hnames.hostOf] at hc
      exact hauthority.1 c (Uri.hostOf_subset front hc)
    have hwhole : front = authority target host := by
      rw [hfront]
      refine Chars.takeWhile_append (fun c hc => ?_) fun c hc => ?_
      · rw [endsAuthority_authority hhostchars c hc]
        rfl
      · rw [List.head?_append, Uri.head?_slashed] at hc
        cases hc
        rfl
    exact fits_of_names (hwhole ▸ hauthority) (hwhole ▸ hnames)
  · intro h
    have hauthority : Uri.IsAuthority (authority target host) :=
      ((Uri.addressable_iff_enclosed (isTail_portText _ _) h.1.ne_nil).2 h.1).1
    have hne : authority target host ≠ [] := by
      intro hnil
      have hnames : Names (authority target host) host _ _ := names_authority h
      exact h.1.ne_nil (hnil ▸ hnames.hostOf).symm
    refine ⟨_, Uri.behindScheme?_append _ hauthority hne (Uri.isPathChar_slashed hu.path_chars)
      hu.query (Uri.head?_slashed _), rfl, ⟨_, rfl, names_authority h⟩, ?_, rfl⟩
    rw [Uri.path_of_slash (by simpa using Uri.head?_slashed u.path.toList), String.toList_ofList]

theorem toList_host (target : RedirectTarget) {requestHost : String}
    (h : Spells requestHost host) : (target.host.getD (hostWithoutPort requestHost)).toList =
      (target.host.map String.toList).getD host := by
  cases target.host with
  | none => exact h.hostWithoutPort
  | some configured => rfl

end

/-- For every request whose host is a name or an address in brackets and whose target was read, the
composed location is an absolute URI that leads to the path and query of the request, under the
scheme, host and port of the redirect or the defaults that stand for them, exactly if the redirect
has no host or one that fits: it can stand in an authority, and it is an IPv6 address if it has a
colon. A location is read as a request target up to the length that these may have. -/
theorem location_leads (r : Config.Redirect) (hr : r.location = none) {requestHost : String}
    {host : List Char} (hhost : Spells requestHost host) {s : String} {u : Uri}
    (hu : Uri.parse s = .ok u) :
    let target := compileRedirect r
    let text := location target requestHost (u.pathAndQuery?.getD "/")
    ((∃ v, Uri.absolute? text.toList = .ok v ∧
        LeadsTo v target ((r.host.map String.toList).getD host) u) ↔
      ∀ h, r.host = some h → Fits h.toList) ∧
    Uri.parse text =
      if 65534 < text.utf8ByteSize then .error .tooLong else Uri.absolute? text.toList := by
  intro target text
  have hwell := Uri.wellFormed_of_parse hu
  refine ⟨(leadsTo_iff hr hwell requestHost (toList_host target hhost)).trans ?_,
    Uri.parse_of_scheme (toList_location hr hwell requestHost)⟩
  change Fits ((r.host.map String.toList).getD host) ↔ _
  cases r.host with
  | none => exact iff_of_true hhost.fits nofun
  | some h => exact ⟨fun hfits _ heq => Option.some.inj heq ▸ hfits, fun hall => hall h rfl⟩

theorem location_leads_address :
    let r : Config.Redirect := { scheme := "HTTPS", host := some "2001:db8::1", port := some 443 }
    let u : Uri := ⟨none, none, "/a/b", some "x=1"⟩
    let text := location (compileRedirect r) "[::1]:8080" (u.pathAndQuery?.getD "/")
    r.location = none ∧ Spells "[::1]:8080" "::1".toList ∧ Uri.parse "/a/b?x=1" = .ok u ∧
      text = "https://[2001:db8::1]/a/b?x=1" ∧ (∃ v, Uri.absolute? text.toList = .ok v ∧
        LeadsTo v (compileRedirect r) "2001:db8::1".toList u) := by
  intro r u text
  have hspells : Spells "[::1]:8080" "::1".toList :=
    .address ⟨"::1".toList, [], rfl, by decide +kernel, .inl rfl⟩
      (.inr ⟨"8080".toList, rfl, List.all_eq_true.1 (by decide)⟩) rfl
  have hparse : Uri.parse "/a/b?x=1" = .ok u := by decide +kernel
  have hfits : ∀ h, r.host = some h → Fits h.toList := by
    intro h hsome
    obtain rfl : "2001:db8::1" = h := Option.some.inj hsome
    have haddress : Uri.IsIpv6 "2001:db8::1".toList :=
      ⟨"2001:db8::1".toList, [], rfl, by decide +kernel, .inl rfl⟩
    exact ⟨haddress.addressable, fun _ => haddress⟩
  exact ⟨rfl, hspells, hparse, by decide +kernel, (location_leads r rfl hspells hparse).1.2 hfits⟩

/-- Hosts that validation takes and no location leads to: an address with brackets of its own gets a
second pair, and a host with a port is taken for an address. -/
theorem accepted_hosts_missed :
    let configured (host : String) : Config := { routes := [
      { name := "site", action := .redirect, redirect := some { host := some host } }] }
    let text (host : String) := location (compileRedirect { host := some host }) "site.test" "/a"
    (configured "[::1]").Valid ∧ text "[::1]" = "http://[[::1]]/a" ∧
      Uri.absolute? (text "[::1]").toList = .error .invalidAuthority ∧
      (configured "site.test:8080").Valid ∧
      text "site.test:8080" = "http://[site.test:8080]/a" ∧
      (configured "user@site.test").Valid ∧
      (Uri.absolute? (text "user@site.test").toList).map
          (fun v => v.authority.map fun a => Uri.hostOf a.toList) =
        .ok (some "site.test".toList) := by
  decide +kernel

def configured (target : RedirectTarget) : String := (target.location.or target.host).getD ""

theorem hostWithoutPort_subset (s : String) : (hostWithoutPort s).toList ⊆ s.toList := by
  have hbefore : (match Text.cutLast? ':' s with
      | some (host, _) => if host.toList.contains ':' then s else host
      | none => s).toList ⊆ s.toList := by
    cases hcut : Text.cutLast? ':' s with
    | none => exact List.Subset.refl _
    | some parts =>
      obtain ⟨host, port⟩ := parts
      dsimp only
      split
      · exact List.Subset.refl _
      · rw [((Text.cutLast?_eq_some_iff _ _ _ _).1 hcut).1]
        exact List.subset_append_left _ _
  unfold hostWithoutPort
  dsimp only
  split
  · next r hr =>
    cases hcut : Chars.cutFirst? ']' r with
    | none => exact hbefore
    | some parts =>
      rw [hr, ((Chars.cutFirst?_eq_some_iff _ _ _ _).1 hcut).1, String.toList_ofList]
      exact List.subset_cons_of_subset _ (List.subset_append_left _ _)
  · exact hbefore

section
variable {target : RedirectTarget} {u : Uri} {requestHost : String}

theorem isValueChar_of_isTail {tail : List Char} (h : Uri.IsTail tail) :
    ∀ c ∈ tail, Chars.isValueChar c = true := fun c hc =>
  Chars.isValueChar_of (p := fun c => Uri.isHostChar c || c == ':') (by decide) (by decide)
    (by simpa using h.chars c hc)

theorem forall_mem_enclosed {p : Char → Prop} (hopen : p '[') (hclose : p ']') {host : List Char} :
    (∀ c ∈ Uri.enclosed host, p c) ↔ ∀ c ∈ host, p c := by
  unfold Uri.enclosed
  split <;> simp [or_imp, forall_and, hopen, hclose]

theorem holdable_composed_iff (hlocation : target.location = none) (hu : u.WellFormed) :
    Text.Holdable (location target requestHost (u.pathAndQuery?.getD "/")) ↔
      Text.Holdable (target.host.getD (hostWithoutPort requestHost)) := by
  have hscheme : ∀ c ∈ target.scheme.text.toList, Chars.isValueChar c = true := by
    cases target.scheme <;> exact List.all_eq_true.1 (by decide)
  have hport := isValueChar_of_isTail (isTail_portText target.scheme target.port)
  have hpath : ∀ c ∈ Uri.slashed u.path.toList, Chars.isValueChar c = true := fun c hc =>
    Chars.isValueChar_of_isPathChar (Uri.isPathChar_slashed hu.path_chars c hc)
  have hquery : ∀ c ∈ Uri.queryText u.query, Chars.isValueChar c = true := by
    cases hq : u.query with
    | none => nofun
    | some q =>
      exact List.forall_mem_cons.2
        ⟨by decide, fun c hc => Chars.isValueChar_of_isQueryChar (hu.query q hq c hc)⟩
  unfold Text.Holdable
  rw [toList_location hlocation hu]
  simp only [authority, List.forall_mem_append, List.forall_mem_cons,
    forall_mem_enclosed (p := fun c => Chars.isValueChar c = true) (by decide) (by decide)]
  exact ⟨fun h => h.2.2.2.2.1.1,
    fun h => ⟨hscheme, by decide, by decide, by decide, ⟨h, hport⟩, hpath, hquery⟩⟩

/-- Nothing but the configured text can keep a location out of a header, since the host of a request
is plain. -/
theorem holdable_location_iff (hfilled : target.location ≠ some "")
    (hhost : Text.Plain requestHost) (hu : u.WellFormed) :
    Text.Holdable (location target requestHost (u.pathAndQuery?.getD "/")) ↔
      Text.Holdable (configured target) := by
  unfold configured
  cases hlocation : target.location with
  | some l =>
    have hne : l ≠ "" := fun hnil => hfilled (hnil ▸ hlocation)
    have hkept : target.location.filter (· ≠ "") = some l := by
      rw [hlocation, Option.filter_some, if_pos (by simpa using hne)]
    unfold location
    rw [hkept]
    rfl
  | none =>
    rw [holdable_composed_iff hlocation hu]
    cases target.host with
    | some host => rfl
    | none => exact iff_of_true (fun c hc => hhost.holdable c (hostWithoutPort_subset _ hc)) nofun

end

end ReverseProxy.Redirect
