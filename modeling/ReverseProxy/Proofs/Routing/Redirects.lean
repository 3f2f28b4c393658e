import ReverseProxy.Proofs.Routing.Validated
import ReverseProxy.Proofs.Text.Case
import ReverseProxy.Redirect

set_option autoImplicit false

namespace ReverseProxy

theorem Text.equalsIgnoringCase_iff_trim {s name : String} (hname : trim name = name) :
    equalsIgnoringCase s name = true ↔ equalsIgnoringCase (trim s) name = true ∧ trim s = s := by
  simp only [equalsIgnoringCase, beq_iff_eq]
  refine ⟨fun h => ?_, fun ⟨h, htrim⟩ => htrim ▸ h⟩
  have hlower : lower (trim s) = lower s := calc
    lower (trim s) = trim (lower s) := (lower_trim s).symm
    _ = trim (lower name) := by rw [h]
    _ = lower s := by rw [lower_trim, hname, h]
  refine ⟨hlower.trans h, (trim_eq_or_length_lt s).resolve_right fun hshorter => ?_⟩
  have hlength := congrArg (fun t => t.toList.length) hlower
  simp only [lower_toList, Chars.lower, List.length_map] at hlength
  omega

namespace Config

/-- What is found in a valid configuration about a redirect. -/
structure Redirect.Accepted (r : Redirect) : Prop where
  location : ∀ l, r.location = some l → Url.check l = .ok ()
  scheme : isRedirectScheme r.scheme = true
  status : ∀ s, r.status = some s → 300 ≤ s ∧ s < 400

theorem Redirect.accepted_of_findings {field : String} {r : Redirect}
    (h : redirectFindings field r = []) : r.Accepted := by
  unfold redirectFindings at h
  simp only [List.append_eq_nil_iff, when_eq_nil, Bool.not_eq_false'] at h
  obtain ⟨⟨hlocation, hscheme⟩, hstatus⟩ := h
  refine ⟨fun l hl => ?_, hscheme, fun s hs => ?_⟩
  · rw [hl] at hlocation
    dsimp only at hlocation
    cases hcheck : Url.check l with
    | ok u => rfl
    | error cause =>
      rw [hcheck] at hlocation
      cases hlocation
  · rw [hs] at hstatus
    simpa [when_eq_nil] using hstatus

theorem Valid.accepted {c : Config} (h : c.Valid) {rc : Route} (hrc : rc ∈ c.routes) {r : Redirect}
    (hr : rc.redirect = some r) : r.Accepted := by
  unfold Valid findings at h
  simp only [List.append_eq_nil_iff] at h
  obtain ⟨⟨⟨_, hroutes⟩, _⟩, _⟩ := h
  obtain ⟨earlier, i, hfound⟩ := check_of_eachWithEarlier hroutes hrc
  simp only [routeFindings, List.append_eq_nil_iff, hr] at hfound
  obtain ⟨⟨⟨⟨_, hredirect⟩, _⟩, _⟩, _⟩ := hfound
  exact Redirect.accepted_of_findings hredirect

end Config

namespace Redirect
open Routing

def AsksFor (scheme : Scheme) (text : String) : Prop :=
  Text.equalsIgnoringCase (Text.trim text) scheme.text = true

theorem compiled_https_iff (r : Config.Redirect) : (compileRedirect r).scheme = .https ↔
    AsksFor .https r.scheme ∧ Text.trim r.scheme = r.scheme := by
  rw [AsksFor, ← Text.equalsIgnoringCase_iff_trim (by decide)]
  change (if _ then _ else _) = _ ↔ _
  split
  · next h => exact iff_of_true rfl h
  · next h => exact iff_of_false nofun h

theorem hasStart_location {target : RedirectTarget} (h : target.location = none) (scheme : Scheme)
    (requestHost pathAndQuery : String) :
    Text.hasStart (scheme.text ++ "://") (location target requestHost pathAndQuery) = true ↔
      target.scheme = scheme := by
  have hstart : ∃ rest, (location target requestHost pathAndQuery).toList =
      target.scheme.text.toList ++ ':' :: '/' :: '/' :: rest := by
    simp only [location, h, Option.filter_none, String.toList_append, List.append_assoc]
    exact ⟨_, rfl⟩
  obtain ⟨rest, hrest⟩ := hstart
  rw [Text.hasStart, hrest]
  cases target.scheme <;> cases scheme <;> simp [Scheme.text, Chars.stripStart?]

theorem asksFor_of_isRedirectScheme {text : String} (h : Config.isRedirectScheme text = true) :
    AsksFor .https text ∨ AsksFor .http text ∨ Text.trim text = "" := by
  simp only [Config.isRedirectScheme, Bool.or_eq_true] at h
  rcases h with (hblank | hhttp) | hhttps
  · exact .inr (.inr (Text.trim_of_isBlank hblank))
  · exact .inr (.inl hhttp)
  · exact .inl hhttps

/-- The scheme of an accepted redirect is taken for `https`, for `http` or for no scheme. It is
compiled to `https`, and a composed location is sent there, exactly if it is taken for it and has no
blanks around it. So compilation disagrees with validation just on `https` between blanks, and every
location of such a redirect is sent to `http`. -/
theorem compiled_scheme_of_accepted (c : Config) (hc : c.Valid) (rc : Config.Route)
    (hrc : rc ∈ c.routes) (r : Config.Redirect) (hr : rc.redirect = some r) :
    (AsksFor .https r.scheme ∨ AsksFor .http r.scheme ∨ Text.trim r.scheme = "") ∧
    ((compileRedirect r).scheme = .https ↔
      AsksFor .https r.scheme ∧ Text.trim r.scheme = r.scheme) ∧
    (((compileRedirect r).scheme = .https ↔ AsksFor .https r.scheme) ↔
      (AsksFor .https r.scheme → Text.trim r.scheme = r.scheme)) ∧
    (r.location = none → ∀ requestHost pathAndQuery,
      let text := location (compileRedirect r) requestHost pathAndQuery
      (Text.hasStart "https://" text = true ↔
        AsksFor .https r.scheme ∧ Text.trim r.scheme = r.scheme) ∧
      (Text.hasStart "http://" text = true ↔
        ¬(AsksFor .https r.scheme ∧ Text.trim r.scheme = r.scheme))) := by
  have hcompiled := compiled_https_iff r
  refine ⟨asksFor_of_isRedirectScheme (hc.accepted hrc hr).scheme, hcompiled, ?_,
    fun hlocation requestHost pathAndQuery => ⟨?_, ?_⟩⟩
  · rw [hcompiled]
    exact and_iff_left_iff_imp
  · exact (hasStart_location hlocation .https requestHost pathAndQuery).trans hcompiled
  · refine (hasStart_location hlocation .http requestHost pathAndQuery).trans ?_
    rw [← hcompiled]
    cases (compileRedirect r).scheme <;> decide

theorem compiled_scheme_capitals :
    let r : Config.Redirect := { scheme := "HTTPS" }
    let rc : Config.Route := { name := "site", action := .redirect, redirect := some r }
    let c : Config := { routes := [rc] }
    c.Valid ∧ AsksFor .https r.scheme ∧ (compileRedirect r).scheme = .https ∧
      ∀ requestHost pathAndQuery, Text.hasStart "https://"
        (location (compileRedirect r) requestHost pathAndQuery) = true := by
  intro r rc c
  have hvalid : c.Valid := by decide +kernel
  have hasks : AsksFor .https r.scheme := by
    unfold AsksFor
    decide +kernel
  have htrim : Text.trim r.scheme = r.scheme := by decide +kernel
  obtain ⟨_, hcompiled, _, hsent⟩ :=
    compiled_scheme_of_accepted c hvalid rc List.mem_cons_self r rfl
  exact ⟨hvalid, hasks, hcompiled.2 ⟨hasks, htrim⟩,
    fun requestHost pathAndQuery => (hsent rfl requestHost pathAndQuery).1.2 ⟨hasks, htrim⟩⟩

/-- Validation takes `https` between blanks for `https`, and its redirects are sent to `http`. -/
theorem https_between_blanks_downgraded :
    let r : Config.Redirect := { scheme := " https " }
    let c : Config := { routes := [
      { name := "site", action := .redirect, redirect := some r }] }
    c.Valid ∧ AsksFor .https r.scheme ∧ (compileRedirect r).scheme = .http ∧
      location (compileRedirect r) "site.test" "/a" = "http://site.test/a" := by
  unfold AsksFor
  decide +kernel

end Redirect
end ReverseProxy
