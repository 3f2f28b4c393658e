import ReverseProxy.Proofs.Http.Authority
import ReverseProxy.Proofs.Pool.Domains
import ReverseProxy.Proofs.Pool.Generations

set_option autoImplicit false

/-!
# Hosts of routes and of pools

A route compares the host of a request up to what stands behind its last colon. A pool trims it
first, takes what brackets hold and cuts off a port that is a number. Where the two agree on a
configured host, a request that was routed for it is sent through the pool for it.
-/
namespace ReverseProxy

namespace Routing
open Pool (Domain Policy)
open Pool.Registry (choosy)

/-- When pools read a host that a route for `h` takes as that route does. -/
structure Agrees (h t : String) : Prop where
  /-- A Kelvin sign is a `k` to routes only. -/
  noKelvin : '\u212A' ∉ h.toList
  whole : Text.lower t = Text.lower h → Domain.hostOf h = Text.trim h
  port : ∀ port, Text.lower t = Text.lower h ++ ":" ++ port → ':' ∉ port.toList →
    Chars.trimStart h.toList = Chars.trim h.toList ∧ (Chars.trim h.toList).head? ≠ some '[' ∧
      (Chars.trimEnd port.toList).all Char.isDigit = true

theorem cutLast?_colon_iff {s a b : String} :
    Text.cutLast? ':' s = some (a, b) ↔ s = a ++ ":" ++ b ∧ ':' ∉ b.toList := by
  have hsplit : s = a ++ ":" ++ b ↔ s.toList = a.toList ++ ':' :: b.toList := by
    rw [← String.toList_inj, String.toList_append, String.toList_append, List.append_assoc]
    rfl
  rw [hsplit, ← Chars.cutLast?_eq_some_iff, Text.cutLast?, Option.map_eq_some_iff]
  constructor
  · rintro ⟨⟨x, y⟩, h, heq⟩
    simp only [Prod.mk.injEq] at heq
    rw [h, ← heq.1, ← heq.2, String.toList_ofList, String.toList_ofList]
  · intro h
    exact ⟨_, h, by simp⟩

def IsName (h : String) : Prop :=
  ∀ c ∈ h.toList, Chars.isBlank c = false ∧ c ∉ [':', '[', '\u212A']

instance (h : String) : Decidable (IsName h) :=
  List.decidableBAll _ h.toList

/-- What a route asks of a host. -/
theorem holds_ofHost_iff {r : RequestView} {t : String} (ht : r.host? = some t) (h : String) :
    (Condition.ofHost h).holds r = true ↔ lowerHost t = lowerHost h ∨
      ∃ port, lowerHost t = lowerHost h ++ ":" ++ port ∧ ':' ∉ port.toList := by
  simp only [Condition.ofHost, Condition.holds, ht, Bool.or_eq_true, beq_iff_eq,
    Option.any_eq_true, Prod.exists, cutLast?_colon_iff]
  refine or_congr Iff.rfl ⟨?_, ?_⟩
  · rintro ⟨name, port, hport, rfl⟩
    exact ⟨port, hport⟩
  · rintro ⟨port, hport⟩
    exact ⟨_, port, hport, rfl⟩

theorem lowerHost_eq_lower {s : String} (h : '\u212A' ∉ s.toList) :
    lowerHost s = Text.lower s := by
  unfold lowerHost Text.lower Chars.lower
  congr 1
  refine List.map_congr_left fun c hc => if_neg ?_
  rintro rfl
  exact h hc

theorem notMem_of_plain {s : String} (h : Text.Plain s) : '\u212A' ∉ s.toList := fun hmem =>
  absurd (h _ hmem) (by decide)

theorem toList_port (name port : String) :
    (name ++ ":" ++ port).toList = name.toList ++ ':' :: port.toList := by
  rw [String.toList_append, String.toList_append, List.append_assoc]
  rfl

theorem ne_port (name port : String) : name ≠ name ++ ":" ++ port := fun heq => by
  have hlength := congrArg (fun s : String => s.toList.length) heq
  simp only [toList_port, List.length_append, List.length_cons] at hlength
  omega

theorem hostOf_iff {h t : String} (hkelvin : '\u212A' ∉ h.toList)
    (hroute : Text.lower t = Text.lower h ∨
      ∃ port, Text.lower t = Text.lower h ++ ":" ++ port ∧ ':' ∉ port.toList) :
    Text.lower (Domain.hostOf t) = Text.lower (Text.trim h) ↔ Agrees h t := by
  have hchars {s : String} : Text.lower (Domain.hostOf s) = Text.lower (Text.trim h) ↔
      Chars.hostOf (Text.lower s).toList = Chars.trim (Text.lower h).toList := by
    rw [← String.toList_inj, Text.lower_toList, Text.lower_toList, Text.lower_toList,
      Text.lower_toList, Text.trim_toList, Chars.hostOf_toList, Chars.lower_hostOf,
      Chars.lower_trim]
  rcases hroute with hwhole | ⟨port, hport, hlast⟩
  · have hsame : Text.lower (Domain.hostOf h) = Text.lower (Text.trim h) ↔
        Domain.hostOf h = Text.trim h := by
      refine ⟨fun heq => ?_, congrArg _⟩
      rw [← String.toList_inj, Text.lower_toList, Text.lower_toList, Text.trim_toList,
        Chars.hostOf_toList] at heq
      rw [← String.toList_inj, Text.trim_toList, Chars.hostOf_toList]
      exact (Chars.eq_of_lower_eq ((Chars.hostOf_cases h.toList).imp Eq.symm id) heq.symm).symm
    rw [hchars, hwhole, ← hchars, hsame]
    refine ⟨fun heq => ⟨hkelvin, fun _ => heq, fun port hport => ?_⟩, fun ha => ha.whole hwhole⟩
    exact absurd (hwhole.symm.trans hport) (ne_port _ _)
  · have hstart : Chars.trimStart (Text.lower h).toList = Chars.trim (Text.lower h).toList ↔
        Chars.trimStart h.toList = Chars.trim h.toList := by
      rw [Text.lower_toList, Chars.lower_trimStart, Chars.lower_trim]
      exact ⟨Chars.eq_of_lower_eq (Chars.trim_cases h.toList), congrArg _⟩
    have hhead : (Chars.trim (Text.lower h).toList).head? ≠ some '[' ↔
        (Chars.trim h.toList).head? ≠ some '[' := by
      rw [Text.lower_toList, ne_eq, ne_eq, Chars.head?_lower_trim]
    rw [hchars, hport, toList_port, Chars.hostOf_port_iff hlast, hstart, hhead]
    refine ⟨fun hclauses => ⟨hkelvin, fun hwhole => ?_, fun port' hport' _ => ?_⟩,
      fun ha => ha.port port hport hlast⟩
    · exact absurd (hwhole.symm.trans hport) (ne_port _ _)
    · have hsame := congrArg String.toList (hport'.symm.trans hport)
      rw [toList_port, toList_port] at hsame
      rw [(List.cons.inj (List.append_cancel_left hsame)).2]
      exact hclauses

theorem covers_self (pattern : String) :
    (Domain.parse pattern).covers (Text.lower (Text.trim pattern)) = true := by
  unfold Domain.parse
  dsimp only
  split
  · rfl
  · split
    · next s hs =>
      obtain ⟨rest, hrest, rfl⟩ := Option.map_eq_some_iff.1 hs
      have hpattern := (Chars.stripStart?_eq_some_iff _ _ _).1 hrest
      have hend : (Text.lower (Text.trim pattern)).toList.reverse =
          ("." ++ String.ofList rest).toList.reverse ++ ['*'] := by
        simp [hpattern]
      have hstrip := (Chars.stripStart?_eq_some_iff _ _ _).2 hend
      rw [Domain.covers, Text.hasEnd, Chars.stripEnd?, hstrip]
      exact Bool.or_true _
    · exact beq_self_eq_true _

theorem noKelvin_of_lower_eq {h t : String} (ht : Text.Plain t)
    (heq : Text.lower (Domain.hostOf t) = Text.lower (Text.trim h)) : '\u212A' ∉ h.toList := by
  intro hmem
  have hblank : Chars.isBlank '\u212A' = false := by decide
  have htrim : '\u212A' ∈ Chars.trim h.toList := by
    obtain ⟨u, w, hcs, hu, hw⟩ := Chars.exists_trim h.toList
    rw [hcs, List.mem_append, List.mem_append] at hmem
    rcases hmem with (hmem | hmem) | hmem
    · exact absurd (hu _ hmem) (by rw [hblank]; decide)
    · exact hmem
    · exact absurd (hw _ hmem) (by rw [hblank]; decide)
  have hlower : '\u212A' ∈ (Text.lower (Text.trim h)).toList := by
    rw [Text.lower_toList, Text.trim_toList]
    exact List.mem_map.2 ⟨_, htrim, by decide⟩
  rw [← heq, Text.lower_toList] at hlower
  obtain ⟨c, hc, hkelvin⟩ := List.mem_map.1 hlower
  obtain rfl := (Chars.toLower_eq_iff (by decide) c).1 hkelvin
  rw [Chars.hostOf_toList] at hc
  exact notMem_of_plain ht (Chars.hostOf_subset _ hc)

theorem parse_eq_exact {pattern s : String} (h : Domain.parse pattern = .exact s) :
    s = Text.lower (Text.trim pattern) := by
  unfold Domain.parse at h
  dsimp only at h
  split at h
  · cases h
  · split at h
    · cases h
    · exact (Domain.exact.inj h).symm

theorem resolve_of_serves {registry : Pool.Registry} {before after : List Config.Pool}
    {c : Config.Pool} {endpoints : List Endpoint} {host : String}
    (hserving : registry.Serving (before ++ c :: after) endpoints)
    (hchosen : c.isDefault = false ∧ c.enabled = true)
    (hserves : (Policy.ofConfig c).serves host = true)
    (hothers : ∀ d ∈ choosy before, (Policy.ofConfig d).serves host = false) :
    registry.resolve host = ⟨registry.generation, (choosy before).length⟩ := by
  have hsplit : choosy (before ++ c :: after) = choosy before ++ c :: choosy after := by
    simp [choosy, hchosen]
  have hfirst : (choosy (before ++ c :: after)).findIdx?
      (fun c => (Domain.parse c.domain).serves host) = some (choosy before).length := by
    simp only [← Pool.Registry.serves_ofConfig]
    rw [List.findIdx?_eq_some_iff_getElem, hsplit]
    refine ⟨by simp, by simpa using hserves, fun j hj => ?_⟩
    rw [List.getElem_append_left hj, hothers _ (List.getElem_mem hj)]
    exact Bool.false_ne_true
  rw [hserving.resolve_eq, hfirst, Option.getD_some]

theorem host?_of_holds {r : Request.Head} {secure : Bool} {h : String}
    (hroute : (Condition.ofHost h).holds (r.view secure) = true) :
    (r.view secure).host? = some r.host := by
  change (r.headers.text? "host").or r.uri.authority =
    some (((r.headers.text? "host").or r.uri.authority).getD "")
  cases hhost : (r.headers.text? "host").or r.uri.authority with
  | none =>
    have hnone : (r.view secure).host? = none := hhost
    simp [Condition.ofHost, Condition.holds, hnone] at hroute
  | some t => rfl

theorem agrees_of_isName {h t : String} (hname : IsName h)
    (hport : ∀ port, Text.lower t = Text.lower h ++ ":" ++ port →
      (Chars.trimEnd port.toList).all Char.isDigit = true) : Agrees h t := by
  have hblank : ∀ c ∈ h.toList, Chars.isBlank c = false := fun c hc => (hname c hc).1
  have hbracket : (Chars.trim h.toList).head? ≠ some '[' := fun hhead =>
    (hname '[' (Chars.trim_subset _ (List.mem_of_head? hhead))).2 (by decide)
  refine ⟨fun hmem => (hname _ hmem).2 (by decide), fun _ => ?_, fun port heq _ => ?_⟩
  · have hcolon : Chars.cutLast? ':' (Chars.trim h.toList) = none := by
      rw [Chars.cutLast?, (Chars.cutFirst?_eq_none_iff _ _).2]
      · rfl
      · exact fun hmem => (hname ':' (Chars.trim_subset _ (List.mem_reverse.1 hmem))).2 (by decide)
    rw [← String.toList_inj, Chars.hostOf_toList, Chars.hostOf, Text.trim_toList]
    simp only [hcolon, if_neg hbracket]
  · refine ⟨?_, hbracket, hport port heq⟩
    rw [Chars.trimStart_of_notBlank hblank, Chars.trim_of_notBlank hblank]

/-- Let a route ask for the host that is the domain of a pool, and take a request. The pool serves
the host of the request if route and pool agree on it, and the request is then not sent through a
pool behind this one. A pool for one exact host serves no other host that the route takes. -/
theorem pool_of_route (c : Config.Pool) (r : Request.Head) (secure : Bool)
    (hread : ∀ a, r.uri.authority = some a → Http.Uri.authority? a = .ok a)
    (hroute : (Condition.ofHost c.domain).holds (r.view secure) = true) :
    (Agrees c.domain r.host → (Policy.ofConfig c).serves r.host = true ∧
      ∀ (registry : Pool.Registry) (before after : List Config.Pool) (endpoints : List Endpoint),
        registry.Serving (before ++ c :: after) endpoints →
        c.isDefault = false ∧ c.enabled = true →
        (∀ d ∈ choosy before, (Policy.ofConfig d).serves r.host = false) →
        registry.resolve r.host = ⟨registry.generation, (choosy before).length⟩) ∧
    (∀ s, Domain.parse c.domain = .exact s → (Policy.ofConfig c).serves r.host = true →
      Agrees c.domain r.host) := by
  have hplain := r.plain_host hread
  have hhost := (holds_ofHost_iff (host?_of_holds hroute) c.domain).1 hroute
  rw [lowerHost_eq_lower (notMem_of_plain hplain)] at hhost
  constructor
  · intro hagrees
    rw [lowerHost_eq_lower hagrees.noKelvin] at hhost
    have heq := (hostOf_iff hagrees.noKelvin hhost).2 hagrees
    have hserves : (Policy.ofConfig c).serves r.host = true := by
      rw [Pool.Registry.serves_ofConfig, Domain.serves, heq]
      exact covers_self c.domain
    exact ⟨hserves, fun _ _ _ _ hserving hchosen hothers =>
      resolve_of_serves hserving hchosen hserves hothers⟩
  · intro s hs hserves
    have heq : Text.lower (Domain.hostOf r.host) = Text.lower (Text.trim c.domain) := by
      rw [Pool.Registry.serves_ofConfig, Domain.serves, hs, Domain.covers, beq_iff_eq] at hserves
      exact hserves.trans (parse_eq_exact hs)
    have hkelvin := noKelvin_of_lower_eq hplain heq
    rw [lowerHost_eq_lower hkelvin] at hhost
    exact (hostOf_iff hkelvin hhost).1 heq

theorem pool_of_route_port :
    let c : Config.Pool := { id := "site", domain := "Site.test" }
    let h := Http.Headers.empty.append "host" (Bytes.ofText "SITE.test:8080")
    let r : Request.Head := ⟨"GET", ⟨none, none, "/", none⟩, .http11, h⟩
    (Condition.ofHost c.domain).holds (r.view false) = true ∧
      (Policy.ofConfig c).serves r.host = true := by
  intro c h r
  have hroute : (Condition.ofHost c.domain).holds (r.view false) = true := by decide +kernel
  have hread : ∀ a, r.uri.authority = some a → Http.Uri.authority? a = .ok a := nofun
  obtain ⟨hpool, _⟩ := pool_of_route c r false hread hroute
  refine ⟨hroute, (hpool (agrees_of_isName (by decide +kernel) fun port hport => ?_)).1⟩
  have hlower : Text.lower r.host = Text.lower c.domain ++ ":" ++ "8080" := by decide +kernel
  have hsame := congrArg String.toList (hlower.symm.trans hport)
  rw [toList_port, toList_port] at hsame
  rw [← (List.cons.inj (List.append_cancel_left hsame)).2]
  decide +kernel

/-- An address in brackets, a port that is no number and a domain with a port: the route takes the
request, and it is sent through the default pool instead of the one for the same text. -/
theorem routed_past_its_pool :
    let seen (domain host : String) : Bool × Bool × Option String :=
      let c : Config.Pool := { id := "site", domain }
      let h := Http.Headers.empty.append "host" (Bytes.ofText host)
      let r : Request.Head := ⟨"GET", ⟨none, none, "/", none⟩, .http11, h⟩
      let registry := Pool.Registry.empty.install [c] []
      ((Condition.ofHost domain).holds (r.view false), (Policy.ofConfig c).serves r.host,
        (registry.pool? (registry.resolve r.host)).map (·.policy.id))
    seen "[::1]" "[::1]:8080" = (true, false, some "default") ∧
      seen "[::1]" "[::1]" = (true, false, some "default") ∧
      seen "site.test" "site.test:http" = (true, false, some "default") ∧
      seen "site.test:8080" "site.test:8080" = (true, false, some "default") := by
  decide +kernel

end Routing
end ReverseProxy
