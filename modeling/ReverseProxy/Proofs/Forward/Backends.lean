import Mathlib.Data.Bool.AllAny
import ReverseProxy.Proofs.Endpoint
import ReverseProxy.Proofs.Forward.Outgoing
import ReverseProxy.Proofs.Http.AuthorityHosts
import ReverseProxy.Proofs.Http.Values
import ReverseProxy.Proofs.Routing.Validated

set_option autoImplicit false

namespace ReverseProxy

namespace Endpoint

theorem toList_text (e : Endpoint) :
    e.text.toList = Http.Uri.written e.host.toList (Nat.toDigits 10 e.port.toNat) := by
  rw [text_eq, shown, Http.Uri.written, Http.Uri.enclosed, Text.ofNat]
  split <;> simp

theorem isAuthority_text_iff {e : Endpoint} (hne : e.host ≠ "") :
    (Http.Uri.IsAuthority e.text.toList ∧ Http.Uri.hostOf e.text.toList = e.host.toList) ↔
      Http.Uri.Addressable e.host.toList := by
  rw [toList_text]
  exact Http.Uri.addressable_iff
    (fun c hc => Http.Uri.isHostChar_of_isDigit (Chars.isDigit_toDigits c hc))
    (mt String.toList_eq_nil_iff.1 hne)

end Endpoint

namespace Forward.Outgoing

/-- A request that goes to the host and port of an endpoint. -/
structure GoesTo (o : Outgoing) (e : Endpoint) : Prop where
  host : Http.Uri.hostOf o.authority.toList = e.host.toList
  port : Http.Uri.portOf? o.authority.toList = some e.port.toNat

section
variable {r : Request.Incoming} {e : Endpoint} {capturing : Bool} {o : Outgoing}

theorem authority_eq (h : ofIncoming r e capturing = .ok o) :
    o.authority = e.text ∧ Http.Uri.IsAuthority e.text.toList :=
  Http.Uri.isAuthority_of_authority? (authority_of_ofIncoming h)

theorem goesTo_iff (h : ofIncoming r e capturing = .ok o) :
    o.GoesTo e ↔ Http.Uri.hostOf e.text.toList = e.host.toList := by
  have hauthority := (authority_eq h).1
  refine ⟨fun hto => hauthority ▸ hto.host, fun hhost => ⟨hauthority ▸ hhost, ?_⟩⟩
  rw [hauthority, Endpoint.toList_text]
  exact Http.Uri.portOf?_written _ e.port.toNat_lt

theorem text_of_slash (h : Text.hasStart "/" o.pathAndQuery = true) :
    o.text = "http://" ++ o.authority ++ o.pathAndQuery := by
  rw [text, h, Bool.true_or, if_pos rfl, String.append_empty]

theorem exists_ofIncoming_iff
    (hread : ∀ a, r.head.uri.authority = some a → Http.Uri.authority? a = .ok a) :
    (∃ o, ofIncoming r e capturing = .ok o) ↔ Http.Uri.IsAuthority e.text.toList := by
  refine ⟨fun ⟨o, ho⟩ => (authority_eq ho).2, fun h => ?_⟩
  have hne : e.text.toList ≠ [] := by
    rw [Endpoint.toList_text, Http.Uri.written]
    exact List.append_ne_nil_of_right_ne_nil _ (List.cons_ne_nil _ _)
  have hauthority := Http.Uri.authority?_ofList h hne
  rw [String.ofList_toList] at hauthority
  exact exists_ofIncoming capturing ⟨_, hauthority⟩
    (.inr (Bytes.isSome_headerValue?_iff.2 (r.head.plain_host hread).holdable))

end

/-- The address of a backend in a valid configuration is read as an endpoint. A request whose path
begins with a slash, and whose own authority was read as one if it has one, is sent to the host and
port of the endpoint, with its own path and query, exactly if the host is one that an authority can
name. With any other host the request fails because of its target, or it is sent to another host. -/
theorem reaches_backend (c : Config) (hc : c.Valid) (b : Config.Backend) (hb : b ∈ c.backends) :
    ∃ e, Endpoint.parse b.address = .ok e ∧
      ∀ (r : Request.Incoming) (capturing : Bool) (pq : String),
        (∀ a, r.head.uri.authority = some a → Http.Uri.authority? a = .ok a) →
        r.head.uri.pathAndQuery? = some pq → Text.hasStart "/" pq = true →
        ((∃ o, ofIncoming r e capturing = .ok o ∧ o.GoesTo e ∧ o.pathAndQuery = pq ∧
            o.text = "http://" ++ o.authority ++ pq) ↔ Http.Uri.Addressable e.host.toList) ∧
        (¬Http.Uri.Addressable e.host.toList →
          (∃ reason, ofIncoming r e capturing = .error (.invalidTarget reason)) ∨
            ∃ o, ofIncoming r e capturing = .ok o ∧
              Http.Uri.hostOf o.authority.toList ≠ e.host.toList) := by
  obtain ⟨e, he⟩ := hc.routable.addresses b hb
  refine ⟨e, he, fun r capturing pq hread hpq hslash => ?_⟩
  obtain ⟨host, port, hnew, _⟩ := Endpoint.parse_eq_ok he
  have hname := Endpoint.isAuthority_text_iff (Endpoint.host_of_new hnew).1
  have hsent : (∃ o, ofIncoming r e capturing = .ok o) ↔ _ := exists_ofIncoming_iff hread
  constructor
  · rw [← hname, ← hsent]
    constructor
    · rintro ⟨o, ho, hto, _⟩
      exact ⟨⟨o, ho⟩, (goesTo_iff ho).1 hto⟩
    · rintro ⟨⟨o, ho⟩, hhost⟩
      have hsame : o.pathAndQuery = pq := by
        rw [(ofIncoming_eq_ok ho).2.2.1, hpq, Option.getD_some]
      refine ⟨o, ho, (goesTo_iff ho).2 hhost, hsame, ?_⟩
      rw [← hsame]
      exact text_of_slash (hsame ▸ hslash)
  · intro hnone
    cases ho : ofIncoming r e capturing with
    | error why =>
      obtain ⟨_, reason, rfl⟩ := ofIncoming_error ho capturing
      exact .inl ⟨reason, rfl⟩
    | ok o =>
      obtain ⟨hauthority, htext⟩ := authority_eq ho
      refine .inr ⟨o, rfl, fun hhost => hnone (hname.1 ⟨htext, ?_⟩)⟩
      rwa [← hauthority]

theorem reaches_backend_address :
    let b : Config.Backend := ⟨"a", "web", "http://[FE80::1%eth0]:8080/"⟩
    let c : Config := { backends := [b], routes := [
      { name := "site", action := .proxy, backendGroup := some "web" }] }
    let r : Request.Incoming := ⟨⟨"GET", ⟨none, none, "/page", some "x=1"⟩, .http11, .empty⟩, []⟩
    c.Valid ∧ ∃ e, Endpoint.parse b.address = .ok e ∧ ∃ o, ofIncoming r e false = .ok o ∧
      o.GoesTo e ∧ o.text = "http://[fe80::1%eth0]:8080/page?x=1" := by
  intro b c r
  have hvalid : c.Valid := by decide +kernel
  obtain ⟨e, he, hreach⟩ := reaches_backend c hvalid b List.mem_cons_self
  have hparse : Endpoint.parse b.address = .ok ⟨"fe80::1%eth0", 8080⟩ := by decide +kernel
  obtain rfl : ⟨"fe80::1%eth0", 8080⟩ = e := Except.ok.inj (hparse.symm.trans he)
  obtain ⟨hiff, _⟩ := hreach r false "/page?x=1" nofun rfl (by decide)
  obtain ⟨o, ho, hto, _, htext⟩ := hiff.2
    (.address (by decide) (by decide) (List.all_iff_forall_prop.1 (by decide)))
  refine ⟨hvalid, _, he, o, ho, hto, ?_⟩
  rw [htext, (authority_eq ho).1]
  decide +kernel

/-- Valid addresses that no request reaches: one with a blank in its host, and one with a user
before it, who is not a part of the host any more. -/
theorem valid_backends_missed :
    let c : Config := {
      backends := [⟨"a", "web", "a b:80"⟩, ⟨"b", "web", "user@10.0.0.1:80"⟩]
      routes := [{ name := "site", action := .proxy, backendGroup := some "web" }] }
    let r : Request.Incoming := ⟨⟨"GET", ⟨none, none, "/", none⟩, .http11, .empty⟩, []⟩
    c.Valid ∧ Endpoint.parse "a b:80" = .ok ⟨"a b", 80⟩ ∧
      ofIncoming r ⟨"a b", 80⟩ false = .error (.invalidTarget "invalid uri character") ∧
      Endpoint.parse "user@10.0.0.1:80" = .ok ⟨"user@10.0.0.1", 80⟩ ∧
      (ofIncoming r ⟨"user@10.0.0.1", 80⟩ false).map (fun o => Http.Uri.hostOf o.authority.toList) =
        .ok "10.0.0.1".toList := by
  decide +kernel

end Forward.Outgoing

end ReverseProxy
