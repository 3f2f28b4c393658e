import ReverseProxy.Gate
import ReverseProxy.Proofs.Http.Absolute
import ReverseProxy.Proofs.Proxy.Records
import ReverseProxy.Proofs.Server.History

set_option autoImplicit false

/-!
# Targets that reach the proxy

Requests are routed by two patterns, one for the root and one for what is below it. These meet the
paths of targets in origin form and in absolute form, with any number of slashes, but neither an
authority nor `*`. A request that meets one is taken in by the proxy, once, and leaves one record;
any other is turned away without the proxy.
-/
namespace ReverseProxy
open Request

namespace Http.Uri

inductive Form where
  | origin
  | absolute
  | authority
  | asterisk
deriving DecidableEq, Repr

def form (u : Uri) : Form :=
  if u.scheme.isSome then .absolute
  else if u.authority.isSome then .authority
  else if u.rawPath = "*" then .asterisk
  else .origin

/-- The paths that targets of a form have. -/
def Form.Path : Form → String → Prop
  | .origin, path | .absolute, path => path.toList.head? = some '/'
  | .authority, path => path = ""
  | .asterisk, path => path = "*"

theorem path_of_splitPathAndQuery {cs path : List Char} {query : Option (List Char)}
    (h : splitPathAndQuery cs = .ok (path, query)) :
    path = cs.takeWhile fun c => c != '?' && c != '#' := by
  unfold splitPathAndQuery at h
  dsimp only at h
  split at h
  · cases h
  · split at h
    · split at h <;> cases h
      rfl
    · cases h
      rfl

theorem head?_path_of_splitAuthority {cs front rest path : List Char}
    {query : Option (List Char)} (hauthority : splitAuthority cs = .ok (front, rest))
    (hpath : splitPathAndQuery rest = .ok (path, query)) : path = [] ∨ path.head? = some '/' := by
  obtain ⟨_, _, hrest⟩ := front_of_splitAuthority hauthority
  rw [path_of_splitPathAndQuery hpath]
  cases hcons : rest with
  | nil => exact .inl rfl
  | cons c rest' =>
    have hends : endsAuthority c = true := by
      have hhead := List.head?_dropWhile_not (fun c => !endsAuthority c) cs
      rw [← hrest, hcons] at hhead
      simpa using hhead
    by_cases hslash : c = '/'
    · exact .inr (by rw [hslash]; rfl)
    · refine .inl (List.takeWhile_cons_of_neg ?_)
      have hother : c = '?' ∨ c = '#' := by simpa [endsAuthority, hslash] using hends
      rcases hother with rfl | rfl <;> decide

theorem head?_path {u : Uri} (h : u.rawPath = "" ∧ u.scheme.isSome = true ∨
    u.rawPath.toList.head? = some '/') : u.path.toList.head? = some '/' := by
  rcases h with ⟨hempty, hscheme⟩ | hslash
  · have hhas : u.hasPath = true := by simp [hasPath, hscheme]
    rw [path, if_pos hhas, if_pos hempty]
    rfl
  · rw [path_of_slash hslash]
    exact hslash

theorem path_of_parse {s : String} {u : Uri} (h : parse s = .ok u) : u.form.Path u.path := by
  unfold parse at h
  split at h
  · cases h
  dsimp only at h
  split at h
  · cases h
  · cases h
    rfl
  · next rest hs =>
    obtain ⟨⟨path, query⟩, hsplit, h⟩ := bind_ok h
    cases h
    rw [hs] at hsplit
    have hpath : path = '/' :: rest.takeWhile fun c => c != '?' && c != '#' :=
      path_of_splitPathAndQuery hsplit
    subst hpath
    have hne : String.ofList ('/' :: rest.takeWhile fun c => c != '?' && c != '#') ≠ "*" := by
      intro heq
      have hchars := congrArg String.toList heq
      rw [String.toList_ofList] at hchars
      cases hchars
    unfold form
    rw [if_neg (by simp), if_neg (by simp), if_neg hne]
    exact head?_path (.inr (by rw [String.toList_ofList]; rfl))
  · obtain ⟨a, _, h⟩ := bind_ok h
    cases h
    rfl
  · obtain ⟨scheme, _, h⟩ := bind_ok h
    cases scheme with
    | none =>
      obtain ⟨⟨front, rest⟩, _, h⟩ := bind_ok h
      dsimp only at h
      split at h
      · cases h
        rfl
      · cases h
    | some scheme =>
      obtain ⟨⟨front, rest⟩, hauthority, h⟩ := bind_ok h
      dsimp only at h
      split at h
      · cases h
      obtain ⟨⟨path, query⟩, hsplit, h⟩ := bind_ok h
      cases h
      refine head?_path ?_
      rcases head?_path_of_splitAuthority hauthority hsplit with rfl | hslash
      · exact .inl ⟨rfl, rfl⟩
      · exact .inr (by rwa [String.toList_ofList])

end Http.Uri

namespace Server

def Pattern.Matches : Pattern → String → Prop
  | .root, path => path = "/"
  | .below, path => ∃ c cs, path.toList = '/' :: c :: cs

section
variable {u : Http.Uri} {text : String}

theorem Pattern.of?_eq_some_iff {path : String} {pattern : Pattern} :
    of? path = some pattern ↔ pattern.Matches path := by
  unfold of?
  constructor
  · intro h
    split at h
    · next hpath =>
      cases h
      exact String.toList_injective hpath
    · next c cs hpath =>
      cases h
      exact ⟨c, cs, hpath⟩
    · cases h
  · intro h
    cases pattern with
    | root =>
      rw [show path = "/" from h]
      rfl
    | below =>
      obtain ⟨c, cs, hpath⟩ := h
      rw [hpath]
      rfl

theorem exists_matches_iff {path : String} :
    (∃ pattern : Pattern, pattern.Matches path) ↔ path.toList.head? = some '/' := by
  constructor
  · rintro ⟨pattern, hmatches⟩
    cases pattern with
    | root =>
      rw [show path = "/" from hmatches]
      rfl
    | below =>
      obtain ⟨c, cs, hpath⟩ := hmatches
      rw [hpath]
      rfl
  · intro hhead
    obtain ⟨cs, hpath⟩ := List.head?_eq_some_iff.1 hhead
    cases cs with
    | nil => exact ⟨.root, String.toList_injective hpath⟩
    | cons c cs => exact ⟨.below, c, cs, hpath⟩

theorem reachesProxy_iff : reachesProxy u = true ↔ ∃ pattern : Pattern, pattern.Matches u.path := by
  rw [exists_matches_iff]
  unfold reachesProxy Text.hasStart
  rw [Option.isSome_iff_exists, List.head?_eq_some_iff]
  exact exists_congr fun cs => Chars.stripStart?_eq_some_iff _ _ cs

/-- Of the targets that were read just those in origin form and in absolute form meet a pattern. -/
theorem reachesProxy_of_parse (h : Http.Uri.parse text = .ok u) :
    reachesProxy u = true ↔ u.form = .origin ∨ u.form = .absolute := by
  have hpath := Http.Uri.path_of_parse h
  rw [reachesProxy_iff, exists_matches_iff]
  generalize u.form = form at hpath
  cases form with
  | origin => exact iff_of_true hpath (.inl rfl)
  | absolute => exact iff_of_true hpath (.inr rfl)
  | authority =>
    rw [show u.path = "" from hpath]
    exact iff_of_false (by decide) (by decide)
  | asterisk =>
    rw [show u.path = "*" from hpath]
    exact iff_of_false (by decide) (by decide)

end

/-- The request that `s` took in with the event reached its proxy once, and is answered by it. Once
it has ended, it has one of the records `rs`. -/
structure Reaches (s : Server) (connection : Connection) (r : Incoming) (fresh : Bytes)
    (H : List Proxy.Moment) (rs : List Access.Record) (q : Proxy) : Prop where
  once : (Event.request connection r fresh).changes =
    [.event (.request connection (named r fresh))]
  answer : (s.step (.request connection r fresh)).1 =
    deliver (named r fresh).head (s.proxy.receive connection (named r fresh)).1
  underWay : (q.forward? s.proxy.nextId).isSome = true →
    Proxy.recordsOf rs s.proxy.nextId = []
  ended : q.forward? s.proxy.nextId = none →
    ∃ rec, Proxy.recordsOf rs s.proxy.nextId = [rec] ∧
      rec.action = (s.proxy.contextFor connection (named r fresh)).decision.action ∧
      rec.status = (Proxy.told H s.proxy.nextId).headD Forward.clientClosedRequest

section
variable {s : Server} {connection : Connection} {r : Incoming} {fresh : Bytes}

theorem reaches_of_logged {H : List Proxy.Moment} {rs : List Access.Record} {q : Proxy}
    (h : Proxy.Logged H rs q)
    (hmem : (s.proxy, .event (.request connection (named r fresh))) ∈ H)
    (hreaches : reachesProxy r.head.uri = true) : s.Reaches connection r fresh H rs q := by
  have honce : (Event.request connection r fresh).changes =
      [.event (.request connection (named r fresh))] := if_pos hreaches
  have hanswer : (s.step (.request connection r fresh)).1 =
      deliver (named r fresh).head (s.proxy.receive connection (named r fresh)).1 := by
    rw [step_request, if_pos hreaches]
    rfl
  have hstands := (h.requests _ connection _ hmem).2
  refine ⟨honce, hanswer, fun hsome => ?_, fun hnone => ?_⟩
  · rw [Proxy.forward?_eq] at hsome
    cases hstands with
    | underWay f forwards records starts concerns => exact records
    | ended c now forwards records concerns =>
      rw [forwards] at hsome
      cases hsome
  · rw [Proxy.forward?_eq] at hnone
    cases hstands with
    | underWay f forwards records starts concerns =>
      rw [forwards] at hnone
      cases hnone
    | ended c now forwards records concerns =>
      obtain ⟨_, haction, _⟩ := c.finish_of now
      exact ⟨c.finish now, records, haction.trans (congrArg _ concerns.decision),
        (c.status_finish now).trans (by rw [concerns.told])⟩

theorem step_of_unmatched (s : Server) (hreaches : reachesProxy r.head.uri = false) :
    s.step (.request connection r fresh) =
      (deliver (named r fresh).head (.response unrouted), s) := by
  have hnot : ¬reachesProxy r.head.uri = true := Bool.eq_false_iff.1 hreaches
  simp only [step, receive, if_neg hnot]
  rfl

end

end Server
end ReverseProxy
