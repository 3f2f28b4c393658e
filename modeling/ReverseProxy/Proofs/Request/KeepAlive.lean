import ReverseProxy.Proofs.Cache.Refusals
import ReverseProxy.Request.Context

set_option autoImplicit false

namespace ReverseProxy

namespace Http

/-- One of the lines has the token in its list, in any case and with any space around it. -/
def Listed (lines : List Bytes) (token : String) : Prop :=
  ∃ line ∈ lines, Bytes.ofText token ∈ Bytes.items line

/-- After a request with these lines its connection is kept, and the client is to be told so. -/
def Version.Keeps (v : Version) (lines : List Bytes) : Prop :=
  match v with
  | .http11 => ¬Listed lines "close"
  | .http10 => Listed lines "keep-alive"
  | .http09 | .http2 | .http3 => False

instance (lines : List Bytes) (token : String) : Decidable (Listed lines token) :=
  inferInstanceAs (Decidable (∃ line ∈ lines, Bytes.ofText token ∈ Bytes.items line))

instance (v : Version) (lines : List Bytes) : Decidable (v.Keeps lines) :=
  match v with
  | .http11 => inferInstanceAs (Decidable ¬Listed lines "close")
  | .http10 => inferInstanceAs (Decidable (Listed lines "keep-alive"))
  | .http09 | .http2 | .http3 => inferInstanceAs (Decidable False)

/-- The token that decides whether a connection is kept. -/
def Version.decisive? : Version → Option String
  | .http11 => some "close"
  | .http10 => some "keep-alive"
  | .http09 | .http2 | .http3 => none

section
variable {v : Version} {lines heeded : List Bytes} {token : String}

theorem Listed.mono (h : Listed heeded token) (hsub : heeded ⊆ lines) : Listed lines token := by
  obtain ⟨line, hline, hitem⟩ := h
  exact ⟨line, hsub hline, hitem⟩

/-- Some of the lines say what all of them say exactly if the token that decides is not on others
only. -/
theorem Version.keeps_iff (hsub : heeded ⊆ lines) : (v.Keeps heeded ↔ v.Keeps lines) ↔
    ∀ token ∈ v.decisive?, Listed lines token → Listed heeded token := by
  cases v with
  | http11 =>
    have hmono : Listed heeded "close" → Listed lines "close" := (·.mono hsub)
    simp only [Keeps, decisive?, Option.mem_some_iff, forall_eq']
    rw [not_iff_not]
    exact ⟨fun h => h.2, fun h => ⟨hmono, h⟩⟩
  | http10 =>
    have hmono : Listed heeded "keep-alive" → Listed lines "keep-alive" := (·.mono hsub)
    simp only [Keeps, decisive?, Option.mem_some_iff, forall_eq']
    exact ⟨fun h => h.2, fun h => ⟨hmono, h⟩⟩
  | http09 | http2 | http3 => exact iff_of_true Iff.rfl nofun

end

end Http

theorem Text.any_item_iff {text token : String} (htext : Plain text) (htoken : Plain token)
    (hlower : lower token = token) (hne : token ≠ "") :
    ((splitOn ',' text).any fun t => equalsIgnoringCase (trim t) token) = true ↔
      Bytes.ofText token ∈ Bytes.items (Bytes.ofText text) := by
  have heq (t : String) : equalsIgnoringCase (trim t) token = true ↔ lower (trim t) = token := by
    unfold equalsIgnoringCase
    rw [beq_iff_eq, hlower]
  rw [Bytes.items_ofText htext, List.any_eq_true, List.mem_map]
  constructor
  · rintro ⟨t, ht, hsame⟩
    have hitem := List.mem_map_of_mem (f := fun i => lower (trim i)) ht
    rw [(heq t).1 hsame] at hitem
    exact ⟨token, List.mem_filter.2 ⟨hitem, decide_eq_true hne⟩, rfl⟩
  · rintro ⟨item, hitem, hbytes⟩
    obtain ⟨t, ht, rfl⟩ := List.mem_map.1 (List.mem_of_mem_filter hitem)
    have hplain : Plain (lower (trim t)) := (htext.of_mem_splitOn ht).trim.lower
    exact ⟨t, ht, (heq t).2 ((Bytes.ofText_inj hplain htoken).1 hbytes)⟩

namespace Request.Head
variable (h : Head)

def connectionLines : List Bytes := h.headers.getAll "connection"

def heededLines : List Bytes := (h.connectionLines.take 1).filter fun l => (Bytes.text? l).isSome

theorem heededLines_subset : h.heededLines ⊆ h.connectionLines :=
  fun _ hline => List.mem_of_mem_take (List.mem_of_mem_filter hline)

theorem heededLines_eq :
    h.heededLines = ((h.headers.text? "connection").map Bytes.ofText).toList := by
  unfold heededLines connectionLines Http.Headers.text? Http.Headers.get?
  cases h.headers.getAll "connection" with
  | nil => rfl
  | cons line rest =>
    rw [List.take_succ_cons, List.take_zero, List.head?_cons, Option.bind_some]
    cases htext : Bytes.text? line with
    | none => exact List.filter_cons_of_neg (by simp [htext])
    | some text =>
      rw [List.filter_cons_of_pos (by simp [htext]), ← (Bytes.text?_eq_some_iff.1 htext).2]
      rfl

theorem hasConnectionToken_iff {token : String} (htoken : Text.Plain token)
    (hlower : Text.lower token = token) (hne : token ≠ "") :
    h.hasConnectionToken token = true ↔ Http.Listed h.heededLines token := by
  unfold hasConnectionToken Http.Listed
  rw [heededLines_eq]
  cases htext : h.headers.text? "connection" with
  | none =>
    have hnothing : Bytes.items (Bytes.ofText "") = [] := by rw [Bytes.ofText_eq_nil_iff.2 rfl]; rfl
    rw [Option.getD_none, Text.any_item_iff (by decide) htoken hlower hne, hnothing]
    simp
  | some text =>
    obtain ⟨line, _, hread⟩ := Option.bind_eq_some_iff.1 htext
    rw [Option.getD_some,
      Text.any_item_iff (Bytes.text?_eq_some_iff.1 hread).1 htoken hlower hne]
    simp

theorem keepAlive_iff :
    (h.keepAlive && h.version.isHttp1) = true ↔ h.version.Keeps h.heededLines := by
  have hclose : h.hasConnectionToken "close" = true ↔ Http.Listed h.heededLines "close" :=
    h.hasConnectionToken_iff (by decide) (by decide) (by decide)
  have hkeep :
      h.hasConnectionToken "keep-alive" = true ↔ Http.Listed h.heededLines "keep-alive" :=
    h.hasConnectionToken_iff (by decide) (by decide) (by decide)
  unfold keepAlive Http.Version.Keeps
  cases h.version with
  | http11 => simp [← hclose, Http.Version.isHttp1]
  | http10 => simp [← hkeep, Http.Version.isHttp1]
  | http09 | http2 | http3 => simp [Http.Version.isHttp1]

end Request.Head
end ReverseProxy
