import Mathlib.Data.List.Induction
import ReverseProxy.Routing.Mapper

set_option autoImplicit false

namespace ReverseProxy.Routing

def members (bs : List Config.Backend) (name : String) : List Endpoint :=
  (bs.filter (·.group == name)).filterMap fun b => (Endpoint.parse b.address).toOption

theorem members_concat (bs : List Config.Backend) (b : Config.Backend) (name : String) :
    members (bs ++ [b]) name = members bs name ++
      if b.group = name then (Endpoint.parse b.address).toOption.toList else [] := by
  simp only [members, List.filter_append, List.filterMap_append]
  congr 1
  by_cases h : b.group = name
  · cases hb : Endpoint.parse b.address with
    | ok e => simp [h, hb, Except.toOption]
    | error cause => simp [h, hb, Except.toOption]
  · simp [h]

theorem mem_members {bs : List Config.Backend} {name : String} {e : Endpoint} :
    e ∈ members bs name ↔ ∃ b ∈ bs, b.group = name ∧ Endpoint.parse b.address = .ok e := by
  have hok (b : Config.Backend) :
      (Endpoint.parse b.address).toOption = some e ↔ Endpoint.parse b.address = .ok e := by
    cases Endpoint.parse b.address with
    | ok a => simp [Except.toOption]
    | error cause => simp [Except.toOption]
  simp only [members, List.mem_filterMap, List.mem_filter, beq_iff_eq, hok, and_assoc]

theorem mem_dedup {α : Type} [DecidableEq α] {l : List α} {a : α} : a ∈ dedup l ↔ a ∈ l := by
  fun_induction dedup l with
  | case1 => rfl
  | case2 => rfl
  | case3 b l ih =>
    rw [ih]
    simp
  | case4 b c l hne ih =>
    rw [List.mem_cons, ih]
    exact List.mem_cons.symm

theorem mem_configuredEndpoints {c : Config} {e : Endpoint} :
    e ∈ configuredEndpoints c ↔ ∃ b ∈ c.backends, Endpoint.parse b.address = .ok e := by
  unfold configuredEndpoints
  rw [mem_dedup, List.mem_mergeSort, List.mem_filterMap]
  apply exists_congr
  intro b
  apply and_congr_right
  intro _
  cases Endpoint.parse b.address with
  | ok a => simp [Except.toOption]
  | error cause => simp [Except.toOption]

namespace Groups

theorem find?_set (gs : Groups) (name other : String) (g : Group) :
    (gs.set name g).find? other = if other = name then some g else gs.find? other := by
  unfold find?
  induction gs with
  | nil =>
    by_cases h : other = name
    · simp [set, h]
    · have h' : ¬name = other := fun e => h e.symm
      simp [set, h, h']
  | cons p ps ih =>
    by_cases hp : p.1 = name
    · by_cases h : other = name
      · simp [set, hp, h]
      · have h' : ¬name = other := fun e => h e.symm
        simp [set, hp, h, h']
    · have hset : set name g (p :: ps) = p :: set name g ps := by simp [set, hp]
      rw [hset]
      by_cases h : p.1 = other
      · have h' : ¬other = name := fun e => hp (h.trans e)
        simp [h, h']
      · simpa [List.find?_cons, h] using ih

/-- The groups hold what `of` says, each at some turn. -/
def Hold (gs : Groups) (of : String → List Endpoint) : Prop :=
  ∀ name, (of name = [] → gs.find? name = none) ∧
    (of name ≠ [] → ∃ turn, gs.find? name = some ⟨of name, turn⟩)

theorem Hold.isSome {gs : Groups} {of : String → List Endpoint} (h : gs.Hold of) {name : String}
    (hne : of name ≠ []) : (gs.find? name).isSome = true := by
  obtain ⟨turn, hturn⟩ := (h name).2 hne
  rw [hturn]
  rfl

theorem Hold.addEndpoint {gs : Groups} {of : String → List Endpoint} (h : gs.Hold of)
    (name : String) (e : Endpoint) :
    (gs.addEndpoint name e).Hold fun other => of other ++ if name = other then [e] else [] := by
  have hheld : ((gs.find? name).map Group.endpoints).getD [] = of name := by
    by_cases hne : of name = []
    · rw [(h name).1 hne, hne]
      rfl
    · obtain ⟨turn, hturn⟩ := (h name).2 hne
      rw [hturn]
      rfl
  intro other
  simp only [Groups.addEndpoint, hheld, find?_set]
  by_cases ho : other = name
  · subst ho
    simp
  · have ho' : ¬name = other := fun e => ho e.symm
    simpa only [if_neg ho, if_neg ho', List.append_nil] using h other

theorem hold_ofBackends {bs : List Config.Backend}
    (h : ∀ b ∈ bs, ∃ e, Endpoint.parse b.address = .ok e) :
    ∃ gs, ofBackends bs = .ok gs ∧ gs.Hold (members bs) := by
  induction bs using List.reverseRecOn with
  | nil => exact ⟨[], rfl, fun name => ⟨fun _ => rfl, fun hne => absurd rfl hne⟩⟩
  | append_singleton bs b ih =>
    obtain ⟨gs, hgs, hold⟩ := ih fun a ha => h a (List.mem_append_left [b] ha)
    obtain ⟨e, he⟩ := h b (List.mem_append_right bs List.mem_cons_self)
    refine ⟨gs.addEndpoint b.group e, ?_, ?_⟩
    · unfold ofBackends at hgs ⊢
      rw [List.foldlM_append, hgs]
      simp only [List.foldlM_cons, List.foldlM_nil, he]
      rfl
    · have hmembers : members (bs ++ [b]) =
          fun other => members bs other ++ if b.group = other then [e] else [] := by
        funext other
        rw [members_concat, he]
        rfl
      rw [hmembers]
      exact hold.addEndpoint b.group e

end Groups

namespace Group

theorem order_perm (g : Group) : g.order.Perm g.endpoints := by
  have hcomm : g.order.Perm (g.endpoints.take (g.turn % g.endpoints.length) ++
      g.endpoints.drop (g.turn % g.endpoints.length)) := List.perm_append_comm
  rw [List.take_append_drop] at hcomm
  exact hcomm

theorem exists_pick {g : Group} (hne : g.endpoints ≠ []) (available : Endpoint → Bool) :
    ∃ e ∈ g.endpoints, g.pick available = some e := by
  have horder : g.order ≠ [] := by
    intro hnil
    have hperm := g.order_perm
    rw [hnil] at hperm
    exact hne hperm.symm.eq_nil
  unfold pick
  cases hfind : g.order.find? available with
  | some e => exact ⟨e, g.order_perm.subset (List.mem_of_find?_eq_some hfind), rfl⟩
  | none =>
    obtain ⟨e, l, hl⟩ := List.exists_cons_of_ne_nil horder
    have he : e ∈ g.endpoints := g.order_perm.subset (by rw [hl]; exact List.mem_cons_self)
    refine ⟨e, he, ?_⟩
    rw [hl]
    rfl

end Group

theorem Mapper.take_of_hold {m : Mapper} {of : String → List Endpoint} (h : m.groups.Hold of)
    {name : String} (hne : of name ≠ []) (available : Endpoint → Bool) :
    ∃ e ∈ of name, ∃ gs : Groups, gs.Hold of ∧
      m.take name available = (some e, { m with groups := gs }) := by
  obtain ⟨turn, hturn⟩ := (h name).2 hne
  let g : Group := ⟨of name, turn⟩
  obtain ⟨e, he, hpick⟩ := Group.exists_pick (g := g) hne available
  have hempty : g.endpoints.isEmpty = false := by
    cases hl : g.endpoints with
    | nil => exact absurd hl hne
    | cons a l => rfl
  let next : Group := { g with turn := (g.turn + 1) % Group.turns }
  refine ⟨e, he, m.groups.set name next, ?_, ?_⟩
  · intro other
    rw [Groups.find?_set]
    by_cases ho : other = name
    · subst ho
      exact ⟨fun hnil => absurd hnil hne, fun _ => ⟨next.turn, by rw [if_pos rfl]⟩⟩
    · rw [if_neg ho]
      exact h other
  · unfold take
    rw [hturn]
    have hnext : (⟨of name, turn⟩ : Group).next available = (some e, next) := by
      change g.next available = _
      unfold Group.next
      rw [hempty, hpick]
      rfl
    dsimp only
    rw [hnext]

end ReverseProxy.Routing
