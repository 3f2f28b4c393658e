import Mathlib.Data.Int.CardIntervalMod
import Mathlib.Data.List.Rotate
import Mathlib.Data.Nat.Periodic
import ReverseProxy.Proofs.Routing.Groups

set_option autoImplicit false

namespace ReverseProxy.Routing

/-- Of the numbers in a stretch of `m * n`, each remainder modulo `n` belongs to `m`. -/
theorem count_mod_range' {n p : Nat} (hp : p < n) (start m : Nat) :
    ((List.range' start (m * n)).map (· % n)).count p = m := by
  have hn : 0 < n := Nat.zero_lt_of_lt hp
  have hperiodic : Function.Periodic (fun k => k % n = p) (m * n) := by
    intro k
    simp
  calc ((List.range' start (m * n)).map (· % n)).count p
      = ((Finset.Ico start (start + m * n)).filter fun k => k % n = p).card := by
        rw [List.count_eq_countP, List.countP_map, List.countP_eq_length_filter]
        have hlength : start + m * n - start = m * n := by omega
        change _ = ((List.range' start (start + m * n - start)).filter _).length
        rw [hlength]
        rfl
    _ = Nat.count (fun k => k % n = p) (m * n) :=
        Nat.filter_Ico_card_eq_of_periodic _ _ _ hperiodic
    _ = Nat.count (fun k => k ≡ p [MOD n]) (m * n) := by
        congr 1
        funext k
        rw [Nat.ModEq, Nat.mod_eq_of_lt hp]
    _ = m := by
        rw [Nat.count_modEq_card _ hn]
        simp [Nat.mul_div_cancel m hn]

namespace Group

/-- The place that a call takes which starts at `start`: the first one in the circle that is
available, or the start where none is. -/
inductive Takes (es : List Endpoint) (available : Endpoint → Bool) (start : Nat) : Nat → Prop where
  | first (i : Nat) (e : Endpoint) (round : i < es.length)
      (held : es[(start + i) % es.length]? = some e) (free : available e = true)
      (passed : ∀ j < i, ∀ a, es[(start + j) % es.length]? = some a → available a = false) :
    Takes es available start ((start + i) % es.length)
  | start (none : ∀ e ∈ es, available e = false) : Takes es available start (start % es.length)

def place (es : List Endpoint) (start : Nat) (available : Endpoint → Bool) : Nat :=
  (start + ((es.rotate start).findIdx? available).getD 0) % es.length

def places (es : List Endpoint) (calls : List (Endpoint → Bool)) : List Nat :=
  calls.zipIdx.map fun (available, k) => place es k available

def picks (g : Group) : List (Endpoint → Bool) → List (Option Endpoint)
  | [] => []
  | available :: calls => (g.next available).1 :: (g.next available).2.picks calls

def after (g : Group) (calls : List (Endpoint → Bool)) : Group :=
  calls.foldl (fun g available => (g.next available).2) g

section
variable {es : List Endpoint}

theorem order_eq_rotate (g : Group) : g.order = g.endpoints.rotate g.turn :=
  List.rotate_eq_drop_append_take_mod.symm

theorem getElem?_circle (start : Nat) {j : Nat} (hj : j < es.length) :
    (es.rotate start)[j]? = es[(start + j) % es.length]? := by
  rw [List.getElem?_rotate hj, Nat.add_comm]

theorem place_lt (hne : es ≠ []) (start : Nat) (available : Endpoint → Bool) :
    place es start available < es.length :=
  Nat.mod_lt _ (List.length_pos_iff.2 hne)

theorem place_of_available (hne : es ≠ []) {available : Endpoint → Bool}
    (hall : ∀ e ∈ es, available e = true) (start : Nat) :
    place es start available = start % es.length := by
  have hfirst : (es.rotate start).findIdx? available = some 0 := by
    have hrotated : es.rotate start ≠ [] := mt List.rotate_eq_nil_iff.1 hne
    obtain ⟨e, rest, hrotate⟩ := List.exists_cons_of_ne_nil hrotated
    have he : e ∈ es.rotate start := by simp [hrotate]
    rw [hrotate, List.findIdx?_cons, hall e (List.mem_rotate.1 he)]
    rfl
  rw [place, hfirst]
  rfl

theorem takes_place (es : List Endpoint) (available : Endpoint → Bool) (start : Nat) :
    Takes es available start (place es start available) := by
  unfold place
  cases hfind : (es.rotate start).findIdx? available with
  | none =>
    refine .start fun e he => ?_
    exact List.findIdx?_eq_none_iff.1 hfind e (List.mem_rotate.2 he)
  | some i =>
    obtain ⟨hi, hfree, hpassed⟩ := List.findIdx?_eq_some_iff_getElem.1 hfind
    have hround : i < es.length := by rwa [List.length_rotate] at hi
    refine .first i _ hround ?_ hfree fun j hj a ha => ?_
    · rw [← getElem?_circle start hround, List.getElem?_eq_getElem hi]
    · rw [← getElem?_circle start (hj.trans hround), List.getElem?_eq_some_iff] at ha
      obtain ⟨_, rfl⟩ := ha
      simpa using hpassed j hj

theorem Takes.available {available : Endpoint → Bool} {start p : Nat} {e a : Endpoint}
    (h : Takes es available start p) (he : es[p]? = some e) (ha : a ∈ es)
    (hfree : available a = true) : available e = true := by
  cases h with
  | first i e' round held free passed =>
    rw [he, Option.some.injEq] at held
    exact held ▸ free
  | start none =>
    rw [none a ha] at hfree
    cases hfree

theorem pick_eq {g : Group} (hne : g.endpoints ≠ []) (available : Endpoint → Bool) :
    g.pick available = g.endpoints[place g.endpoints g.turn available]? := by
  have hpos : 0 < g.endpoints.length := List.length_pos_iff.2 hne
  unfold pick place
  rw [order_eq_rotate]
  cases hfind : (g.endpoints.rotate g.turn).findIdx? available with
  | none =>
    rw [List.find?_eq_none.2, Option.none_or, List.head?_eq_getElem?,
      getElem?_circle g.turn hpos]
    · rfl
    · simpa using List.findIdx?_eq_none_iff.1 hfind
  | some i =>
    obtain ⟨hi, hfree, hpassed⟩ := List.findIdx?_eq_some_iff_getElem.1 hfind
    rw [List.length_rotate] at hi
    have hfound : (g.endpoints.rotate g.turn).find? available =
        (g.endpoints.rotate g.turn)[i]? := by
      rw [List.getElem?_eq_getElem (by rwa [List.length_rotate]), List.find?_eq_some_iff_getElem]
      exact ⟨hfree, i, by rwa [List.length_rotate], rfl, fun j hj => by simpa using hpassed j hj⟩
    rw [hfound, getElem?_circle g.turn hi, List.getElem?_eq_getElem (Nat.mod_lt _ hpos),
      Option.some_or, Option.getD_some, List.getElem?_eq_getElem (Nat.mod_lt _ hpos)]

theorem next_eq {g : Group} (hne : g.endpoints ≠ []) (hturn : g.turn + 1 < turns)
    (available : Endpoint → Bool) : g.next available =
      (g.endpoints[place g.endpoints g.turn available]?, ⟨g.endpoints, g.turn + 1⟩) := by
  unfold next
  rw [if_neg (by simpa using hne), pick_eq hne, Nat.mod_eq_of_lt hturn]

theorem after_eq (hne : es ≠ []) {turn : Nat} {calls : List (Endpoint → Bool)}
    (hturns : turn + calls.length < turns) :
    (⟨es, turn⟩ : Group).after calls = ⟨es, turn + calls.length⟩ := by
  induction calls generalizing turn with
  | nil => rfl
  | cons available calls ih =>
    rw [List.length_cons] at hturns
    have hstep : turn + 1 < turns := by omega
    have hrest : turn + 1 + calls.length < turns := by omega
    change ((⟨es, turn⟩ : Group).next available).2.after calls = _
    rw [next_eq hne hstep, ih hrest, List.length_cons, Nat.add_assoc, Nat.add_comm 1]

theorem after_take (hne : es ≠ []) {calls : List (Endpoint → Bool)} (hturns : calls.length < turns)
    {k : Nat} (hk : k ≤ calls.length) :
    ({ endpoints := es } : Group).after (calls.take k) = ⟨es, k⟩ := by
  have hlength : (calls.take k).length = k := List.length_take_of_le hk
  have hfirst : 0 + (calls.take k).length < turns := by omega
  rw [after_eq hne hfirst, hlength, Nat.zero_add]

theorem picks_eq (hne : es ≠ []) {turn : Nat} {calls : List (Endpoint → Bool)}
    (hturns : turn + calls.length < turns) : (⟨es, turn⟩ : Group).picks calls =
      (calls.zipIdx turn).map fun (available, k) => es[place es k available]? := by
  induction calls generalizing turn with
  | nil => rfl
  | cons available calls ih =>
    rw [List.length_cons] at hturns
    have hstep : turn + 1 < turns := by omega
    have hrest : turn + 1 + calls.length < turns := by omega
    rw [picks, next_eq hne hstep, ih hrest]
    rfl

theorem getElem?_places (es : List Endpoint) {calls : List (Endpoint → Bool)} {k : Nat}
    {available : Endpoint → Bool} (hk : calls[k]? = some available) :
    (places es calls)[k]? = some (place es k available) := by
  simp [places, hk]

theorem places_of_available (hne : es ≠ []) {calls : List (Endpoint → Bool)} {start length : Nat}
    (hend : start + length ≤ calls.length)
    (hall : ∀ available ∈ (calls.drop start).take length, ∀ e ∈ es, available e = true) :
    ((places es calls).drop start).take length =
      (List.range' start length).map (· % es.length) := by
  refine List.ext_getElem? fun i => ?_
  by_cases hi : i < length
  · have hk : start + i < calls.length := by omega
    have hcall := List.getElem?_eq_getElem hk
    have hmem : calls[start + i] ∈ (calls.drop start).take length := by
      refine List.mem_of_getElem? (i := i) ?_
      rw [List.getElem?_take_of_lt hi, List.getElem?_drop, hcall]
    rw [List.getElem?_take_of_lt hi, List.getElem?_drop, getElem?_places es hcall,
      place_of_available hne (hall _ hmem)]
    simp [hi]
  · rw [List.getElem?_eq_none (by simp; omega), List.getElem?_eq_none (by simp; omega)]

end

/-- Let a new group have endpoints, some of them perhaps more than once, and let it be called less
than `2 ^ 63` times. Call number `k` hands out the first endpoint in the circle from place `k` on
that is available to it, and the one in place `k` itself where none is; so it hands out an available
one if there is one. Each call moves the group one place on. Over `m` whole rounds in which
everything is available each place is taken `m` times. -/
theorem rotation_of_calls {es : List Endpoint} (hne : es ≠ []) {calls : List (Endpoint → Bool)}
    (hcalls : calls.length < 2 ^ 63) :
    let g : Group := { endpoints := es }
    let n := es.length
    g.picks calls = (places es calls).map (es[·]?) ∧
    (∀ k available, calls[k]? = some available → ∃ p e, (places es calls)[k]? = some p ∧
      Takes es available k p ∧ es[p]? = some e ∧ (g.picks calls)[k]? = some (some e) ∧
      ((∃ a ∈ es, available a = true) → available e = true)) ∧
    (∀ k ≤ calls.length, g.after (calls.take k) = ⟨es, k⟩) ∧
    ∀ start m, start + m * n ≤ calls.length →
      (∀ available ∈ (calls.drop start).take (m * n), ∀ e ∈ es, available e = true) →
      ∀ p < n, (((places es calls).drop start).take (m * n)).count p = m := by
  intro g n
  have hturns : calls.length < turns := hcalls.trans (by decide)
  have hpicks : g.picks calls = (places es calls).map (es[·]?) := by
    rw [picks_eq hne (by simpa using hturns), places, List.map_map]
    rfl
  refine ⟨hpicks, fun k available hk => ?_, fun k hk => after_take hne hturns hk,
    fun start m hend hall p hp => ?_⟩
  · have hplace := getElem?_places es hk
    obtain ⟨e, hheld⟩ : ∃ e, es[place es k available]? = some e :=
      ⟨_, List.getElem?_eq_getElem (place_lt hne k available)⟩
    have htakes := takes_place es available k
    refine ⟨_, _, hplace, htakes, hheld, ?_, fun ⟨a, ha, hfree⟩ => htakes.available hheld ha hfree⟩
    rw [hpicks, List.getElem?_map, hplace, Option.map_some, hheld]
  · rw [places_of_available hne hend hall]
    exact count_mod_range' hp start m

/-- An endpoint that stands in two of three places. The first call skips one place, the second finds
nothing available, and neither shifts the round that the others make. -/
theorem rotation_of_calls_repeated :
    let a : Endpoint := ⟨"a", 80⟩
    let b : Endpoint := ⟨"b", 80⟩
    let es := [a, b, a]
    let calls : List (Endpoint → Bool) :=
      [(· == b), fun _ => false] ++ List.replicate 3 fun _ => true
    es ≠ [] ∧ calls.length < 2 ^ 63 ∧
    ({ endpoints := es } : Group).picks calls = [some b, some b, some a, some a, some b] ∧
    Takes es (· == b) 0 1 ∧ Takes es (fun _ => false) 1 1 ∧
    ({ endpoints := es } : Group).after calls = ⟨es, 5⟩ ∧
    (∀ available ∈ (calls.drop 2).take 3, ∀ e ∈ es, available e = true) ∧
    ∀ p < 3, (((places es calls).drop 2).take 3).count p = 1 := by
  intro a b es calls
  have hne : es ≠ [] := List.cons_ne_nil _ _
  have hcalls : calls.length < 2 ^ 63 := by decide
  have hall : ∀ available ∈ (calls.drop 2).take 3, ∀ e ∈ es, available e = true := by
    intro available hcall e _
    have hsame : available = fun _ => true := List.eq_of_mem_replicate (n := 3) hcall
    rw [hsame]
  obtain ⟨hpicks, hcall, hafter, hrounds⟩ := rotation_of_calls hne hcalls
  obtain ⟨p, _, hp, hfirst, -⟩ := hcall 0 _ rfl
  obtain ⟨q, _, hq, hsecond, -⟩ := hcall 1 _ rfl
  have hplaces : (places es calls)[0]? = some 1 ∧ (places es calls)[1]? = some 1 := by decide
  cases hplaces.1.symm.trans hp
  cases hplaces.2.symm.trans hq
  exact ⟨hne, hcalls, hpicks.trans (by decide), hfirst, hsecond, hafter 5 (le_refl 5), hall,
    hrounds 2 1 (by decide) hall⟩

end Group
end ReverseProxy.Routing
