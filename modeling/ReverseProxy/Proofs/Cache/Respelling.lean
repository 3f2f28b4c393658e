import Mathlib.Order.Bounds.Defs
import ReverseProxy.Proofs.Cache.Refusals
import ReverseProxy.Proofs.Text.Decimal

set_option autoImplicit false

namespace ReverseProxy

namespace Bytes

section
variable {x : UInt8} {w a b : Bytes}

theorem exists_splitOn_append (x : UInt8) (a : Bytes) : ∃ front last,
    a.splitOn x = front ++ [last] ∧
      ∀ b, (a ++ b).splitOn x = front ++ (b.splitOn x).modifyHead (last ++ ·) := by
  induction a with
  | nil => exact ⟨[], [], rfl, fun b => by cases h : b.splitOn x <;> simp [h]⟩
  | cons c a ih =>
    obtain ⟨front, last, ha, hb⟩ := ih
    simp only [List.cons_append, List.splitOn_cons_eq_if_modifyHead, ha, hb]
    split
    · exact ⟨[] :: front, last, rfl, fun b => rfl⟩
    · cases front with
      | nil => exact ⟨[], c :: last, rfl, fun b => by simp [Function.comp_def]⟩
      | cons piece front => exact ⟨(c :: piece) :: front, last, rfl, fun b => rfl⟩

theorem splitOn_of_notMem (hw : x ∉ w) : w.splitOn x = [w] := by
  induction w with
  | nil => rfl
  | cons c w ih =>
    rw [List.mem_cons, not_or] at hw
    have hc : ¬(c == x) = true := fun h => hw.1 (beq_iff_eq.1 h).symm
    rw [List.splitOn_cons_eq_if_modifyHead, if_neg hc, ih hw.2]
    rfl

theorem splitOn_append_of_notMem (hw : x ∉ w) (b : Bytes) :
    (w ++ b).splitOn x = (b.splitOn x).modifyHead (w ++ ·) := by
  obtain ⟨front, last, hpieces, happend⟩ := exists_splitOn_append x w
  rw [splitOn_of_notMem hw] at hpieces
  obtain ⟨rfl, hlast⟩ := List.append_eq_singleton_iff.1 hpieces.symm |>.resolve_right (by simp)
  rw [happend]
  simp_all

theorem splitOn_append_cons (x : UInt8) (a b : Bytes) :
    (a ++ x :: b).splitOn x = a.splitOn x ++ b.splitOn x := by
  obtain ⟨front, last, ha, happend⟩ := exists_splitOn_append x a
  rw [happend, ha, List.splitOn_cons_eq_if_modifyHead, if_pos (beq_iff_eq.2 rfl)]
  simp

end

section
variable {w w' a b : Bytes}

theorem notMem_of_space (hw : ∀ c ∈ w, isSpace c = true) {x : UInt8} (hx : isSpace x = false) :
    x ∉ w := by
  intro hmem
  rw [hw x hmem] at hx
  cases hx

theorem bne_of_notMem {x : UInt8} (ha : x ∉ a) : ∀ c ∈ a, (c != x) = true :=
  fun _ hc => bne_iff_ne.2 fun heq => ha (heq ▸ hc)

theorem itemName_of_notMem (ha : 0x3d ∉ a) : itemName a = fold a := by
  rw [itemName, List.takeWhile_eq_self_iff.2 (bne_of_notMem ha)]

theorem itemArgument_of_notMem (ha : 0x3d ∉ a) : itemArgument a = [] := by
  rw [itemArgument, List.dropWhile_eq_nil_iff.2 (bne_of_notMem ha)]
  rfl

theorem itemName_append_cons (ha : 0x3d ∉ a) (b : Bytes) : itemName (a ++ 0x3d :: b) = fold a := by
  rw [itemName, List.takeWhile_append_of_pos (bne_of_notMem ha),
    List.takeWhile_cons_of_neg (by decide), List.append_nil]

theorem itemArgument_append_cons (ha : 0x3d ∉ a) (b : Bytes) :
    itemArgument (a ++ 0x3d :: b) = trim (unquote (trim b)) := by
  rw [itemArgument, List.dropWhile_append_of_pos (bne_of_notMem ha),
    List.dropWhile_cons_of_neg (by decide)]
  rfl

theorem space_nil : ∀ c ∈ ([] : Bytes), isSpace c = true := List.forall_mem_nil _

theorem fold_spaces (hw : ∀ c ∈ w, isSpace c = true) (hw' : ∀ c ∈ w', isSpace c = true)
    (a : Bytes) : fold (w ++ a ++ w') = fold a := by
  rw [fold, trim_append_space hw', trim_space_append hw, ← fold]

theorem item_spaces (hw : ∀ c ∈ w, isSpace c = true) (hw' : ∀ c ∈ w', isSpace c = true)
    (a : Bytes) :
    itemName (w ++ a ++ w') = itemName a ∧ itemArgument (w ++ a ++ w') = itemArgument a := by
  have hfront : 0x3d ∉ w := notMem_of_space hw (by decide)
  have hback : 0x3d ∉ w' := notMem_of_space hw' (by decide)
  by_cases ha : 0x3d ∈ a
  · obtain ⟨x, y, rfl, hx⟩ := List.eq_append_cons_of_mem ha
    have hwx : 0x3d ∉ w ++ x := by simp [hfront, hx]
    have hsplit : w ++ (x ++ 0x3d :: y) ++ w' = (w ++ x) ++ 0x3d :: (y ++ w') := by simp
    have hname := fold_spaces hw space_nil x
    rw [List.append_nil] at hname
    rw [hsplit, itemName_append_cons hwx, itemArgument_append_cons hwx, itemName_append_cons hx,
      itemArgument_append_cons hx, trim_append_space hw', hname]
    exact ⟨rfl, rfl⟩
  · have hall : 0x3d ∉ w ++ a ++ w' := by simp [hfront, ha, hback]
    rw [itemName_of_notMem hall, itemArgument_of_notMem hall, itemName_of_notMem ha,
      itemArgument_of_notMem ha, fold_spaces hw hw']
    exact ⟨rfl, rfl⟩

theorem mem_unquote {c : UInt8} (hc : c ∈ a) (hquote : (c == 0x22) = false) : c ∈ unquote a := by
  have hback := mem_dropWhile (p := (· == 0x22)) (List.mem_reverse.2 hc) hquote
  exact mem_dropWhile (List.mem_reverse.2 hback) hquote

end

end Bytes

namespace Cache

theorem unsigned?_of_mem {bound : Nat} {s : String} (hs : '=' ∈ s.toList) :
    Text.unsigned? bound s = none := by
  by_contra hsome
  obtain ⟨n, hn⟩ := Option.ne_none_iff_exists'.1 hsome
  rcases Chars.isDigit_of_unsigned? hn '=' hs with hdigit | hplus
  · cases hdigit
  · exact absurd hplus (by decide)

theorem itemAge_of_mem {item : Bytes} (hmem : 0x3d ∈ Bytes.itemArgument item) : itemAge item = 0 := by
  unfold itemAge
  cases htext : Bytes.text? (Bytes.itemArgument item) with
  | none => rfl
  | some s =>
    obtain ⟨hplain, hbytes⟩ := Bytes.text?_eq_some_iff.1 htext
    rw [← hbytes, Bytes.ofText_plain hplain] at hmem
    obtain ⟨c, hc, hbyte⟩ := List.mem_map.1 hmem
    have hequals : c = '=' := by
      have hmark := (Bytes.marks_plain (hplain c hc)).1
      rw [hbyte] at hmark
      simpa using hmark
    rw [Option.bind_some, unsigned?_of_mem (hequals ▸ hc)]
    rfl

def said (item : Bytes) : Bytes × Nat := (Bytes.itemName item, itemAge item)

def sayings (v : Bytes) : List (Bytes × Nat) := (v.splitOn 0x2c).map said

section
variable {w w' a b : Bytes} (hw : ∀ c ∈ w, Bytes.isSpace c = true)
  (hw' : ∀ c ∈ w', Bytes.isSpace c = true)

theorem sayings_append_comma (a b : Bytes) : sayings (a ++ 0x2c :: b) = sayings a ++ sayings b := by
  rw [sayings, Bytes.splitOn_append_cons, List.map_append]
  rfl

include hw hw'

theorem said_spaces (a : Bytes) : said (w ++ a ++ w') = said a := by
  obtain ⟨hname, hargument⟩ := Bytes.item_spaces hw hw' a
  unfold said itemAge
  rw [hname, hargument]

theorem said_equals (a b : Bytes) :
    said (a ++ (w ++ 0x3d :: w') ++ b) = said (a ++ [0x3d] ++ b) := by
  have hfront : 0x3d ∉ w := Bytes.notMem_of_space hw (by decide)
  by_cases ha : 0x3d ∈ a
  · obtain ⟨x, y, rfl, hx⟩ := List.eq_append_cons_of_mem ha
    have hage (z : Bytes) (hz : 0x3d ∈ z) : said (x ++ 0x3d :: z) = (Bytes.fold x, 0) := by
      have hmem : 0x3d ∈ Bytes.itemArgument (x ++ 0x3d :: z) := by
        rw [Bytes.itemArgument_append_cons hx]
        exact Bytes.mem_trim (Bytes.mem_unquote (Bytes.mem_trim hz rfl) rfl) rfl
      rw [said, itemAge_of_mem hmem, Bytes.itemName_append_cons hx]
    have hleft := hage (y ++ (w ++ 0x3d :: w') ++ b) (by simp)
    have hright := hage (y ++ [0x3d] ++ b) (by simp)
    simp only [List.append_assoc, List.cons_append] at hleft hright ⊢
    rw [hleft, hright]
  · have haw : 0x3d ∉ a ++ w := by simp [ha, hfront]
    have hname := Bytes.fold_spaces Bytes.space_nil hw a
    rw [List.nil_append] at hname
    have hsplit : a ++ (w ++ 0x3d :: w') ++ b = (a ++ w) ++ 0x3d :: (w' ++ b) := by simp
    have hplain : a ++ [0x3d] ++ b = a ++ 0x3d :: b := by simp
    rw [hsplit, hplain]
    unfold said itemAge
    rw [Bytes.itemName_append_cons haw, Bytes.itemArgument_append_cons haw,
      Bytes.itemName_append_cons ha, Bytes.itemArgument_append_cons ha, hname,
      Bytes.trim_space_append hw']

theorem sayings_spaces (v : Bytes) : sayings (w ++ v ++ w') = sayings v := by
  have hfront : 0x2c ∉ w := Bytes.notMem_of_space hw (by decide)
  have hback : 0x2c ∉ w' := Bytes.notMem_of_space hw' (by decide)
  have hstart : sayings (w ++ v) = sayings v := by
    have hsame (piece : Bytes) : said (w ++ piece) = said piece := by
      have hspaces := said_spaces hw Bytes.space_nil piece
      rwa [List.append_nil] at hspaces
    rw [sayings, Bytes.splitOn_append_of_notMem hfront, sayings]
    cases v.splitOn 0x2c with
    | nil => rfl
    | cons piece pieces => exact congrArg (· :: pieces.map said) (hsame piece)
  have hend (v : Bytes) : sayings (v ++ w') = sayings v := by
    have hsame (piece : Bytes) : said (piece ++ w') = said piece :=
      said_spaces Bytes.space_nil hw' piece
    obtain ⟨front, last, hv, happend⟩ := Bytes.exists_splitOn_append 0x2c v
    rw [sayings, happend, Bytes.splitOn_of_notMem hback, sayings, hv, List.map_append,
      List.map_append]
    exact congrArg (fun x => front.map said ++ [x]) (hsame last)
  rw [hend, hstart]

theorem sayings_equals (a b : Bytes) :
    sayings (a ++ (w ++ 0x3d :: w') ++ b) = sayings (a ++ [0x3d] ++ b) := by
  have hfront : 0x2c ∉ w := Bytes.notMem_of_space hw (by decide)
  have hback : 0x2c ∉ w' := Bytes.notMem_of_space hw' (by decide)
  have hmarks : 0x2c ∉ w ++ 0x3d :: w' := by simp [hfront, hback]
  obtain ⟨front, last, _, happend⟩ := Bytes.exists_splitOn_append 0x2c a
  rw [List.append_assoc a, List.append_assoc a, sayings, happend,
    Bytes.splitOn_append_of_notMem hmarks, sayings, happend,
    Bytes.splitOn_append_of_notMem (by decide : 0x2c ∉ [(0x3d : UInt8)])]
  cases b.splitOn 0x2c with
  | nil => rfl
  | cons piece pieces =>
    have hsame := said_equals hw hw' last piece
    rw [List.append_assoc last, List.append_assoc last] at hsame
    rw [List.map_append, List.map_append]
    exact congrArg (fun x => front.map said ++ x :: pieces.map said) hsame

end

/-- The values of the second list say what those of the first do, spelt in another way. -/
inductive Respells : List Bytes → List Bytes → Prop where
  | refl (vs : List Bytes) : Respells vs vs
  | symm {vs us : List Bytes} (h : Respells vs us) : Respells us vs
  | trans {vs us ts : List Bytes} (h : Respells vs us) (h' : Respells us ts) : Respells vs ts
  | joins (a b : Bytes) (vs : List Bytes) : Respells (a :: b :: vs) ((a ++ 0x2c :: b) :: vs)
  | moves {vs us : List Bytes} (h : vs.Perm us) : Respells vs us
  | repeats (v : Bytes) (vs : List Bytes) : Respells (v :: vs) (v :: v :: vs)
  | spaces {w w' : Bytes} (hw : ∀ c ∈ w, Bytes.isSpace c = true)
      (hw' : ∀ c ∈ w', Bytes.isSpace c = true) (v : Bytes) (vs : List Bytes) :
    Respells (v :: vs) ((w ++ v ++ w') :: vs)
  | equals {w w' : Bytes} (hw : ∀ c ∈ w, Bytes.isSpace c = true)
      (hw' : ∀ c ∈ w', Bytes.isSpace c = true) (a b : Bytes) (vs : List Bytes) :
    Respells ((a ++ [0x3d] ++ b) :: vs) ((a ++ (w ++ 0x3d :: w') ++ b) :: vs)

section
variable {vs us : List Bytes}

theorem Respells.sayings (h : Respells vs us) (x : Bytes × Nat) :
    x ∈ vs.flatMap sayings ↔ x ∈ us.flatMap sayings := by
  induction h with
  | refl => exact Iff.rfl
  | symm _ ih => exact ih.symm
  | trans _ _ ih ih' => exact ih.trans ih'
  | joins a b => simp [sayings_append_comma]
  | moves hperm => exact (hperm.flatMap_right _).mem_iff
  | repeats v => simp
  | spaces hw hw' v => rw [List.flatMap_cons, List.flatMap_cons, sayings_spaces hw hw']
  | equals hw hw' a b => rw [List.flatMap_cons, List.flatMap_cons, sayings_equals hw hw']

def Legible (vs : List Bytes) : Prop := ∀ v ∈ vs, (Bytes.text? v).isSome

instance (vs : List Bytes) : Decidable (Legible vs) :=
  inferInstanceAs (Decidable (∀ v ∈ vs, (Bytes.text? v).isSome))

theorem legible_cons {v : Bytes} :
    Legible (v :: vs) ↔ (∀ b ∈ v, Bytes.isPrintable b) ∧ Legible vs := by
  unfold Legible
  rw [List.forall_mem_cons, Bytes.text?_isSome]

theorem Respells.legible (h : Respells vs us) : Legible vs ↔ Legible us := by
  have hspaces {w : Bytes} (hw : ∀ c ∈ w, Bytes.isSpace c = true) :
      ∀ c ∈ w, Bytes.isPrintable c = true := fun c hc => Bytes.printable_of_isSpace (hw c hc)
  have hcomma : Bytes.isPrintable 0x2c = true := rfl
  have hequals : Bytes.isPrintable 0x3d = true := rfl
  induction h with
  | refl => exact Iff.rfl
  | symm _ ih => exact ih.symm
  | trans _ _ ih ih' => exact ih.trans ih'
  | joins a b => simp [legible_cons, or_imp, forall_and, hcomma, and_assoc]
  | moves hperm => exact forall_congr' fun v => by rw [hperm.mem_iff]
  | repeats v => simp [legible_cons]
  | spaces hw hw' v =>
    have hw := hspaces hw
    have hw' := hspaces hw'
    simp_all [legible_cons, or_imp]
  | equals hw hw' a b =>
    have hw := hspaces hw
    have hw' := hspaces hw'
    simp_all [legible_cons, or_imp, forall_and]

end

def ageOf (argument : Bytes) : Nat :=
  ((Bytes.text? argument).bind (Text.unsigned? (1 <<< 64))).getD 0

/-- The items of a head that are not blank, as their names in lower case and their arguments without
blanks and quotes around them. -/
def itemSet (h : Http.Headers) : Set (Bytes × Bytes) :=
  {x | ∃ v ∈ directiveValues h, ∃ item ∈ v.splitOn 0x2c,
    Bytes.trim item ≠ [] ∧ x = (Bytes.itemName item, Bytes.itemArgument item)}

theorem itemName_of_blank {item : Bytes} (h : Bytes.trim item = []) : Bytes.itemName item = [] := by
  have hnone : 0x3d ∉ item := fun hmem => by
    have hkept := Bytes.mem_trim hmem rfl
    rw [h] at hkept
    cases hkept
  rw [Bytes.itemName_of_notMem hnone, Bytes.fold, h]
  rfl

theorem mem_sayings_iff {h : Http.Headers} {name : Bytes} (hname : name ≠ []) (age : Nat) :
    (name, age) ∈ (directiveValues h).flatMap sayings ↔
      ∃ argument, (name, argument) ∈ itemSet h ∧ ageOf argument = age := by
  rw [List.mem_flatMap]
  constructor
  · rintro ⟨v, hv, hsaid⟩
    obtain ⟨item, hitem, heq⟩ := List.mem_map.1 hsaid
    obtain ⟨rfl, rfl⟩ := Prod.mk.inj heq
    exact ⟨_, ⟨v, hv, item, hitem, fun hblank => hname (itemName_of_blank hblank), rfl⟩, rfl⟩
  · rintro ⟨argument, ⟨v, hv, item, hitem, _, heq⟩, rfl⟩
    obtain ⟨rfl, rfl⟩ := Prod.mk.inj heq
    exact ⟨v, hv, List.mem_map_of_mem hitem⟩

namespace Directives

/-- The directives tell of the names that are mentioned, and of the least age. -/
structure Sums (d : Directives) (mentions : String → Nat → Prop) : Prop where
  noStore : d.noStore = true ↔ ∃ age, mentions "no-store" age
  noCache : d.noCache = true ↔ ∃ age, mentions "no-cache" age
  isPrivate : d.isPrivate = true ↔ ∃ age, mentions "private" age
  isPublic : d.isPublic = true ↔ ∃ age, mentions "public" age
  ageless : d.maxAge = none → ∀ n, ¬mentions "max-age" n
  least : ∀ n, d.maxAge = some n → IsLeast {age | mentions "max-age" age} n

section
variable {d d' : Directives} {mentions mentions' : String → Nat → Prop}

theorem sums_nothing : Sums {} fun _ _ => False := by
  constructor <;> simp

theorem Sums.add (h : d.Sums mentions) (item : String × Option String) :
    (d.add item).Sums fun name age => mentions name age ∨ (item.1 = name ∧ seconds item.2 = age) := by
  obtain ⟨hstore, hcache, hprivate, hpublic, hageless, hleast⟩ := h
  fun_cases Directives.add d item with
  | case1 | case2 | case3 | case4 => constructor <;> simp_all
  | case5 arg =>
    refine ⟨by simpa, by simpa, by simpa, by simpa,
      fun hnone => absurd hnone (Option.some_ne_none _), fun n hn => ?_⟩
    cases hn
    cases hage : d.maxAge with
    | none => exact ⟨.inr ⟨rfl, rfl⟩, fun m hm => (hm.resolve_left (hageless hage m)).2.le⟩
    | some age =>
      obtain ⟨hmem, hlow⟩ := hleast age hage
      refine ⟨?_, fun m hm => ?_⟩
      · change mentions "max-age" (min age (seconds arg)) ∨ _ ∧ seconds arg = min age (seconds arg)
        rcases Nat.le_total age (seconds arg) with hle | hle
        · exact .inl (by rwa [Nat.min_eq_left hle])
        · exact .inr ⟨rfl, (Nat.min_eq_right hle).symm⟩
      · rcases hm with hm | ⟨_, rfl⟩
        · exact Nat.le_trans (Nat.min_le_left _ _) (hlow hm)
        · exact Nat.min_le_right _ _
  | case6 item hstore' hcache' hprivate' hpublic' hage' =>
    obtain ⟨name, arg⟩ := item
    have hstore' : name ≠ "no-store" := fun heq => hstore' arg (heq ▸ rfl)
    have hcache' : name ≠ "no-cache" := fun heq => hcache' arg (heq ▸ rfl)
    have hprivate' : name ≠ "private" := fun heq => hprivate' arg (heq ▸ rfl)
    have hpublic' : name ≠ "public" := fun heq => hpublic' arg (heq ▸ rfl)
    have hage' : name ≠ "max-age" := fun heq => hage' arg (heq ▸ rfl)
    constructor <;> simp_all

def Mentions (L : List (String × Option String)) (name : String) (age : Nat) : Prop :=
  ∃ item ∈ L, item.1 = name ∧ seconds item.2 = age

theorem sums_foldl (L : List (String × Option String)) :
    (L.foldl Directives.add {}).Sums (Mentions L) := by
  unfold Mentions
  induction L using List.reverseRecOn with
  | nil => simpa using sums_nothing
  | append_singleton L item ih =>
    rw [List.foldl_append]
    simpa [or_and_right, exists_or] using ih.add item

def names : List String := ["no-store", "no-cache", "private", "public", "max-age"]

theorem Sums.congr (h : d.Sums mentions)
    (heq : ∀ name ∈ names, ∀ age, mentions name age ↔ mentions' name age) : d.Sums mentions' := by
  obtain ⟨hstore, hcache, hprivate, hpublic, hageless, hleast⟩ := h
  simp only [names, List.forall_mem_cons] at heq
  obtain ⟨h1, h2, h3, h4, h5, _⟩ := heq
  constructor <;> simp_all

theorem Sums.maxAge_iff (h : d.Sums mentions) {n : Nat} :
    d.maxAge = some n ↔ IsLeast {age | mentions "max-age" age} n := by
  refine ⟨h.least n, fun hn => ?_⟩
  cases hd : d.maxAge with
  | none => exact absurd hn.1 (h.ageless hd n)
  | some m =>
    have hm := h.least m hd
    exact congrArg some (Nat.le_antisymm (hm.2 hn.1) (hn.2 hm.1))

theorem Sums.forbidsStorage_iff (h : d.Sums mentions) : d.forbidsStorage = true ↔
    (((∃ age, mentions "no-store" age) ∨ ∃ age, mentions "no-cache" age) ∨
      ∃ age, mentions "private" age) ∨ mentions "max-age" 0 := by
  have hzero : d.maxAge = some 0 ↔ mentions "max-age" 0 :=
    h.maxAge_iff.trans ⟨And.left, fun hmem => ⟨hmem, fun n _ => Nat.zero_le n⟩⟩
  rw [Directives.forbidsStorage_iff, h.noStore, h.noCache, h.isPrivate, hzero]

theorem Sums.unique (h : d.Sums mentions) (h' : d'.Sums mentions) : d = d' := by
  have hstore := Bool.eq_iff_iff.2 (h.noStore.trans h'.noStore.symm)
  have hcache := Bool.eq_iff_iff.2 (h.noCache.trans h'.noCache.symm)
  have hprivate := Bool.eq_iff_iff.2 (h.isPrivate.trans h'.isPrivate.symm)
  have hpublic := Bool.eq_iff_iff.2 (h.isPublic.trans h'.isPublic.symm)
  have hage : d.maxAge = d'.maxAge := Option.ext fun n => h.maxAge_iff.trans h'.maxAge_iff.symm
  exact (Directives.mk.injEq ..).mpr ⟨hstore, hcache, hprivate, hpublic, hage⟩

theorem mentions_text {text : String} (htext : Text.Plain text) {name : String}
    (hplain : Text.Plain name) (hname : name ≠ "") (age : Nat) :
    Mentions (items text) name age ↔ (Bytes.ofText name, age) ∈ sayings (Bytes.ofText text) := by
  have hsaid {part : String} (hpart : part ∈ Text.splitOn ',' text) :
      said (Bytes.ofText part) = (Bytes.ofText (nameOf part),
        (Text.unsigned? (1 <<< 64) (argumentOf part)).getD 0) := by
    have hpart := htext.of_mem_splitOn hpart
    rw [said, itemName_ofText hpart, itemAge_ofText hpart]
  rw [sayings, Bytes.splitOn_ofText htext, List.map_map, List.mem_map]
  constructor
  · rintro ⟨item, hitem, rfl, rfl⟩
    obtain ⟨part, hpart, hitem⟩ := List.mem_filterMap.1 hitem
    have hfilled : Text.trim part ≠ "" := fun hblank => by
      rw [(item?_eq_none hblank).1] at hitem
      cases hitem
    obtain ⟨arg, harg, hseconds⟩ := item?_eq_some hfilled
    rw [harg] at hitem
    obtain rfl := Option.some.inj hitem
    refine ⟨part, hpart, ?_⟩
    rw [Function.comp_apply, hsaid hpart, hseconds]
  · rintro ⟨part, hpart, heq⟩
    rw [Function.comp_apply, hsaid hpart] at heq
    obtain ⟨hbytes, rfl⟩ := Prod.mk.inj heq
    have hsame := (Bytes.ofText_inj (plain_nameOf (htext.of_mem_splitOn hpart)) hplain).1 hbytes
    have hfilled : Text.trim part ≠ "" := fun hblank =>
      hname (hsame.symm.trans (item?_eq_none hblank).2)
    obtain ⟨arg, harg, hseconds⟩ := item?_eq_some hfilled
    exact ⟨_, List.mem_filterMap.2 ⟨part, hpart, harg⟩, hsame, hseconds⟩

theorem sums_ofHeaders {h : Http.Headers} (hread : Legible (directiveValues h)) :
    (ofHeaders h).Sums fun name age =>
      (Bytes.ofText name, age) ∈ (directiveValues h).flatMap sayings := by
  have hfold : ofHeaders h =
      (((directiveValues h).filterMap Bytes.text?).flatMap items).foldl Directives.add {} := by
    rw [List.foldl_flatMap]
    rfl
  have hnames : ∀ name ∈ names, Text.Plain name ∧ name ≠ "" := by decide
  rw [hfold]
  refine (sums_foldl _).congr fun name hname age => ?_
  obtain ⟨hplain, hne⟩ := hnames name hname
  rw [List.mem_flatMap]
  constructor
  · rintro ⟨item, hitem, hsays⟩
    obtain ⟨text, htext, hitem⟩ := List.mem_flatMap.1 hitem
    obtain ⟨v, hv, htext⟩ := List.mem_filterMap.1 htext
    obtain ⟨hplaintext, rfl⟩ := Bytes.text?_eq_some_iff.1 htext
    exact ⟨_, hv, (mentions_text hplaintext hplain hne age).1 ⟨item, hitem, hsays⟩⟩
  · rintro ⟨v, hv, hsays⟩
    obtain ⟨text, htext⟩ := Option.isSome_iff_exists.1 (hread v hv)
    obtain ⟨hplaintext, rfl⟩ := Bytes.text?_eq_some_iff.1 htext
    obtain ⟨item, hitem, hitemsays⟩ := (mentions_text hplaintext hplain hne age).2 hsays
    exact ⟨item, List.mem_flatMap.2 ⟨text, List.mem_filterMap.2 ⟨_, hv, htext⟩, hitem⟩,
      hitemsays⟩

theorem sums_of_items {h : Http.Headers} (hread : Legible (directiveValues h)) :
    (ofHeaders h).Sums fun name age =>
      ∃ argument, (Bytes.ofText name, argument) ∈ itemSet h ∧ ageOf argument = age := by
  have hnames : ∀ name ∈ names, name ≠ "" := by decide
  exact (sums_ofHeaders hread).congr fun name hname age =>
    mem_sayings_iff (fun hnil => hnames name hname (Bytes.ofText_eq_nil_iff.1 hnil)) age

end

/-- The directives of a head whose values can be read depend on the set of its items alone, and stay
as they are when the items are spelt in another way. The smallest of its ages counts, one that cannot
be read being zero, and more items never make a response storable again. -/
theorem directives_of_items {h h' : Http.Headers} (hread : Legible (directiveValues h)) :
    (Respells (directiveValues h) (directiveValues h') → ofHeaders h' = ofHeaders h) ∧
    (∀ n, (ofHeaders h).maxAge = some n ↔ IsLeast {age | ∃ argument,
      (Bytes.ofText "max-age", argument) ∈ itemSet h ∧ ageOf argument = age} n) ∧
    (Legible (directiveValues h') →
      (itemSet h' = itemSet h → ofHeaders h' = ofHeaders h) ∧
      (itemSet h ⊆ itemSet h' →
        (ofHeaders h).forbidsStorage = true → (ofHeaders h').forbidsStorage = true)) := by
  have hsums := sums_of_items hread
  refine ⟨fun hrespells => ?_, fun n => hsums.maxAge_iff, fun hread' => ⟨fun hsame => ?_, ?_⟩⟩
  · have hread' := hrespells.legible.1 hread
    exact (sums_ofHeaders hread').unique
      ((sums_ofHeaders hread).congr fun name _ age => hrespells.sayings (Bytes.ofText name, age))
  · have hsums' := sums_of_items hread'
    rw [hsame] at hsums'
    exact hsums'.unique hsums
  · intro hmore
    have hkept {name : Bytes} {age : Nat}
        (hmem : ∃ argument, (name, argument) ∈ itemSet h ∧ ageOf argument = age) :
        ∃ argument, (name, argument) ∈ itemSet h' ∧ ageOf argument = age :=
      hmem.imp fun argument hargument => ⟨hmore hargument.1, hargument.2⟩
    rw [hsums.forbidsStorage_iff, (sums_of_items hread').forbidsStorage_iff]
    exact Or.imp (Or.imp (Or.imp (fun ⟨age, hage⟩ => ⟨age, hkept hage⟩)
      fun ⟨age, hage⟩ => ⟨age, hkept hage⟩) fun ⟨age, hage⟩ => ⟨age, hkept hage⟩) hkept

theorem directives_of_items_moved :
    let h := Http.Headers.empty.append "cache-control" (Bytes.ofText "public,max-age=60")
    let h' := (Http.Headers.empty.append "pragma" (Bytes.ofText " public")).append "cache-control"
      (Bytes.ofText "max-age =60")
    Legible (directiveValues h) ∧ Respells (directiveValues h) (directiveValues h') ∧
      ofHeaders h' = ofHeaders h ∧ (ofHeaders h').maxAge = some 60 := by
  intro h h'
  have hread : Legible (directiveValues h) := by decide +kernel
  have hage : (ofHeaders h).maxAge = some 60 := by decide +kernel
  have hblank : ∀ c ∈ [(0x20 : UInt8)], Bytes.isSpace c = true := List.forall_mem_singleton.2 rfl
  have hfirst : directiveValues h = [Bytes.ofText "public" ++ 0x2c :: Bytes.ofText "max-age=60"] := by
    decide +kernel
  have hequals : Bytes.ofText "max-age=60" = Bytes.ofText "max-age" ++ [0x3d] ++ Bytes.ofText "60" := by
    decide +kernel
  have hlast : directiveValues h' =
      [Bytes.ofText "max-age" ++ ([0x20] ++ 0x3d :: []) ++ Bytes.ofText "60",
        [0x20] ++ Bytes.ofText "public" ++ []] := by
    decide +kernel
  have hrespells : Respells (directiveValues h) (directiveValues h') := by
    rw [hfirst, hlast, hequals]
    refine (Respells.joins ..).symm.trans ?_
    refine (Respells.spaces hblank Bytes.space_nil ..).trans ?_
    exact (Respells.moves (.swap ..)).trans (.equals hblank Bytes.space_nil ..)
  obtain ⟨hsame, _⟩ := @directives_of_items h h' hread
  exact ⟨hread, hrespells, hsame hrespells, by rw [hsame hrespells, hage]⟩

end Directives

end Cache
end ReverseProxy
