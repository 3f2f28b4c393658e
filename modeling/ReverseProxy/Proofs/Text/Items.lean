import ReverseProxy.Proofs.Text.Plain
import ReverseProxy.Proofs.Text.Trim

set_option autoImplicit false

namespace ReverseProxy.Bytes

def isSpace (b : UInt8) : Bool := b == 0x20 || b == 9

def trim (bs : Bytes) : Bytes := ((bs.dropWhile isSpace).reverse.dropWhile isSpace).reverse

def lowerByte (b : UInt8) : UInt8 := if 0x41 ≤ b && b ≤ 0x5a then b + 0x20 else b

def fold (bs : Bytes) : Bytes := (trim bs).map lowerByte

/-- The items of a list between commas, up to space and case; empty ones do not count. -/
def items (bs : Bytes) : List Bytes := ((bs.splitOn 0x2c).map fold).filter (· ≠ [])

theorem trim_space_append {w : Bytes} (hw : ∀ b ∈ w, isSpace b = true) (bs : Bytes) :
    trim (w ++ bs) = trim bs := by
  unfold trim
  rw [List.dropWhile_append_of_pos hw]

theorem trim_append_space {w : Bytes} (hw : ∀ b ∈ w, isSpace b = true) (bs : Bytes) :
    trim (bs ++ w) = trim bs :=
  dropWhile_ends_append hw bs

theorem toUInt8_plain {c : Char} (hc : Chars.isPlain c) : isSpace c.toUInt8 = Chars.isBlank c ∧
    lowerByte c.toUInt8 = c.toLower.toUInt8 ∧ (c.toUInt8 == 0x2c) = (c == ',') :=
  Chars.of_plain (P := fun c => isSpace c.toUInt8 = Chars.isBlank c ∧
    lowerByte c.toUInt8 = c.toLower.toUInt8 ∧ (c.toUInt8 == 0x2c) = (c == ','))
    (by decide +kernel) hc

theorem isSpace_plain {c : Char} (hc : Chars.isPlain c) : isSpace c.toUInt8 = Chars.isBlank c :=
  (toUInt8_plain hc).1

theorem lowerByte_plain {c : Char} (hc : Chars.isPlain c) :
    lowerByte c.toUInt8 = c.toLower.toUInt8 :=
  (toUInt8_plain hc).2.1

theorem comma_plain {c : Char} (hc : Chars.isPlain c) : (c.toUInt8 == 0x2c) = (c == ',') :=
  (toUInt8_plain hc).2.2

theorem dropWhile_plain {cs : List Char} (hs : ∀ c ∈ cs, Chars.isPlain c) :
    (cs.map Char.toUInt8).dropWhile isSpace = (cs.dropWhile Chars.isBlank).map Char.toUInt8 := by
  induction cs with
  | nil => rfl
  | cons c cs ih =>
    rw [List.map_cons, List.dropWhile_cons, List.dropWhile_cons,
      isSpace_plain (hs c List.mem_cons_self), ih fun d hd => hs d (List.mem_cons_of_mem _ hd)]
    split <;> rfl

theorem trim_plain {cs : List Char} (hs : ∀ c ∈ cs, Chars.isPlain c) :
    trim (cs.map Char.toUInt8) = (Chars.trim cs).map Char.toUInt8 := by
  have hfront : ∀ c ∈ (cs.dropWhile Chars.isBlank).reverse, Chars.isPlain c := by
    intro c hc
    exact hs c ((List.dropWhile_sublist _).subset (List.mem_reverse.1 hc))
  simp only [trim, Chars.trim, Chars.trimEnd, Chars.dropEndWhile, Chars.trimStart]
  rw [dropWhile_plain hs, ← List.map_reverse, dropWhile_plain hfront, List.map_reverse]

theorem splitOn_plain {cs : List Char} (hs : ∀ c ∈ cs, Chars.isPlain c) :
    (cs.map Char.toUInt8).splitOn 0x2c =
      (Chars.splitOn ',' cs).map fun piece => piece.map Char.toUInt8 := by
  induction cs with
  | nil => rfl
  | cons c cs ih =>
    have ih := ih fun d hd => hs d (List.mem_cons_of_mem _ hd)
    rw [List.map_cons, List.splitOn_cons_eq_if_modifyHead, comma_plain (hs c List.mem_cons_self),
      ih, Chars.splitOn]
    cases hp : Chars.splitOn ',' cs with
    | nil => exact absurd hp (Chars.splitOn_ne_nil ',' cs)
    | cons piece pieces => by_cases h : c = ',' <;> simp [h]

theorem fold_ofText {s : String} (hs : Text.Plain s) :
    fold (ofText s) = ofText (Text.lower (Text.trim s)) := by
  rw [ofText_plain hs, ofText_plain hs.trim.lower, fold, trim_plain hs, Text.lower_toList,
    Text.trim_toList, Chars.lower, List.map_map, List.map_map]
  refine List.map_congr_left fun c hc => ?_
  rw [← Text.trim_toList] at hc
  exact lowerByte_plain (hs.trim c hc)

theorem ofText_eq_nil_iff {s : String} : ofText s = [] ↔ s = "" := by
  constructor
  · intro h
    rw [ofText_eq_flatMap, List.flatMap_eq_nil_iff] at h
    cases hl : s.toList with
    | nil => exact String.toList_eq_nil_iff.1 hl
    | cons c cs =>
      have hc := h c (by rw [hl]; exact List.mem_cons_self)
      exact absurd hc String.utf8EncodeChar_ne_nil
  · rintro rfl
    rw [ofText_eq_flatMap]
    rfl

theorem ofText_commaJoin (ts : List String) :
    ofText (Text.join "," ts) = List.intercalate [0x2c] (ts.map ofText) := by
  have hcomma : ofText "," = [0x2c] := by
    rw [ofText_eq_flatMap]
    rfl
  rw [ofText_join, hcomma]

theorem items_ofText {s : String} (hs : Text.Plain s) :
    items (ofText s) = (((Text.splitOn ',' s).map fun i => Text.lower (Text.trim i)).filter
      (· ≠ "")).map ofText := by
  have hfold : ((Text.splitOn ',' s).map fun i => ofText (Text.lower (Text.trim i))) =
      ((ofText s).splitOn 0x2c).map fold := by
    rw [ofText_plain hs, splitOn_plain hs, Text.splitOn, List.map_map, List.map_map]
    refine List.map_congr_left fun piece hp => ?_
    have hpiece : Text.Plain (String.ofList piece) := hs.of_mem_splitOn (List.mem_map_of_mem hp)
    have hbytes := fold_ofText hpiece
    rw [ofText_plain hpiece, String.toList_ofList] at hbytes
    exact hbytes.symm
  rw [items, ← hfold, List.filter_map, List.filter_map, List.map_map]
  simp only [Function.comp_def, ne_eq, ofText_eq_nil_iff]

theorem not_mem_of_mem_splitOn {a : UInt8} {bs piece : Bytes} (hp : piece ∈ bs.splitOn a) :
    a ∉ piece := by
  induction bs generalizing piece with
  | nil =>
    obtain rfl := List.mem_singleton.1 hp
    exact List.not_mem_nil
  | cons b bs ih =>
    rw [List.splitOn_cons_eq_if_modifyHead] at hp
    split at hp
    · rcases List.mem_cons.1 hp with rfl | hp
      · exact List.not_mem_nil
      · exact ih hp
    · next hb =>
      cases hs : bs.splitOn a with
      | nil => exact absurd hs (List.splitOn_ne_nil a bs)
      | cons first rest =>
        rw [hs] at hp ih
        rcases List.mem_cons.1 hp with rfl | hp
        · have hb' : ¬a = b := fun e => hb (beq_iff_eq.2 e.symm)
          simp only [List.mem_cons, hb', false_or]
          exact ih List.mem_cons_self
        · exact ih (List.mem_cons_of_mem _ hp)

theorem lowerByte_cases (b : UInt8) : (lowerByte b = 0x2c ↔ b = 0x2c) ∧
    isPrintable (lowerByte b) = isPrintable b :=
  forall_byte (P := fun b => (lowerByte b = 0x2c ↔ b = 0x2c) ∧
    isPrintable (lowerByte b) = isPrintable b) (by decide +kernel) b

theorem lowerByte_eq_comma {b : UInt8} : lowerByte b = 0x2c ↔ b = 0x2c := (lowerByte_cases b).1

theorem mem_of_mem_trim {b : UInt8} {bs : Bytes} (hb : b ∈ trim bs) : b ∈ bs := by
  have hb := (List.dropWhile_sublist _).subset (List.mem_reverse.1 hb)
  exact (List.dropWhile_sublist _).subset (List.mem_reverse.1 hb)

theorem mem_items {item bs : Bytes} (hi : item ∈ items bs) : item ≠ [] ∧ 0x2c ∉ item := by
  obtain ⟨hi, hne⟩ := List.mem_filter.1 hi
  refine ⟨of_decide_eq_true hne, ?_⟩
  obtain ⟨piece, hp, rfl⟩ := List.mem_map.1 hi
  intro hc
  obtain ⟨b, hb, hlower⟩ := List.mem_map.1 hc
  rw [lowerByte_eq_comma.1 hlower] at hb
  exact not_mem_of_mem_splitOn hp (mem_of_mem_trim hb)

theorem items_eq_of_intercalate_eq {as bs : Bytes}
    (h : List.intercalate [0x2c] (items as) = List.intercalate [0x2c] (items bs)) :
    items as = items bs := by
  -- Splitting the joined list gives the items back, up to the one blank piece of an empty list.
  have hsplit (cs : Bytes) : ((List.intercalate [0x2c] (items cs)).splitOn 0x2c).filter (· ≠ []) =
      items cs := by
    cases hcs : items cs with
    | nil => rfl
    | cons item rest =>
      rw [← hcs, List.splitOn_intercalate 0x2c fun l hl => (mem_items hl).2]
      · exact List.filter_eq_self.2 fun l hl => decide_eq_true (mem_items hl).1
      · rw [hcs]
        exact List.cons_ne_nil _ _
  rw [← hsplit as, h, hsplit bs]

theorem mem_dropWhile {b : UInt8} {bs : Bytes} {p : UInt8 → Bool} (hb : b ∈ bs)
    (hs : p b = false) : b ∈ bs.dropWhile p := by
  induction bs with
  | nil => cases hb
  | cons c bs ih =>
    rw [List.dropWhile_cons]
    rcases List.mem_cons.1 hb with rfl | hb
    · simp [hs]
    · split
      · exact ih hb
      · exact List.mem_cons_of_mem _ hb

theorem mem_trim {b : UInt8} {bs : Bytes} (hb : b ∈ bs) (hs : isSpace b = false) : b ∈ trim bs := by
  have hfront := List.mem_reverse.2 (mem_dropWhile hb hs)
  exact List.mem_reverse.2 (mem_dropWhile hfront hs)

theorem mem_fold {b : UInt8} {bs : Bytes} (hb : b ∈ bs) (hs : isSpace b = false) :
    lowerByte b ∈ fold bs :=
  List.mem_map_of_mem (mem_trim hb hs)

theorem printable_lowerByte (b : UInt8) : isPrintable (lowerByte b) = isPrintable b :=
  (lowerByte_cases b).2

theorem printable_of_isSpace {b : UInt8} (h : isSpace b = true) : isPrintable b = true := by
  unfold isSpace at h
  rw [Bool.or_eq_true, beq_iff_eq, beq_iff_eq] at h
  rcases h with rfl | rfl <;> rfl

theorem text?_isSome {bs : Bytes} : (text? bs).isSome ↔ ∀ b ∈ bs, isPrintable b := by
  unfold text?
  rw [← List.all_eq_true]
  split <;> simp [*]

theorem intercalate_comma (bs : Bytes) : List.intercalate [0x2c] (bs.splitOn 0x2c) = bs :=
  List.intercalate_splitOn 0x2c

/-- Whether a value can be read shows in its items. -/
theorem text?_isSome_iff_items {bs : Bytes} :
    (text? bs).isSome ↔ ∀ item ∈ items bs, ∀ b ∈ item, isPrintable b := by
  rw [text?_isSome]
  constructor
  · intro h item hi b hb
    obtain ⟨hi, _⟩ := List.mem_filter.1 hi
    obtain ⟨piece, hp, rfl⟩ := List.mem_map.1 hi
    obtain ⟨c, hc, rfl⟩ := List.mem_map.1 hb
    rw [printable_lowerByte]
    refine h c ?_
    rw [← intercalate_comma bs]
    exact Text.mem_intercalate _ hp (mem_of_mem_trim hc)
  · intro h b hb
    by_cases hs : isSpace b
    · exact printable_of_isSpace hs
    · rw [← intercalate_comma bs] at hb
      rcases Text.mem_of_mem_intercalate hb with hb | ⟨piece, hp, hb⟩
      · obtain rfl := List.mem_singleton.1 hb
        rfl
      · have hlower := mem_fold hb (Bool.eq_false_iff.2 hs)
        have hitem : fold piece ∈ items bs :=
          List.mem_filter.2 ⟨List.mem_map_of_mem hp, decide_eq_true (List.ne_nil_of_mem hlower)⟩
        rw [← printable_lowerByte]
        exact h (fold piece) hitem _ hlower

end ReverseProxy.Bytes
