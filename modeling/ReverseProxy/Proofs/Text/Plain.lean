import ReverseProxy.Bytes

set_option autoImplicit false

namespace ReverseProxy

def Chars.isPlain (c : Char) : Bool := (0x20 ≤ c.toNat && c.toNat ≤ 0x7e) || c.toNat == 9

def Text.Plain (s : String) : Prop := ∀ c ∈ s.toList, Chars.isPlain c

instance (s : String) : Decidable (Text.Plain s) :=
  List.decidableBAll _ s.toList

namespace Chars

theorem plain_lt {c : Char} (hc : isPlain c) : c.toNat < 127 := by
  simp only [isPlain, Bool.or_eq_true, Bool.and_eq_true, decide_eq_true_eq, beq_iff_eq] at hc
  omega

theorem of_plain {P : Char → Prop}
    (h : ∀ n, n < 127 → isPlain (Char.ofNat n) → P (Char.ofNat n)) {c : Char}
    (hc : isPlain c) : P c := by
  have hn := h c.toNat (plain_lt hc)
  rw [Char.ofNat_toNat] at hn
  exact hn hc

theorem plain_toLower {c : Char} (hc : isPlain c) : isPlain c.toLower :=
  of_plain (P := fun c => isPlain c.toLower) (by decide +kernel) hc

end Chars

namespace Bytes

theorem forall_byte {P : UInt8 → Prop} (h : ∀ n, n < 256 → P (UInt8.ofNat n)) (b : UInt8) :
    P b := by
  have hb := h b.toNat b.toNat_lt
  rwa [UInt8.ofNat_toNat] at hb

theorem toNat_char (b : UInt8) : (Char.ofNat b.toNat).toNat = b.toNat := by
  have hvalid : b.toNat.isValidChar := .inl (Nat.lt_trans b.toNat_lt (by decide))
  have hchar : Char.ofNat b.toNat = Char.ofNatAux b.toNat hvalid := dif_pos hvalid
  rw [hchar]
  rfl

theorem plain_char (b : UInt8) : Chars.isPlain (Char.ofNat b.toNat) = isPrintable b := by
  rw [Bool.eq_iff_iff]
  simp [Chars.isPlain, isPrintable, toNat_char, UInt8.le_iff_toNat_le, ← UInt8.toNat_inj]

theorem char_toUInt8 (b : UInt8) : (Char.ofNat b.toNat).toUInt8 = b := by
  rw [← UInt8.toNat_inj]
  calc (Char.ofNat b.toNat).toUInt8.toNat
    _ = (Char.ofNat b.toNat).toNat % 256 := UInt32.toNat_toUInt8 _
    _ = b.toNat := by rw [toNat_char, Nat.mod_eq_of_lt b.toNat_lt]

theorem toList_loop (bs : ByteArray) (i : Nat) (r : List UInt8) :
    ByteArray.toList.loop bs i r = r.reverse ++ bs.data.toList.drop i := by
  fun_induction ByteArray.toList.loop bs i r with
  | case1 i r hi ih =>
    have hi' : i < bs.data.toList.length := by simpa using hi
    have hget : bs.get! i = bs.data.toList[i] := by
      rw [Array.getElem_toList]
      exact getElem!_pos bs.data i hi
    rw [ih, List.drop_eq_getElem_cons hi', List.reverse_cons, hget, List.append_assoc,
      List.singleton_append]
  | case2 i r hi =>
    have hi' : bs.data.toList.length ≤ i := by simpa using hi
    rw [List.drop_eq_nil_of_le hi', List.append_nil]

theorem ofText_eq_flatMap (s : String) : ofText s = s.toList.flatMap String.utf8EncodeChar := by
  have hlist : s.toUTF8.toList = s.toUTF8.data.toList :=
    toList_loop s.toUTF8 0 []
  have hdata : s.toUTF8 = (s.toList.flatMap String.utf8EncodeChar).toByteArray :=
    String.utf8Encode_toList.symm
  unfold ofText Text.utf8
  rw [hlist, hdata, List.toList_data_toByteArray]

theorem ofText_join (sep : String) (ts : List String) :
    ofText (Text.join sep ts) = (ofText sep).intercalate (ts.map ofText) := by
  simp only [ofText_eq_flatMap, Text.join, String.toList_intercalate]
  induction ts with
  | nil => rfl
  | cons t ts ih =>
    cases ts with
    | nil => simp [ofText_eq_flatMap]
    | cons u us =>
      simp only [List.map_cons, List.intercalate_cons_cons, List.flatMap_append] at ih ⊢
      rw [ih, ofText_eq_flatMap t]

theorem utf8Encode_plain {cs : List Char} (hs : ∀ c ∈ cs, Chars.isPlain c) :
    cs.flatMap String.utf8EncodeChar = cs.map Char.toUInt8 := by
  induction cs with
  | nil => rfl
  | cons c cs ih =>
    have hc : c.utf8Size = 1 := by
      have hlt := Chars.plain_lt (hs c List.mem_cons_self)
      rw [Char.utf8Size_eq_one_iff, UInt32.le_iff_toNat_le]
      change c.toNat ≤ 127
      omega
    rw [List.flatMap_cons, List.map_cons, String.utf8EncodeChar_eq_singleton hc,
      ih fun d hd => hs d (List.mem_cons_of_mem _ hd)]
    rfl

theorem ofText_plain {s : String} (hs : Text.Plain s) : ofText s = s.toList.map Char.toUInt8 := by
  rw [ofText_eq_flatMap, utf8Encode_plain hs]

theorem text?_eq_some_iff {bs : Bytes} {s : String} :
    text? bs = some s ↔ Text.Plain s ∧ ofText s = bs := by
  unfold text?
  constructor
  · intro h
    split at h
    · next hbs =>
      rw [List.all_eq_true] at hbs
      obtain rfl := Option.some.inj h
      have hplain : Text.Plain (String.ofList (bs.map fun b => Char.ofNat b.toNat)) := by
        intro c hc
        rw [String.toList_ofList] at hc
        obtain ⟨b, hb, rfl⟩ := List.mem_map.1 hc
        rw [plain_char]
        exact hbs b hb
      refine ⟨hplain, ?_⟩
      rw [ofText_plain hplain, String.toList_ofList, List.map_map]
      exact List.map_id'' char_toUInt8 bs
    · cases h
  · rintro ⟨hs, rfl⟩
    rw [ofText_plain hs]
    have hbyte : ∀ c ∈ s.toList, isPrintable c.toUInt8 ∧ Char.ofNat c.toUInt8.toNat = c := by
      intro c hc
      exact Chars.of_plain (P := fun c => isPrintable c.toUInt8 ∧ Char.ofNat c.toUInt8.toNat = c)
        (by decide +kernel) (hs c hc)
    have hall : (s.toList.map Char.toUInt8).all isPrintable := by
      rw [List.all_map, List.all_eq_true]
      exact fun c hc => (hbyte c hc).1
    have hid : (s.toList.map Char.toUInt8).map (fun b => Char.ofNat b.toNat) = s.toList := by
      rw [List.map_map]
      exact (List.map_congr_left fun c hc => (hbyte c hc).2).trans (List.map_id _)
    rw [if_pos hall, hid, String.ofList_toList]

theorem map_ofText_filterMap (vs : List Bytes) :
    (vs.filterMap text?).map ofText = vs.filter fun v => (text? v).isSome := by
  induction vs with
  | nil => rfl
  | cons v vs ih =>
    cases hv : text? v with
    | none => simpa [hv] using ih
    | some t => simp [hv, ih, (text?_eq_some_iff.1 hv).2]

end Bytes

namespace Text

theorem mem_of_mem_intercalate {α : Type} {x : α} {sep : List α} {ls : List (List α)}
    (hx : x ∈ sep.intercalate ls) : x ∈ sep ∨ ∃ l ∈ ls, x ∈ l := by
  induction ls with
  | nil => cases hx
  | cons l ls ih =>
    cases ls with
    | nil => exact .inr ⟨l, List.mem_cons_self, by simpa using hx⟩
    | cons m ls =>
      rw [List.intercalate_cons_cons, List.append_assoc, List.mem_append, List.mem_append] at hx
      rcases hx with hx | hx | hx
      · exact .inr ⟨l, List.mem_cons_self, hx⟩
      · exact .inl hx
      · exact (ih hx).imp id fun ⟨k, hk, hx⟩ => ⟨k, List.mem_cons_of_mem _ hk, hx⟩

theorem mem_intercalate {α : Type} {x : α} (sep : List α) {l : List α} {ls : List (List α)}
    (hl : l ∈ ls) (hx : x ∈ l) : x ∈ sep.intercalate ls := by
  induction ls with
  | nil => cases hl
  | cons m ls ih =>
    cases ls with
    | nil =>
      obtain rfl := List.mem_singleton.1 hl
      simpa using hx
    | cons k ls =>
      rw [List.intercalate_cons_cons, List.mem_append, List.mem_append]
      rcases List.mem_cons.1 hl with rfl | hl
      · exact .inl (.inl hx)
      · exact .inr (ih hl)

theorem Plain.trim {s : String} (hs : Plain s) : Plain (trim s) := by
  intro c hc
  rw [trim_toList] at hc
  simp only [Chars.trim, Chars.trimEnd, Chars.dropEndWhile, Chars.trimStart,
    List.mem_reverse] at hc
  have hc := (List.dropWhile_sublist _).subset hc
  exact hs c ((List.dropWhile_sublist _).subset (List.mem_reverse.1 hc))

theorem Plain.lower {s : String} (hs : Plain s) : Plain (lower s) := by
  intro c hc
  rw [lower_toList] at hc
  obtain ⟨d, hd, rfl⟩ := List.mem_map.1 hc
  exact Chars.plain_toLower (hs d hd)

theorem Plain.of_mem_splitOn {s piece : String} {sep : Char} (hs : Plain s)
    (hp : piece ∈ splitOn sep s) : Plain piece := by
  obtain ⟨cs, hcs, rfl⟩ := List.mem_map.1 hp
  intro c hc
  rw [String.toList_ofList] at hc
  exact hs c (Chars.mem_of_mem_splitOn sep c s.toList cs hcs hc)

theorem Plain.join {sep : String} {ts : List String} (hsep : Plain sep)
    (hs : ∀ t ∈ ts, Plain t) : Plain (join sep ts) := by
  intro c hc
  rw [Text.join, String.toList_intercalate] at hc
  rcases mem_of_mem_intercalate hc with hc | ⟨_, hl, hc⟩
  · exact hsep c hc
  · obtain ⟨t, ht, rfl⟩ := List.mem_map.1 hl
    exact hs t ht c hc

end Text

end ReverseProxy
