import ReverseProxy.Proofs.Cache.Admission
import ReverseProxy.Proofs.Text.Items
import ReverseProxy.Proofs.Text.Trim

set_option autoImplicit false

namespace ReverseProxy

namespace Bytes

def itemName (item : Bytes) : Bytes := fold (item.takeWhile (· != 0x3d))

def unquote (bs : Bytes) : Bytes := (bs.reverse.dropWhile (· == 0x22)).reverse.dropWhile (· == 0x22)

def itemArgument (item : Bytes) : Bytes :=
  trim (unquote (trim ((item.dropWhile (· != 0x3d)).drop 1)))

section
variable {p : UInt8 → Bool} {q : Char → Bool} {cs : List Char}

theorem takeWhile_toUInt8 (h : ∀ c ∈ cs, p c.toUInt8 = q c) :
    (cs.map Char.toUInt8).takeWhile p = (cs.takeWhile q).map Char.toUInt8 := by
  induction cs with
  | nil => rfl
  | cons c cs ih =>
    rw [List.map_cons, List.takeWhile_cons, List.takeWhile_cons, h c List.mem_cons_self,
      ih fun d hd => h d (List.mem_cons_of_mem _ hd)]
    split <;> rfl

theorem dropWhile_toUInt8 (h : ∀ c ∈ cs, p c.toUInt8 = q c) :
    (cs.map Char.toUInt8).dropWhile p = (cs.dropWhile q).map Char.toUInt8 := by
  induction cs with
  | nil => rfl
  | cons c cs ih =>
    rw [List.map_cons, List.dropWhile_cons, List.dropWhile_cons, h c List.mem_cons_self,
      ih fun d hd => h d (List.mem_cons_of_mem _ hd)]
    split <;> rfl

theorem dropEndWhile_toUInt8 (h : ∀ c ∈ cs, p c.toUInt8 = q c) :
    ((cs.map Char.toUInt8).reverse.dropWhile p).reverse =
      (Chars.dropEndWhile q cs).map Char.toUInt8 := by
  rw [← List.map_reverse, dropWhile_toUInt8 fun c hc => h c (List.mem_reverse.1 hc),
    ← List.map_reverse]
  rfl

end

theorem marks_plain {c : Char} (hc : Chars.isPlain c) :
    (c.toUInt8 != 0x3d) = (c != '=') ∧ (c.toUInt8 == 0x22) = (c == '"') :=
  Chars.of_plain (P := fun c => (c.toUInt8 != 0x3d) = (c != '=') ∧ (c.toUInt8 == 0x22) = (c == '"'))
    (by decide +kernel) hc

theorem unquote_plain {cs : List Char} (hs : ∀ c ∈ cs, Chars.isPlain c) :
    unquote (cs.map Char.toUInt8) =
      ((Chars.dropEndWhile (· == '"') cs).dropWhile (· == '"')).map Char.toUInt8 := by
  have hmark (c : Char) (hc : c ∈ cs) : (c.toUInt8 == 0x22) = (c == '"') :=
    (marks_plain (hs c hc)).2
  rw [unquote, dropEndWhile_toUInt8 hmark,
    dropWhile_toUInt8 fun c hc => hmark c (Chars.dropEndWhile_subset _ cs hc)]

theorem splitOn_ofText {s : String} (hs : Text.Plain s) :
    (ofText s).splitOn 0x2c = (Text.splitOn ',' s).map ofText := by
  rw [ofText_plain hs, splitOn_plain hs, Text.splitOn, List.map_map]
  refine List.map_congr_left fun piece hp => ?_
  have hpiece : Text.Plain (String.ofList piece) := hs.of_mem_splitOn (List.mem_map_of_mem hp)
  rw [Function.comp_apply, ofText_plain hpiece, String.toList_ofList]

theorem ofText_inj {s t : String} (hs : Text.Plain s) (ht : Text.Plain t) :
    ofText s = ofText t ↔ s = t := by
  refine ⟨fun h => ?_, congrArg ofText⟩
  have hread := text?_eq_some_iff.2 ⟨hs, h⟩
  rw [text?_eq_some_iff.2 ⟨ht, rfl⟩] at hread
  exact (Option.some.inj hread).symm

end Bytes

namespace Cache
open Http.Date (Instant)

def itemAge (item : Bytes) : Nat :=
  ((Bytes.text? (Bytes.itemArgument item)).bind (Text.unsigned? (1 <<< 64))).getD 0

/-- An item that rules out storing, whatever else is said. -/
def Forbids (item : Bytes) : Prop :=
  (∃ name ∈ ["no-store", "no-cache", "private"], Bytes.itemName item = Bytes.ofText name) ∨
    (Bytes.itemName item = Bytes.ofText "max-age" ∧ itemAge item = 0)

instance (item : Bytes) : Decidable (Forbids item) :=
  inferInstanceAs (Decidable ((∃ name ∈ ["no-store", "no-cache", "private"],
    Bytes.itemName item = Bytes.ofText name) ∨ _))

def directiveValues (h : Http.Headers) : List Bytes := h.getAll "cache-control" ++ h.getAll "pragma"

/-- A value that can be read has an item that rules out storing. -/
def Refuses (h : Http.Headers) : Prop :=
  ∃ v ∈ directiveValues h, (Bytes.text? v).isSome ∧ ∃ item ∈ v.splitOn 0x2c, Forbids item

instance (h : Http.Headers) : Decidable (Refuses h) :=
  inferInstanceAs (Decidable (∃ v ∈ directiveValues h,
    (Bytes.text? v).isSome ∧ ∃ item ∈ v.splitOn 0x2c, Forbids item))

namespace Directives

def Forbidding (item : String × Option String) : Prop :=
  item.1 ∈ ["no-store", "no-cache", "private"] ∨ (item.1 = "max-age" ∧ seconds item.2 = 0)

theorem forbidsStorage_iff {d : Directives} : d.forbidsStorage = true ↔
    ((d.noStore = true ∨ d.noCache = true) ∨ d.isPrivate = true) ∨ d.maxAge = some 0 := by
  simp [forbidsStorage]

theorem forbidsStorage_add (d : Directives) (item : String × Option String) :
    (d.add item).forbidsStorage = true ↔ d.forbidsStorage = true ∨ Forbidding item := by
  unfold Forbidding
  simp only [forbidsStorage_iff]
  fun_cases add d item with
  | case1 | case2 | case3 | case4 => simp [or_assoc, or_comm, or_left_comm]
  | case5 arg =>
    -- The smallest of the ages counts, so a single zero is enough.
    cases hage : d.maxAge with
    | none => simp
    | some age =>
      have hmin : min age (seconds arg) = 0 ↔ age = 0 ∨ seconds arg = 0 := by omega
      simp [hmin, or_assoc]
  | case6 item hstore hcache hprivate hpublic hage =>
    obtain ⟨name, arg⟩ := item
    have hother : ¬(name ∈ ["no-store", "no-cache", "private"] ∨
        (name = "max-age" ∧ seconds arg = 0)) := by
      simp only [List.mem_cons, List.not_mem_nil, or_false]
      rintro ((rfl | rfl | rfl) | ⟨rfl, _⟩)
      · exact hstore arg rfl
      · exact hcache arg rfl
      · exact hprivate arg rfl
      · exact hage arg rfl
    exact (or_iff_left hother).symm

theorem forbidsStorage_foldl_add (items : List (String × Option String)) (d : Directives) :
    (items.foldl add d).forbidsStorage = true ↔
      d.forbidsStorage = true ∨ ∃ item ∈ items, Forbidding item := by
  induction items generalizing d with
  | nil => simp
  | cons item items ih => simp [ih, forbidsStorage_add, or_assoc]

theorem forbidsStorage_foldl_merge (values : List String) (d : Directives) :
    (values.foldl merge d).forbidsStorage = true ↔
      d.forbidsStorage = true ∨ ∃ value ∈ values, ∃ item ∈ items value, Forbidding item := by
  induction values generalizing d with
  | nil => simp
  | cons value values ih => simp [ih, merge, forbidsStorage_foldl_add, or_assoc]

def nameOf (part : String) : String :=
  Text.lower (Text.trim (String.ofList (part.toList.takeWhile (· != '='))))

def argumentOf (part : String) : String :=
  Text.trim (Text.trimStartOf '"' (Text.trimEndOf '"'
    (Text.trim (String.ofList ((part.toList.dropWhile (· != '=')).drop 1)))))

theorem nameOf_trim (part : String) : nameOf (Text.trim part) = nameOf part := by
  unfold nameOf Text.trim
  simp only [String.toList_ofList]
  rw [← Chars.trim_takeWhile (by decide)]

theorem argumentOf_trim (part : String) : argumentOf (Text.trim part) = argumentOf part := by
  unfold argumentOf
  have htrim : Text.trim (String.ofList (((Text.trim part).toList.dropWhile (· != '=')).drop 1)) =
      Text.trim (String.ofList ((part.toList.dropWhile (· != '=')).drop 1)) := by
    unfold Text.trim
    simp only [String.toList_ofList]
    rw [← Chars.trim_dropWhile (by decide)]
  rw [htrim]

theorem argumentOf_of_notMem {part : String} (h : '=' ∉ part.toList) : argumentOf part = "" := by
  have hnone : part.toList.dropWhile (· != '=') = [] :=
    List.dropWhile_eq_nil_iff.2 fun c hc => bne_iff_ne.2 fun heq => h (heq ▸ hc)
  unfold argumentOf
  rw [hnone]
  decide

theorem item?_eq_some {part : String} (h : Text.trim part ≠ "") : ∃ arg,
    item? part = some (nameOf part, arg) ∧
      seconds arg = (Text.unsigned? (1 <<< 64) (argumentOf part)).getD 0 := by
  unfold item?
  rw [if_neg h, Text.cutFirst?, Chars.cutFirst?_eq, ← nameOf_trim, ← argumentOf_trim]
  by_cases hmem : '=' ∈ (Text.trim part).toList
  · rw [if_pos hmem]
    refine ⟨some (argumentOf (Text.trim part)), rfl, ?_⟩
    rw [seconds, Option.bind_some]
  · rw [if_neg hmem, argumentOf_of_notMem hmem]
    have hname : nameOf (Text.trim part) = Text.lower (Text.trim part) := by
      have hall : (Text.trim part).toList.takeWhile (· != '=') = (Text.trim part).toList :=
        List.takeWhile_eq_self_iff.2 fun c hc => bne_iff_ne.2 fun heq => hmem (heq ▸ hc)
      rw [nameOf, hall, String.ofList_toList, Text.trim, Text.trim_toList, Chars.trim_trim,
        ← Text.trim]
    rw [hname]
    exact ⟨none, rfl, rfl⟩

theorem item?_eq_none {part : String} (h : Text.trim part = "") : item? part = none ∧
    nameOf part = "" := by
  unfold item?
  rw [if_pos h, ← nameOf_trim, h]
  exact ⟨rfl, by decide⟩

theorem forbidding_iff (part : String) : (∃ item, item? part = some item ∧ Forbidding item) ↔
    nameOf part ∈ ["no-store", "no-cache", "private"] ∨ (nameOf part = "max-age" ∧
      (Text.unsigned? (1 <<< 64) (argumentOf part)).getD 0 = 0) := by
  by_cases hblank : Text.trim part = ""
  · obtain ⟨hnone, hname⟩ := item?_eq_none hblank
    rw [hnone, hname]
    simp
  · obtain ⟨arg, hitem, hseconds⟩ := item?_eq_some hblank
    rw [← hseconds]
    constructor
    · rintro ⟨item, hsome, hforbids⟩
      rw [hitem] at hsome
      obtain rfl := Option.some.inj hsome
      exact hforbids
    · exact fun hforbids => ⟨_, hitem, hforbids⟩

theorem argumentOf_toList (part : String) : (argumentOf part).toList =
    Chars.trim ((Chars.dropEndWhile (· == '"')
      (Chars.trim ((part.toList.dropWhile (· != '=')).drop 1))).dropWhile (· == '"')) := by
  simp [argumentOf, Text.trim, Text.trimStartOf, Text.trimEndOf]

section
variable {part : String} (hpart : Text.Plain part)

include hpart

theorem itemName_ofText : Bytes.itemName (Bytes.ofText part) = Bytes.ofText (nameOf part) := by
  have hfront : Text.Plain (String.ofList (part.toList.takeWhile (· != '='))) := by
    intro c hc
    rw [String.toList_ofList] at hc
    exact hpart c ((List.takeWhile_sublist _).subset hc)
  rw [nameOf, ← Bytes.fold_ofText hfront, Bytes.itemName, Bytes.ofText_plain hpart,
    Bytes.takeWhile_toUInt8 fun c hc => (Bytes.marks_plain (hpart c hc)).1,
    Bytes.ofText_plain hfront, String.toList_ofList]

theorem plain_nameOf : Text.Plain (nameOf part) := by
  intro c hc
  simp only [nameOf, Text.lower_toList, Text.trim_toList, String.toList_ofList] at hc
  obtain ⟨d, hd, rfl⟩ := List.mem_map.1 hc
  have hd := (List.takeWhile_sublist _).subset (Chars.trim_subset _ hd)
  exact Chars.plain_toLower (hpart d hd)

theorem argument_ofText : Text.Plain (argumentOf part) ∧
    Bytes.itemArgument (Bytes.ofText part) = Bytes.ofText (argumentOf part) := by
  let behind := (part.toList.dropWhile (· != '=')).drop 1
  let bare := (Chars.dropEndWhile (· == '"') (Chars.trim behind)).dropWhile (· == '"')
  have hbehind : ∀ c ∈ behind, Chars.isPlain c := fun c hc =>
    hpart c ((List.dropWhile_sublist _).subset (List.mem_of_mem_drop hc))
  have htrim : ∀ c ∈ Chars.trim behind, Chars.isPlain c := fun c hc =>
    hbehind c (Chars.trim_subset _ hc)
  have hbare : ∀ c ∈ bare, Chars.isPlain c := fun c hc =>
    htrim c (Chars.dropEndWhile_subset _ _ ((List.dropWhile_sublist _).subset hc))
  have hplain : Text.Plain (argumentOf part) := by
    intro c hc
    rw [argumentOf_toList] at hc
    exact hbare c (Chars.trim_subset _ hc)
  refine ⟨hplain, ?_⟩
  rw [Bytes.ofText_plain hplain, argumentOf_toList, Bytes.itemArgument, Bytes.ofText_plain hpart,
    Bytes.dropWhile_toUInt8 fun c hc => (Bytes.marks_plain (hpart c hc)).1, ← List.map_drop,
    Bytes.trim_plain hbehind, Bytes.unquote_plain htrim, Bytes.trim_plain hbare]

theorem itemAge_ofText : itemAge (Bytes.ofText part) =
    (Text.unsigned? (1 <<< 64) (argumentOf part)).getD 0 := by
  obtain ⟨hplain, hargument⟩ := argument_ofText hpart
  rw [itemAge, hargument, Bytes.text?_eq_some_iff.2 ⟨hplain, rfl⟩, Option.bind_some]

theorem forbids_ofText : Forbids (Bytes.ofText part) ↔
    ∃ item, item? part = some item ∧ Forbidding item := by
  have hname {name : String} (h : Text.Plain name) :
      Bytes.itemName (Bytes.ofText part) = Bytes.ofText name ↔ nameOf part = name := by
    rw [itemName_ofText hpart, Bytes.ofText_inj (plain_nameOf hpart) h]
  rw [forbidding_iff, Forbids, itemAge_ofText hpart, hname (by decide)]
  refine or_congr ⟨?_, ?_⟩ Iff.rfl
  · rintro ⟨name, hmem, heq⟩
    have hnames : ∀ name ∈ ["no-store", "no-cache", "private"], Text.Plain name := by decide
    exact (hname (hnames name hmem)).1 heq ▸ hmem
  · intro hmem
    exact ⟨_, hmem, itemName_ofText hpart⟩

end

theorem exists_forbidding {text : String} (htext : Text.Plain text) :
    (∃ item ∈ items text, Forbidding item) ↔
      ∃ item ∈ (Bytes.ofText text).splitOn 0x2c, Forbids item := by
  rw [Bytes.splitOn_ofText htext]
  constructor
  · rintro ⟨item, hitem, hforbids⟩
    obtain ⟨part, hpart, hitem⟩ := List.mem_filterMap.1 hitem
    exact ⟨_, List.mem_map_of_mem hpart,
      (forbids_ofText (htext.of_mem_splitOn hpart)).2 ⟨item, hitem, hforbids⟩⟩
  · rintro ⟨_, hpart, hforbids⟩
    obtain ⟨part, hmem, rfl⟩ := List.mem_map.1 hpart
    obtain ⟨item, hitem, hforbids⟩ := (forbids_ofText (htext.of_mem_splitOn hmem)).1 hforbids
    exact ⟨item, List.mem_filterMap.2 ⟨part, hmem, hitem⟩, hforbids⟩

theorem forbidsStorage_ofHeaders (h : Http.Headers) :
    (ofHeaders h).forbidsStorage = true ↔ Refuses h := by
  have hstart : ({} : Directives).forbidsStorage = false := rfl
  rw [ofHeaders, forbidsStorage_foldl_merge, hstart]
  simp only [Bool.false_eq_true, false_or, Refuses, directiveValues, List.mem_filterMap]
  constructor
  · rintro ⟨text, ⟨v, hv, htext⟩, hforbids⟩
    obtain ⟨hplain, rfl⟩ := Bytes.text?_eq_some_iff.1 htext
    exact ⟨_, hv, Option.isSome_of_eq_some htext, (exists_forbidding hplain).1 hforbids⟩
  · rintro ⟨v, hv, hread, hforbids⟩
    obtain ⟨text, htext⟩ := Option.isSome_iff_exists.1 hread
    obtain ⟨hplain, rfl⟩ := Bytes.text?_eq_some_iff.1 htext
    exact ⟨text, ⟨_, hv, htext⟩, (exists_forbidding hplain).2 hforbids⟩

end Directives

namespace Capture

theorem onHead?_of_refuses {c : Capture} {h : Http.Headers} (hrefuses : Refuses h)
    (status : Http.Status) :
    (c.state ≠ .awaitingHead ∧ c.onHead? status h = some c) ∨
      (c.state = .awaitingHead ∧ ∃ why, c.onHead? status h = some (c.reject why)) := by
  cases hstate : c.state with
  | recording | rejected =>
    refine .inl ⟨nofun, ?_⟩
    simp only [onHead?, hstate]
  | awaitingHead =>
    cases hnone : c.headRejection? status h with
    | none =>
      obtain ⟨_, hallowed, _⟩ := headRejection?_eq_none_iff.1 hnone
      rw [(Directives.forbidsStorage_ofHeaders h).2 hrefuses] at hallowed
      cases hallowed
    | some why =>
      refine .inr ⟨rfl, why, ?_⟩
      simp only [onHead?, hstate, hnone]

end Capture

namespace Session

theorem step_rejected {s : Session} {id : Nat} {c : Capture} {why : Rejection}
    (hc : s.captures id = some c) (hstate : c.state = .rejected why) {e : Event}
    (he : e.claims id = false) : (s.step e).captures id = some c := by
  have hhead (status : Http.Status) (h : Http.Headers) : c.onHead? status h = some c := by
    simp only [Capture.onHead?, hstate]
  have hchunk (data : Bytes) : c.onChunk data = c := by
    simp only [Capture.onChunk, hstate]
  unfold Event.claims at he
  cases ho : e.op with
  | lookup | sweep => simpa [step, ho] using hc
  | head i status h =>
    by_cases hi : id = i
    · subst hi
      simp [step, ho, feed, setCapture, hc, hhead]
    · simpa [step, ho, feed, setCapture, hi] using hc
  | chunk i data =>
    by_cases hi : id = i
    · subst hi
      simp [step, ho, feed, setCapture, hc, hchunk]
    · simpa [step, ho, feed, setCapture, hi] using hc
  | capture i | abort i =>
    have hi : ¬id = i := fun heq => by simp [ho, heq] at he
    simpa [step, ho, setCapture, hi] using hc
  | commit i =>
    have hi : ¬id = i := fun heq => by simp [ho, heq] at he
    simp only [step, ho]
    split
    · simpa [setCapture, hi] using hc
    · exact hc

theorem run_rejected {s : Session} {id : Nat} {c : Capture} {why : Rejection}
    (hc : s.captures id = some c) (hstate : c.state = .rejected why) {es : List Event}
    (hes : ∀ e ∈ es, e.claims id = false) : (s.run es).captures id = some c := by
  induction es generalizing s with
  | nil => exact hc
  | cons e es ih =>
    have hstep := step_rejected hc hstate (hes e List.mem_cons_self)
    exact ih hstep fun a ha => hes a (List.mem_cons_of_mem e ha)

/-- In any state of a cache, a capture that waits for a head rejects it for its directives just if
the status could be stored and an item of a readable value forbids it. A capture that is told of
such a head does not accept it, and unless it is recording an earlier one, which it then goes on
with, nothing that is done before it is closed makes its commit put an entry in. -/
theorem refusals_of_session (s : Session) (id : Nat) (c : Capture) (hc : s.captures id = some c)
    (now : Instant) (status : Http.Status) (h : Http.Headers) :
    (c.headRejection? status h = some .directives ↔
      (Http.Status.isSuccess status = true ∧ status ≠ 206) ∧ Refuses h) ∧
    (Refuses h → ∃ d, c.onHead? status h = some d ∧ c.acceptsHead d = false ∧
      (c.isRecording = true → d = c) ∧
      (c.isRecording = false → ∀ es, (∀ e ∈ es, e.claims id = false) → ∀ later : Instant,
        let t := (s.step ⟨now, .head id status h⟩).run es
        t.captures id = some d ∧ (t.store.commit d later).1 = false ∧
          (t.step ⟨later, .commit id⟩).store = t.store)) := by
  refine ⟨?_, fun hrefuses => ?_⟩
  · rw [← Directives.forbidsStorage_ofHeaders]
    unfold Capture.headRejection?
    cases Http.Status.isSuccess status <;> by_cases hpartial : status = 206 <;>
      cases (Directives.ofHeaders h).forbidsStorage <;> cases varyIsKeyed h <;>
        cases (declaredLength? h).any (c.maxFileSize < ·) <;> simp [hpartial]
  · have hclosed {d : Capture} (hd : c.onHead? status h = some d) {why : Rejection}
        (hstate : d.state = .rejected why) (es : List Event)
        (hes : ∀ e ∈ es, e.claims id = false) (later : Instant) :
        let t := (s.step ⟨now, .head id status h⟩).run es
        t.captures id = some d ∧ (t.store.commit d later).1 = false ∧
          (t.step ⟨later, .commit id⟩).store = t.store := by
      intro t
      have hstep : (s.step ⟨now, .head id status h⟩).captures id = some d := by
        simp [step, feed, setCapture, hc, hd]
      have hopen : t.captures id = some d := run_rejected hstep hstate hes
      have hnone : d.finished? later = none := by simp only [Capture.finished?, hstate]
      have hcommit : t.store.commit d later = (false, t.store) := by
        simp only [Store.commit, hnone]
      refine ⟨hopen, congrArg Prod.fst hcommit, ?_⟩
      simp only [step, hopen, hcommit]
    rcases Capture.onHead?_of_refuses hrefuses status with ⟨hstate, hd⟩ | ⟨hstate, why, hd⟩
    · refine ⟨c, hd, by simp [Capture.acceptsHead, hstate], fun _ => rfl, fun hrecording => ?_⟩
      cases hrejected : c.state with
      | awaitingHead => exact absurd hrejected hstate
      | recording => simp [Capture.isRecording, hrejected] at hrecording
      | rejected why => exact hclosed hd hrejected
    · refine ⟨c.reject why, hd, by simp [Capture.acceptsHead, Capture.isActive, Capture.reject],
        fun hrecording => ?_, fun _ => hclosed hd rfl⟩
      simp [Capture.isRecording, hstate] at hrecording

theorem refusals_of_session_spread :
    let key : Key := ⟨"GET", false, "site.test", "/", ""⟩
    let h := ((Http.Headers.empty.append "cache-control" (Bytes.ofText "public, max-age=60")).append
      "cache-control" (Bytes.ofText "x=\"a\" ,,Max-Age\t= \" 0\" ")).append "pragma" [0xff]
    let s := (start (.ofConfig {})).run [⟨1000, .capture 7 key .empty⟩]
    let t := (s.step ⟨2000, .head 7 200 h⟩).run [⟨3000, .chunk 7 [104]⟩, ⟨3000, .head 7 200 .empty⟩]
    Refuses h ∧ (∃ c, s.captures 7 = some c ∧ c.headRejection? 200 h = some .directives) ∧
      ∃ d, t.captures 7 = some d ∧ (t.store.commit d 4000).1 = false := by
  intro key h s t
  have hrefuses : Refuses h := by decide +kernel
  have hidle : (s.captures 7).map Capture.isRecording = some false := by decide +kernel
  obtain ⟨c, hc, hidle⟩ := Option.map_eq_some_iff.1 hidle
  obtain ⟨hrejects, hnever⟩ := refusals_of_session s 7 c hc 2000 200 h
  obtain ⟨d, _, _, _, hclosed⟩ := hnever hrefuses
  obtain ⟨hopen, hcommit, _⟩ :=
    hclosed hidle [⟨3000, .chunk 7 [104]⟩, ⟨3000, .head 7 200 .empty⟩] (by decide) 4000
  exact ⟨hrefuses, ⟨c, hc, hrejects.2 ⟨by decide, hrefuses⟩⟩, d, hopen, hcommit⟩

/-- A byte that no text has hides the item before it. -/
theorem stored_behind_unreadable :
    let key : Key := ⟨"GET", false, "site.test", "/", ""⟩
    let v : Bytes := Bytes.ofText "no-store, " ++ [0xe9]
    let h := Http.Headers.empty.append "cache-control" v
    let s := (start (.ofConfig {})).run [⟨1000, .capture 7 key .empty⟩, ⟨1000, .head 7 200 h⟩,
      ⟨1000, .chunk 7 [104]⟩]
    (∃ item ∈ v.splitOn 0x2c, Forbids item) ∧ v ∈ directiveValues h ∧
      ((s.captures 7).map (·.isRecording)) = some true ∧
      ((s.captures 7).map fun c => (s.store.commit c 1000).1) = some true ∧
      ((s.step ⟨1000, .commit 7⟩).store.find? key).isSome = true := by
  decide +kernel

/-- No entry of a session goes back to a head that forbids storing. -/
theorem not_refuses_of_live (p : Policy) (es : List Event) (l : Live)
    (hl : l ∈ ((start p).run es).store.live) : ∃ request began status headers,
      l.Stems p es request began status headers ∧ ¬Refuses headers := by
  obtain ⟨request, began, status, headers, hstems, hadmitted⟩ := (run_traced p es).entries l hl
  refine ⟨request, began, status, headers, hstems, fun hrefuses => ?_⟩
  have hforbids := (Directives.forbidsStorage_ofHeaders headers).2 hrefuses
  rw [hadmitted.directives] at hforbids
  cases hforbids

end Session
end Cache
end ReverseProxy
