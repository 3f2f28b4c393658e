import ReverseProxy.Proofs.Calendar
import ReverseProxy.Proofs.Http.Dates
import ReverseProxy.Proofs.Text.Cut
import ReverseProxy.Proofs.Text.Decimal
import ReverseProxy.Proofs.Text.Trim

set_option autoImplicit false

namespace ReverseProxy.Http.Date
open Calendar Chars

def ofValue? (v : Bytes) : Option Instant := (Bytes.text? v).bind parse?

section
variable {r : List Char}

theorem name?_dayNames {w : Nat} (hw : w < 7) :
    name? dayNames ((dayNames.getD w "").toList ++ r) = some (w, r) :=
  match w, hw with
  | 0, _ | 1, _ | 2, _ | 3, _ | 4, _ | 5, _ | 6, _ => rfl

theorem name?_monthNames {m : Nat} (hm : m < 12) :
    name? monthNames ((monthNames.getD m "").toList ++ r) = some (m, r) :=
  match m, hm with
  | 0, _ | 1, _ | 2, _ | 3, _ | 4, _ | 5, _ | 6, _ | 7, _ | 8, _ | 9, _ | 10, _ | 11, _ => rfl

theorem value_paddedNat {width n : Nat} (hsmall : n < 1 <<< 63) :
    (if (paddedNat width n).length < 1 then none
      else ((decimal? (paddedNat width n)).filter (· < 1 <<< 63)).map fun k =>
        (k, (paddedNat width n ++ r).drop (paddedNat width n).length)) = some (n, r) := by
  have hlength : 0 < (paddedNat width n).length := List.length_pos_iff.2 paddedNat_ne_nil
  rw [if_neg (Nat.not_lt.2 hlength), decimal?_paddedNat, Option.filter_some,
    if_pos (decide_eq_true hsmall), List.drop_left]
  rfl

theorem number?_paddedNat {width n : Nat} (hwidth : 0 < width) (hn : n < 10 ^ width)
    (hsmall : n < 1 <<< 63) :
    number? 1 (some width) (paddedNat width n ++ r) = some (n, r) := by
  unfold number?
  dsimp only
  rw [List.takeWhile_append_of_pos isDigit_paddedNat, List.take_left' (length_paddedNat hwidth hn)]
  exact value_paddedNat hsmall

theorem number?_paddedNat_append {width n : Nat} (hsmall : n < 1 <<< 63)
    (hr : ∀ c, r.head? = some c → c.isDigit = false) :
    number? 1 none (paddedNat width n ++ r) = some (n, r) := by
  unfold number?
  dsimp only
  rw [takeWhile_append isDigit_paddedNat hr]
  exact value_paddedNat hsmall

theorem number?_two {n : Nat} (hn : n < 100) :
    number? 1 (some 2) (paddedNat 2 n ++ r) = some (n, r) :=
  number?_paddedNat (by decide) hn (Nat.lt_trans hn (by decide))

theorem head?_paddedNat {width n : Nat} {c : Char} (hc : (paddedNat width n ++ r).head? = some c) :
    c.isDigit = true := by
  rw [List.head?_append_of_ne_nil _ paddedNat_ne_nil] at hc
  exact isDigit_paddedNat c (List.mem_of_mem_head? hc)

theorem signedYear?_of_digits {cs : List Char} (hcs : ∀ c, cs.head? = some c → c.isDigit = true) :
    signedYear? cs = (number? 1 (some 4) cs).map fun (n, r) => ((n : Int), r) := by
  unfold signedYear?
  split
  · exact absurd (hcs '-' rfl) (by decide)
  · exact absurd (hcs '+' rfl) (by decide)
  · rfl

theorem signedYear?_yearText {y : Int} (hy : y.natAbs < 1 <<< 63)
    (hr : ∀ c, r.head? = some c → c.isDigit = false) :
    signedYear? (yearText y ++ r) = some (y, r) := by
  have hread : number? 1 none (paddedNat 4 y.natAbs ++ r) = some (y.natAbs, r) :=
    number?_paddedNat_append hy hr
  unfold yearText
  split
  · next hshort =>
    have hn : y.toNat < 10 ^ 4 := by omega
    rw [signedYear?_of_digits fun c => head?_paddedNat,
      number?_paddedNat (by decide) hn (Nat.lt_trans hn (by decide)), Option.map_some]
    dsimp only
    rw [Int.toNat_of_nonneg hshort.1]
  · split
    · next hnegative =>
      rw [List.cons_append, signedYear?, hread, Option.map_some]
      dsimp only
      rw [show -(y.natAbs : Int) = y by omega]
    · next hlarge =>
      rw [List.cons_append, signedYear?, hread, Option.map_some]
      dsimp only
      rw [show (y.natAbs : Int) = y by omega]

theorem char?_cons (c : Char) : char? c (c :: r) = some r :=
  if_pos rfl

theorem trimStart_paddedNat (width n : Nat) :
    trimStart (paddedNat width n ++ r) = paddedNat width n ++ r :=
  trimStart_blank_append (u := []) (List.forall_mem_nil _)
    fun _ hc => isBlank_of_isDigit (head?_paddedNat hc)

theorem trimStart_blank (cs : List Char) : trimStart (' ' :: cs) = trimStart cs :=
  rfl

theorem trimStart_yearText (y : Int) : trimStart (yearText y ++ r) = yearText y ++ r := by
  unfold yearText
  split
  · exact trimStart_paddedNat 4 _
  · split <;> rfl

theorem trimStart_monthNames {m : Nat} (hm : m < 12) :
    trimStart ((monthNames.getD m "").toList ++ r) = (monthNames.getD m "").toList ++ r :=
  match m, hm with
  | 0, _ | 1, _ | 2, _ | 3, _ | 4, _ | 5, _ | 6, _ | 7, _ | 8, _ | 9, _ | 10, _ | 11, _ => rfl

end

/-- The fixed form of a day of the week, a day of the year and a time of day. -/
def fixedText (w : Nat) (d : Day) (hour minute second : Nat) : List Char :=
  (dayNames.getD w "").toList ++ ',' :: ' ' :: (paddedNat 2 d.day ++ ' ' ::
    ((monthNames.getD (d.month - 1) "").toList ++ ' ' :: (yearText d.year ++ ' ' ::
      (paddedNat 2 hour ++ ':' :: (paddedNat 2 minute ++ ':' ::
        (paddedNat 2 second ++ [' ', 'G', 'M', 'T']))))))

section
variable {w hour minute second : Nat} {d : Day}

theorem parseFixed?_fixedText (hw : w < 7) (hd : d.Valid) (hy : d.year.natAbs < 1 <<< 63)
    (hhour : hour < 100) (hminute : minute < 100) (hsecond : second < 100) :
    parseFixed? (fixedText w d hour minute second) =
      Fields.instant? ⟨some w, d.year, d.month, d.day, hour, minute, second, 0⟩ := by
  obtain ⟨hfirst, hlast, _, hin⟩ := hd
  have hday : d.day < 100 := Nat.lt_of_le_of_lt (Nat.le_trans hin (daysInMonth_le _ _)) (by decide)
  have hmonth : d.month - 1 < 12 := by omega
  have hyear (r : List Char) : signedYear? (yearText d.year ++ ' ' :: r) = some (d.year, ' ' :: r) :=
    signedYear?_yearText hy fun c hc => Option.some.inj hc ▸ rfl
  have hgmt : stripStart? ['G', 'M', 'T'] (trimStart ['G', 'M', 'T']) = some [] := rfl
  unfold parseFixed? fixedText
  simp only [bind, Option.bind_some, char?_cons, trimStart_blank, trimStart_paddedNat,
    trimStart_monthNames hmonth, trimStart_yearText, name?_dayNames hw, name?_monthNames hmonth,
    number?_two hday, hyear, number?_two hhour, number?_two hminute, number?_two hsecond, hgmt,
    Nat.sub_add_cancel hfirst]
  rfl

theorem trim_fixedText (hw : w < 7) :
    trim (fixedText w d hour minute second) = fixedText w d hour minute second := by
  have hfirst : ∃ c, (fixedText w d hour minute second).head? = some c ∧ isBlank c = false :=
    match w, hw with
    | 0, _ | 1, _ | 2, _ | 3, _ | 4, _ | 5, _ | 6, _ => ⟨_, rfl, rfl⟩
  obtain ⟨c, hc, hblank⟩ := hfirst
  refine trim_of_ends hc hblank (b := 'T') ?_ rfl
  unfold fixedText
  simp [List.getLast?_append, List.getLast?_cons]

theorem plain_fixedText (hw : w < 7) (hd : d.Valid) :
    Text.Plain (String.ofList (fixedText w d hour minute second)) := by
  have hdays : ∀ w < 7, Text.Plain (dayNames.getD w "") := by decide
  have hmonths : ∀ m < 12, Text.Plain (monthNames.getD m "") := by decide
  have hnumber (n : Nat) {width : Nat} : ∀ c ∈ paddedNat width n, isPlain c :=
    fun c hc => plain_of_isDigit (isDigit_paddedNat c hc)
  have hyear : ∀ c ∈ yearText d.year, isPlain c := by
    unfold yearText
    split
    · exact hnumber _
    · split <;> exact List.forall_mem_cons.2 ⟨rfl, hnumber _⟩
  have hmonth : d.month - 1 < 12 := by have := hd.2.1; omega
  intro c hc
  rw [String.toList_ofList] at hc
  simp only [fixedText, List.mem_append, List.mem_cons, List.not_mem_nil, or_false] at hc
  rcases hc with hc | rfl | rfl | hc | rfl | hc | rfl | hc | rfl | hc | rfl | hc | rfl | hc | hc
  · exact hdays w hw c hc
  · rfl
  · rfl
  · exact hnumber _ c hc
  · rfl
  · exact hmonths _ hmonth c hc
  · rfl
  · exact hyear c hc
  · rfl
  · exact hnumber _ c hc
  · rfl
  · exact hnumber _ c hc
  · rfl
  · exact hnumber _ c hc
  · rcases hc with rfl | rfl | rfl | rfl <;> rfl

end

theorem Fields.instant?_ofDays {s : Int} (hs : inRange (s / 86400) = true) :
    Fields.instant? ⟨some (Calendar.weekday (s / 86400)), (Day.ofDays (s / 86400)).year,
      (Day.ofDays (s / 86400)).month, (Day.ofDays (s / 86400)).day,
      (s % 86400).toNat / 3600, (s % 86400).toNat / 60 % 60, (s % 86400).toNat % 60, 0⟩ =
      some (s * 1000) := by
  obtain ⟨hmin, hmax⟩ := inRange_iff_year.1 hs
  have hrest : ((s % 86400).toNat : Int) = s % 86400 := Int.toNat_of_nonneg (by omega)
  generalize (s % 86400).toNat = rest at hrest
  have hclock : ((rest / 3600 : Nat) : Int) * 3600 + (rest / 60 % 60 : Nat) * 60 +
      (min (rest % 60) 59 : Nat) - 0 = s % 86400 := by omega
  have hday : s / 86400 + s % 86400 / 86400 = s / 86400 := by omega
  have hsecond : s / 86400 * 86400 + s % 86400 + 0 = s := by omega
  unfold Fields.instant?
  dsimp only
  rw [if_pos ⟨hmin, hmax, Day.valid_ofDays _, by omega, by omega, by omega, by decide⟩,
    Day.toDays_ofDays, if_pos (by simp), hclock, hday, if_pos hs, if_neg (by omega), hsecond]

theorem formatSeconds?_eq {s : Int} (hs : inRange (s / 86400) = true) : formatSeconds? s =
    some (String.ofList (fixedText (Calendar.weekday (s / 86400)) (Day.ofDays (s / 86400))
      ((s % 86400).toNat / 3600) ((s % 86400).toNat / 60 % 60) ((s % 86400).toNat % 60))) := by
  unfold formatSeconds? fixedText
  dsimp only
  rw [if_pos hs]
  simp only [List.append_assoc, List.cons_append, List.nil_append]

theorem parse?_formatSeconds? {s : Int} (hs : inRange (s / 86400) = true) :
    ∃ text, formatSeconds? s = some text ∧ Text.Plain text ∧ parse? text = some (s * 1000) := by
  have hweekday : Calendar.weekday (s / 86400) < 7 := by
    unfold Calendar.weekday
    omega
  have hday := Day.valid_ofDays (s / 86400)
  have hyear : (Day.ofDays (s / 86400)).year.natAbs < 1 <<< 63 := by
    obtain ⟨hmin, hmax⟩ := inRange_iff_year.1 hs
    unfold minYear at hmin
    unfold maxYear at hmax
    omega
  refine ⟨_, formatSeconds?_eq hs, plain_fixedText hweekday hday, ?_⟩
  unfold parse?
  dsimp only
  rw [String.toList_ofList, trim_fixedText hweekday,
    parseFixed?_fixedText hweekday hday hyear (by omega) (by omega) (by omega),
    Fields.instant?_ofDays hs, Option.some_or]

theorem calendar_iff_year {t : Int} : calendarStart ≤ t ∧ t < calendarEnd ↔
    minYear ≤ (Day.ofDays (t / 86400000)).year ∧ (Day.ofDays (t / 86400000)).year ≤ maxYear := by
  rw [← inRange_iff_year, inRange_iff]
  unfold calendarStart calendarEnd
  omega

section
variable {t : Int} (hstart : calendarStart ≤ t) (hend : t < calendarEnd)
include hstart hend

/-- Every instant of the calendar can be written as a date, and the date is read as the instant
rounded down to a whole second. -/
theorem parse?_format? : ∃ text, format? t = some text ∧ Text.Plain text ∧
    parse? text = some (t / 1000 * 1000) := by
  have hday : inRange (t / 1000 / 86400) = true := by
    rw [inRange_iff]
    unfold calendarStart calendarEnd at *
    omega
  exact parse?_formatSeconds? hday

theorem ofValue?_format? : ∃ text, format? t = some text ∧
    ofValue? (Bytes.ofText text) = some (t / 1000 * 1000) := by
  obtain ⟨text, hformat, hplain, hparse⟩ := parse?_format? hstart hend
  refine ⟨text, hformat, ?_⟩
  rw [ofValue?, Bytes.text?_eq_some_iff.2 ⟨hplain, rfl⟩]
  exact hparse

end

end ReverseProxy.Http.Date
