import Mathlib.Logic.Basic
import ReverseProxy.Http.Date

set_option autoImplicit false

namespace ReverseProxy.Http.Date
open Calendar

def calendarStart : Int := daysBeforeYear minYear * 86400000

def calendarEnd : Int := daysBeforeYear (maxYear + 1) * 86400000

theorem inRange_iff (n : Int) :
    inRange n = true ↔ calendarStart ≤ n * 86400000 ∧ n * 86400000 < calendarEnd := by
  unfold inRange calendarStart calendarEnd
  rw [Bool.and_eq_true, decide_eq_true_iff, decide_eq_true_iff]
  omega

theorem format?_isSome_iff {t : Int} :
    (format? t).isSome = true ↔ calendarStart ≤ t ∧ t < calendarEnd := by
  have hday : (format? t).isSome = inRange (t / 1000 / 86400) := by
    unfold format? formatSeconds?
    dsimp only
    cases inRange (t / 1000 / 86400) <;> rfl
  rw [hday, inRange_iff]
  unfold calendarStart calendarEnd
  omega

theorem format?_eq_none_iff {t : Int} : format? t = none ↔ t < calendarStart ∨ calendarEnd ≤ t := by
  rw [← Option.not_isSome_iff_eq_none, format?_isSome_iff, not_and_or, Int.not_le, Int.not_lt]

theorem format?_after {t : Int} (ht : 0 ≤ t) : format? t = none ↔ calendarEnd ≤ t := by
  have hstart : calendarStart ≤ 0 := by decide
  rw [format?_eq_none_iff]
  omega

/-- Only a leap second takes an instant out of the calendar, and no further than to its end. -/
theorem Fields.instant?_bounds {f : Fields} {t : Int} (h : f.instant? = some t) :
    calendarStart ≤ t ∧ (t < calendarEnd ∨ t = calendarEnd ∧ f.second = 60) := by
  unfold Fields.instant? at h
  dsimp only at h
  split at h
  · split at h
    · split at h
      · next hrange =>
        rw [inRange_iff] at hrange
        have ht : @Eq Int _ t := Option.some.inj h
        unfold calendarStart calendarEnd at hrange ⊢
        split at ht <;> omega
      · cases h
    · cases h
  · cases h

def OfFields (o : Option Instant) : Prop := ∀ t, o = some t → ∃ f : Fields, f.instant? = some t

theorem ofFields_bind {α : Type} {o : Option α} {g : α → Option Instant}
    (h : ∀ a, OfFields (g a)) : OfFields (o.bind g) := by
  intro t ht
  obtain ⟨a, _, ha⟩ := Option.bind_eq_some_iff.1 ht
  exact h a t ha

theorem ofFields_if {f : Fields} {c : Prop} [Decidable c] :
    OfFields (if c then f.instant? else none) := by
  intro t ht
  split at ht
  · exact ⟨f, ht⟩
  · cases ht

theorem ofFields_parseFixed? (cs : List Char) : OfFields (parseFixed? cs) := by
  unfold parseFixed?
  iterate 11 refine ofFields_bind fun _ => ?_
  exact ofFields_if

theorem ofFields_parseMail? (cs : List Char) : OfFields (parseMail? cs) := by
  unfold parseMail?
  dsimp only
  -- With a weekday and without, and then with seconds and without.
  split
  all_goals
    iterate 10 refine ofFields_bind fun _ => ?_
    split
    all_goals
      iterate 3 refine ofFields_bind fun _ => ?_
      exact ofFields_if

theorem parse?_bounds {s : String} {t : Int} (h : parse? s = some t) :
    calendarStart ≤ t ∧ t ≤ calendarEnd := by
  have hfields : ∃ f : Fields, f.instant? = some t := by
    rcases Option.or_eq_some_iff.1 h with hfixed | ⟨_, hmail⟩
    · exact ofFields_parseFixed? _ t hfixed
    · exact ofFields_parseMail? _ t hmail
  obtain ⟨f, hf⟩ := hfields
  obtain ⟨hstart, hend⟩ := Fields.instant?_bounds hf
  omega

end ReverseProxy.Http.Date
