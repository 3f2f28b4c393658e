import ReverseProxy.Calendar

set_option autoImplicit false

namespace ReverseProxy.Calendar

theorem daysBeforeYear_succ (y : Int) :
    daysBeforeYear (y + 1) = daysBeforeYear y + if isLeap y then 366 else 365 := by
  unfold daysBeforeYear isLeap
  split
  all_goals
    next hleap =>
      simp only [Bool.and_eq_true, Bool.or_eq_true, beq_iff_eq, bne_iff_ne] at hleap
      omega

theorem daysBeforeYear_mono {y z : Int} (h : y ≤ z) : daysBeforeYear y ≤ daysBeforeYear z := by
  unfold daysBeforeYear
  omega

/-- Counted in mean years, the days before a year are off by less than two. -/
theorem daysBeforeYear_mean (y : Int) :
    146097 * (y - 1970) - 730 ≤ 400 * daysBeforeYear y ∧
      400 * daysBeforeYear y ≤ 146097 * (y - 1970) + 730 := by
  unfold daysBeforeYear
  omega

theorem yearOfDays_bounds (n : Int) :
    daysBeforeYear (yearOfDays n) ≤ n ∧ n < daysBeforeYear (yearOfDays n + 1) := by
  unfold yearOfDays
  generalize hguess : 1970 + n * 400 / 146097 = guess
  dsimp only
  have hbefore := daysBeforeYear_mean (guess - 1)
  have hbehind := daysBeforeYear_mean (guess + 1 + 1)
  split
  · next hnext => exact ⟨hnext, by omega⟩
  · next hnext =>
    rw [Int.not_le] at hnext
    split
    · next hguess => exact ⟨by omega, by rwa [Int.sub_add_cancel]⟩
    · next hguess => exact ⟨Int.not_lt.1 hguess, hnext⟩

theorem yearOfDays_eq {n y : Int} (hfrom : daysBeforeYear y ≤ n)
    (huntil : n < daysBeforeYear (y + 1)) : yearOfDays n = y := by
  obtain ⟨hlow, hhigh⟩ := yearOfDays_bounds n
  rcases Int.lt_trichotomy (yearOfDays n) y with hless | heq | hmore
  · have := daysBeforeYear_mono (Int.add_one_le_of_lt hless)
    omega
  · exact heq
  · have := daysBeforeYear_mono (Int.add_one_le_of_lt hmore)
    omega

section
variable (y : Int)

theorem daysBeforeMonth_succ {m : Nat} (hm : 1 ≤ m) :
    daysBeforeMonth y (m + 1) = daysBeforeMonth y m + daysInMonth y m := by
  obtain ⟨k, rfl⟩ := Nat.exists_eq_add_of_le' hm
  unfold daysBeforeMonth
  rw [Nat.add_sub_cancel, Nat.add_sub_cancel, List.range_succ, List.foldl_append]
  rfl

theorem daysBeforeMonth_mono {m k : Nat} (hm : 1 ≤ m) (h : m ≤ k) :
    daysBeforeMonth y m ≤ daysBeforeMonth y k := by
  induction h with
  | refl => exact Nat.le_refl _
  | step hk ih =>
    rw [Nat.succ_eq_add_one, daysBeforeMonth_succ y (Nat.le_trans hm hk)]
    exact Nat.le_add_right_of_le ih

theorem daysInMonth_le (m : Nat) : daysInMonth y m ≤ 31 := by
  unfold daysInMonth
  split
  · split <;> decide
  · split <;> decide

theorem daysBeforeMonth_thirteen : daysBeforeMonth y 13 = if isLeap y then 366 else 365 := by
  have hfebruary : daysInMonth y 2 = if isLeap y then 29 else 28 := rfl
  have hsum : daysBeforeMonth y 13 = daysInMonth y 2 + 337 := by
    simp only [daysBeforeMonth_succ y (Nat.le_add_left 1 _)]
    simp [daysBeforeMonth, daysInMonth]
    omega
  rw [hsum, hfebruary]
  split <;> rfl

/-- The month that holds a day, and the place of the day in it. The search starts at month `m` and
has `fuel` more months to go through. -/
theorem monthOfDays_spec {fuel m rest : Nat} (hm : 1 ≤ m)
    (hrest : daysBeforeMonth y m + rest < daysBeforeMonth y (m + fuel + 1)) :
    m ≤ (monthOfDays y fuel m rest).1 ∧ (monthOfDays y fuel m rest).1 ≤ m + fuel ∧
      1 ≤ (monthOfDays y fuel m rest).2 ∧
      (monthOfDays y fuel m rest).2 ≤ daysInMonth y (monthOfDays y fuel m rest).1 ∧
      daysBeforeMonth y (monthOfDays y fuel m rest).1 + (monthOfDays y fuel m rest).2 =
        daysBeforeMonth y m + rest + 1 := by
  induction fuel generalizing m rest with
  | zero =>
    rw [Nat.add_zero, daysBeforeMonth_succ y hm] at hrest
    simp only [monthOfDays]
    omega
  | succ fuel ih =>
    simp only [monthOfDays]
    split
    · next hhere => simp only; omega
    · next hlater =>
      have hnext := daysBeforeMonth_succ y hm
      have hih := @ih (m + 1) (rest - daysInMonth y m) (by omega)
        (by rw [show m + 1 + fuel + 1 = m + (fuel + 1) + 1 by omega]; omega)
      omega

end

theorem Day.year_ofDays (n : Int) : (Day.ofDays n).year = yearOfDays n :=
  rfl

theorem Day.ofDays_spec (n : Int) : (Day.ofDays n).Valid ∧
    daysBeforeMonth (yearOfDays n) (Day.ofDays n).month + (Day.ofDays n).day =
      (n - daysBeforeYear (yearOfDays n)).toNat + 1 := by
  obtain ⟨hfrom, huntil⟩ := yearOfDays_bounds n
  have hyear := daysBeforeMonth_thirteen (yearOfDays n)
  have hjanuary : daysBeforeMonth (yearOfDays n) 1 = 0 := rfl
  rw [daysBeforeYear_succ] at huntil
  have hinside : daysBeforeMonth (yearOfDays n) 1 + (n - daysBeforeYear (yearOfDays n)).toNat <
      daysBeforeMonth (yearOfDays n) (1 + 11 + 1) := by
    rw [hyear, hjanuary]
    split at huntil <;> simp_all <;> omega
  obtain ⟨hfirst, hlast, hday, hin, hcount⟩ :=
    monthOfDays_spec (yearOfDays n) (Nat.le_refl 1) hinside
  exact ⟨⟨hfirst, hlast, hday, hin⟩, by rw [hjanuary, Nat.zero_add] at hcount; exact hcount⟩

theorem Day.valid_ofDays (n : Int) : (Day.ofDays n).Valid :=
  (Day.ofDays_spec n).1

theorem Day.toDays_ofDays (n : Int) : (Day.ofDays n).toDays = n := by
  have hfrom := (yearOfDays_bounds n).1
  have hcount := (Day.ofDays_spec n).2
  rw [Day.toDays, Day.year_ofDays]
  omega

/-- A day of the calendar is found at its distance. -/
theorem Day.ofDays_toDays {d : Day} (hd : d.Valid) : Day.ofDays d.toDays = d := by
  obtain ⟨hfirst, hlast, hday, hin⟩ := hd
  have hnext := daysBeforeMonth_succ d.year hfirst
  have hyear : yearOfDays d.toDays = d.year := by
    have hrest := daysBeforeMonth_mono d.year (Nat.le_add_left 1 d.month) (Nat.succ_le_succ hlast)
    rw [daysBeforeMonth_thirteen, hnext] at hrest
    refine yearOfDays_eq ?_ ?_
    · unfold Day.toDays
      omega
    · rw [daysBeforeYear_succ]
      unfold Day.toDays
      split <;> simp_all <;> omega
  obtain ⟨⟨hfirst', hlast', hday', hin'⟩, hcount⟩ := Day.ofDays_spec d.toDays
  have hnext' := daysBeforeMonth_succ d.year hfirst'
  rw [Day.year_ofDays, hyear] at hin'
  have hrest : (d.toDays - daysBeforeYear d.year).toNat + 1 =
      daysBeforeMonth d.year d.month + d.day := by
    unfold Day.toDays
    omega
  rw [hyear, hrest] at hcount
  -- Of two different months the later starts behind all days of the earlier.
  have hmonth : (Day.ofDays d.toDays).month = d.month := by
    rcases Nat.lt_trichotomy (Day.ofDays d.toDays).month d.month with hless | heq | hmore
    · have := daysBeforeMonth_mono d.year (Nat.le_add_left 1 _) (Nat.succ_le_of_lt hless)
      omega
    · exact heq
    · have := daysBeforeMonth_mono d.year (Nat.le_add_left 1 _) (Nat.succ_le_of_lt hmore)
      omega
  rw [hmonth] at hcount
  exact (Day.mk.injEq ..).mpr ⟨hyear, hmonth, Nat.add_left_cancel hcount⟩

theorem daysBeforeYear_lt_iff {y z : Int} : daysBeforeYear y < daysBeforeYear z ↔ y < z := by
  unfold daysBeforeYear
  omega

theorem inRange_iff_year {n : Int} : inRange n = true ↔
    minYear ≤ (Day.ofDays n).year ∧ (Day.ofDays n).year ≤ maxYear := by
  obtain ⟨hfrom, huntil⟩ := yearOfDays_bounds n
  rw [inRange, Bool.and_eq_true, decide_eq_true_iff, decide_eq_true_iff, Day.year_ofDays]
  constructor
  · rintro ⟨hmin, hmax⟩
    have hfirst : minYear < yearOfDays n + 1 := daysBeforeYear_lt_iff.1 (by omega)
    have hlast : yearOfDays n < maxYear + 1 := daysBeforeYear_lt_iff.1 (by omega)
    omega
  · rintro ⟨hmin, hmax⟩
    have hfirst := daysBeforeYear_mono hmin
    have hlast := daysBeforeYear_mono (Int.add_le_add_right hmax 1)
    omega

end ReverseProxy.Calendar
