import PromptForm.Export.Moment

/-!
# The calendar

Counting days out in years and months gives the date of a day: the one date whose day it is. Dates are
ordered as their days are, by the year first, then by the month and then by the day of the month.

## Main definitions

* `Calendar.IsDate`: the dates of the years that can be written.

## Main results

* `Calendar.dateOf_spec`: the date of a day.
* `Calendar.IsDate.dayNumber_lt_of_lex`: of two dates, the one that is smaller in the first part in
  which they differ is the earlier one.
* `Calendar.daysThrough_eq`: the rule of the leap years, summed up.
-/

namespace PromptForm

namespace Calendar

/-- A month of a year and a day of that month. -/
structure IsDate (year month day : Nat) : Prop where
  year_pos : 1 ≤ year
  year_le : year ≤ lastYear
  month_pos : 1 ≤ month
  month_le : month ≤ 12
  day_pos : 1 ≤ day
  day_le : day ≤ (monthLengths year).getD (month - 1) 0

/-! ### Years -/

/-- The days of the years up to a year: every fourth is a leap year, but no hundredth unless it is a
four-hundredth. -/
theorem daysThrough_eq (year : Nat) :
    daysThrough year = 365 * year + year / 4 - year / 100 + year / 400 := by
  induction year with
  | zero => rfl
  | succ year ih =>
    rw [daysThrough, ih, yearLength, isLeap]
    split
    · next h =>
      simp only [Bool.and_eq_true, Bool.or_eq_true, beq_iff_eq, bne_iff_ne, ne_eq] at h
      omega
    · next h =>
      simp only [Bool.and_eq_true, Bool.or_eq_true, beq_iff_eq, bne_iff_ne, ne_eq] at h
      omega

theorem daysThrough_le {year next : Nat} (h : year ≤ next) : daysThrough year ≤ daysThrough next := by
  induction h with
  | refl => exact Nat.le_refl _
  | step _ ih => exact Nat.le_trans ih (Nat.le_add_right _ _)

/-- Counting days out in years, as long as there are years enough. -/
theorem yearOf_spec {fuel passed days : Nat}
    (h : daysThrough passed + days < daysThrough (passed + fuel)) :
    ∃ year rest, yearOf fuel (passed + 1) days = (year + 1, rest) ∧ year < passed + fuel ∧
      rest < yearLength (year + 1) ∧ daysThrough year + rest = daysThrough passed + days := by
  induction fuel generalizing passed days with
  | zero => exact absurd h (Nat.not_lt.2 (Nat.le_add_right _ _))
  | succ fuel ih =>
    rw [yearOf]
    split
    · next hdays => exact ⟨passed, days, rfl, by omega, hdays, rfl⟩
    · next hdays =>
      have hpassed : daysThrough (passed + 1) = daysThrough passed + yearLength (passed + 1) := rfl
      rw [← Nat.add_assoc, Nat.add_right_comm] at h
      obtain ⟨year, rest, hyear, hlt, hrest, hsum⟩ :=
        @ih (passed + 1) (days - yearLength (passed + 1)) (by omega)
      exact ⟨year, rest, hyear, by omega, hrest, by omega⟩

/-! ### Months -/

theorem foldl_add_cons (length : Nat) (lengths : List Nat) :
    (length :: lengths).foldl (· + ·) 0 = length + lengths.foldl (· + ·) 0 := by
  rw [List.foldl_cons, Nat.zero_add, ← Nat.add_zero length, List.foldl_assoc, Nat.add_zero]

/-- The months of a year have the days of the year. -/
theorem foldl_monthLengths (year : Nat) :
    (monthLengths year).foldl (· + ·) 0 = yearLength year := by
  rw [monthLengths, yearLength]
  cases isLeap year <;> rfl

/-- Counting days out in months, as long as there are days enough in them. -/
theorem monthOf_spec {lengths : List Nat} (month : Nat) {days : Nat}
    (h : days < lengths.foldl (· + ·) 0) :
    ∃ i rest, monthOf lengths month days = (month + i, rest) ∧ i < lengths.length ∧
      rest < lengths.getD i 0 ∧ (lengths.take i).foldl (· + ·) 0 + rest = days := by
  induction lengths generalizing month days with
  | nil => exact absurd h (Nat.not_lt_zero _)
  | cons length lengths ih =>
    rw [foldl_add_cons] at h
    rw [monthOf]
    split
    · next hdays => exact ⟨0, days, rfl, Nat.zero_lt_succ _, hdays, Nat.zero_add days⟩
    · next hdays =>
      obtain ⟨i, rest, hmonth, hlt, hrest, hsum⟩ :=
        @ih (month + 1) (days - length) (by omega)
      refine ⟨i + 1, rest, ?_, Nat.succ_lt_succ hlt, hrest, ?_⟩
      · rw [hmonth, Nat.add_assoc, Nat.add_comm 1]
      · rw [List.take_succ_cons, foldl_add_cons]
        omega

theorem monthLengths_le (year i : Nat) : (monthLengths year).getD i 0 ≤ 31 := by
  have hall : ∀ length ∈ monthLengths year, length ≤ 31 := by
    rw [monthLengths]
    cases isLeap year <;> decide
  rw [List.getD_eq_getElem?_getD]
  cases hlength : (monthLengths year)[i]? with
  | none => exact Nat.zero_le _
  | some length => exact hall length (List.mem_of_getElem? hlength)

theorem daysBeforeMonth_succ (year : Nat) {month : Nat} (h : 1 ≤ month) :
    daysBeforeMonth year (month + 1) =
      daysBeforeMonth year month + (monthLengths year).getD (month - 1) 0 := by
  obtain ⟨month, rfl⟩ := Nat.exists_eq_add_of_le' h
  rw [daysBeforeMonth, daysBeforeMonth, Nat.add_sub_cancel, Nat.add_sub_cancel, List.take_add_one,
    List.foldl_append, List.getD_eq_getElem?_getD]
  cases (monthLengths year)[month]? <;> rfl

theorem daysBeforeMonth_le (year : Nat) {month next : Nat} (hpos : 1 ≤ month) (h : month ≤ next) :
    daysBeforeMonth year month ≤ daysBeforeMonth year next := by
  induction h with
  | refl => exact Nat.le_refl _
  | step hnext ih =>
    rw [daysBeforeMonth_succ year (Nat.le_trans hpos hnext)]
    exact Nat.le_trans ih (Nat.le_add_right _ _)

theorem daysBeforeMonth_thirteen (year : Nat) : daysBeforeMonth year 13 = yearLength year :=
  foldl_monthLengths year

/-! ### Dates -/

section Dates

variable {year month day year' month' day' : Nat}

/-- The days of a month end before the next month begins. -/
theorem IsDate.lt_daysBeforeMonth (h : IsDate year month day) :
    daysBeforeMonth year month + (day - 1) < daysBeforeMonth year (month + 1) := by
  have hlength := h.day_le
  have hpos := h.day_pos
  rw [daysBeforeMonth_succ year h.month_pos]
  omega

theorem IsDate.lt_yearLength (h : IsDate year month day) :
    daysBeforeMonth year month + (day - 1) < yearLength year := by
  rw [← daysBeforeMonth_thirteen]
  exact Nat.lt_of_lt_of_le h.lt_daysBeforeMonth
    (daysBeforeMonth_le year (Nat.le_add_left _ _) (Nat.succ_le_succ h.month_le))

/-- The days of a year end before the next year begins. -/
theorem IsDate.dayNumber_lt (h : IsDate year month day) :
    dayNumber year month day < daysThrough year := by
  obtain ⟨year, rfl⟩ := Nat.exists_eq_add_of_le' h.year_pos
  have hlength := h.lt_yearLength
  rw [dayNumber, daysThrough, Nat.add_sub_cancel]
  omega

/-- A date comes before the dates that are greater in the first part in which they differ. -/
theorem IsDate.dayNumber_lt_of_lex (h : IsDate year month day)
    (hlex : year < year' ∨ year = year' ∧ (month < month' ∨ month = month' ∧ day < day')) :
    dayNumber year month day < dayNumber year' month' day' := by
  rcases hlex with hyear | ⟨rfl, hmonth | ⟨rfl, hday⟩⟩
  · have hend := h.dayNumber_lt
    have hyears : daysThrough year ≤ daysThrough (year' - 1) := daysThrough_le (by omega)
    rw [dayNumber, dayNumber] at *
    omega
  · have hend := h.lt_daysBeforeMonth
    have hmonths := daysBeforeMonth_le year (Nat.le_add_left 1 month) hmonth
    rw [dayNumber, dayNumber]
    omega
  · have hpos := h.day_pos
    rw [dayNumber, dayNumber]
    omega

/-- **The date of a day.** Every day of the years that can be written has a date, and is the day of
that date. -/
theorem dateOf_spec {days : Nat} (h : days < daysThrough lastYear) :
    ∃ year month day, dateOf days = (year, month, day) ∧ IsDate year month day ∧
      dayNumber year month day = days := by
  obtain ⟨year, rest, hyear, hlt, hrest, hsum⟩ :=
    @yearOf_spec lastYear 0 days (by rw [Nat.zero_add]; exact (Nat.zero_add days).symm ▸ h)
  rw [← foldl_monthLengths] at hrest
  obtain ⟨i, day, hmonth, hi, hday, hdays⟩ := monthOf_spec 1 hrest
  refine ⟨year + 1, 1 + i, day + 1, ?_, ?_, ?_⟩
  · have hyear' : yearOf lastYear 1 days = (year + 1, rest) := hyear
    rw [dateOf, hyear']
    simp only [hmonth]
  · have htwelve : i < 12 := hi
    refine ⟨by omega, by omega, by omega, by omega, by omega, ?_⟩
    rw [Nat.add_sub_cancel_left]
    omega
  · rw [dayNumber, daysBeforeMonth, Nat.add_sub_cancel_left, Nat.add_sub_cancel, Nat.add_sub_cancel,
      Nat.add_assoc, hdays, hsum]
    exact Nat.zero_add days

end Dates

end Calendar

end PromptForm
