import Mathlib.Data.String.Basic
import PromptForm.Proofs.Export.Calendar
import PromptForm.Proofs.Number.Decimal

/-!
# Stamps

The text of a moment can be read: it tells a date and a time of day in UTC, whose instant is that of
the moment without the fraction of its last millisecond. Each part of the text has its own width, and
so stamps are ordered as texts in the order of their instants.

## Main definitions

* `Moment.IsUtc`, `Moment.HasUtc`: the moments in UTC of the years that can be written, and the
  moments whose instant has one.
* `Moment.ofStamp?`: the moment in UTC that a text tells.

## Main results

* `Moment.stamp_denotes`: what the text of a moment tells, and when there is none.
-/

namespace PromptForm

namespace Moment

open Calendar

/-- A moment in UTC, in the years that can be written. -/
structure IsUtc (u : Moment) : Prop where
  date : IsDate u.year u.month u.day
  hour : u.hour < 24
  minute : u.minute < 60
  second : u.second < 60
  microsecond : u.microsecond < 1000000
  offset : u.offset? = some 0

/-- There is a moment in UTC of the same instant in the years that can be written. -/
def HasUtc (m : Moment) : Prop :=
  ∃ u : Moment, u.IsUtc ∧ u.instant = m.instant

/-! ### Reading a stamp -/

/-- The number that is written with a given number of digits at the start of a text, and the rest. -/
def number? (width : Nat) (s : List Char) : Option (Nat × List Char) := do
  let digits ← (s.take width).mapM Text.asciiDigitValue?
  if digits.length = width then return (Text.ofDigits 10 digits, s.drop width) else none

/-- The moment in UTC that a text of the form `YYYY-MM-DDTHH:MM:SS.mmmZ` tells, unless it is none. -/
def ofStamp? (s : String) : Option Moment := do
  let (year, s) ← number? 4 s.toList
  let (month, s) ← number? 2 (← Text.afterPrefix? ['-'] s)
  let (day, s) ← number? 2 (← Text.afterPrefix? ['-'] s)
  let (hour, s) ← number? 2 (← Text.afterPrefix? ['T'] s)
  let (minute, s) ← number? 2 (← Text.afterPrefix? [':'] s)
  let (second, s) ← number? 2 (← Text.afterPrefix? [':'] s)
  let (millisecond, s) ← number? 3 (← Text.afterPrefix? ['.'] s)
  let u : Moment :=
    { year, month, day, hour, minute, second, microsecond := millisecond * 1000, offset? := some 0 }
  if s = ['Z'] ∧ u.isPossible then return u else none

/-! ### Moments in UTC -/

theorem isPossible_iff_of_offset {u : Moment} (h : u.offset? = some 0) :
    u.isPossible = true ↔ u.IsUtc := by
  rw [isPossible, h]
  simp only [Bool.and_eq_true, decide_eq_true_eq]
  constructor
  · rintro ⟨⟨⟨⟨⟨⟨⟨⟨⟨⟨h₁, h₂⟩, h₃⟩, h₄⟩, h₅⟩, h₆⟩, h₇⟩, h₈⟩, h₉⟩, h₁₀⟩, -⟩
    exact ⟨⟨h₁, h₂, h₃, h₄, h₅, h₆⟩, h₇, h₈, h₉, h₁₀, h⟩
  · rintro ⟨⟨h₁, h₂, h₃, h₄, h₅, h₆⟩, h₇, h₈, h₉, h₁₀, -⟩
    exact ⟨⟨⟨⟨⟨⟨⟨⟨⟨⟨h₁, h₂⟩, h₃⟩, h₄⟩, h₅⟩, h₆⟩, h₇⟩, h₈⟩, h₉⟩, h₁₀⟩, by decide⟩

/-- The milliseconds of the time of day. -/
def clock (u : Moment) : Nat :=
  ((u.hour * 60 + u.minute) * 60 + u.second) * 1000 + u.microsecond / 1000

/-- The milliseconds since the beginning of the year 1. -/
def millis (u : Moment) : Nat :=
  dayNumber u.year u.month u.day * 86400000 + u.clock

/-- The moment without the fraction of its last millisecond. -/
def floor (u : Moment) : Moment :=
  { u with microsecond := u.microsecond / 1000 * 1000 }

namespace IsUtc

variable {u v : Moment}

theorem clock_lt (h : u.IsUtc) : u.clock < 86400000 := by
  have hhour := h.hour
  have hminute := h.minute
  have hsecond := h.second
  have hmicrosecond := h.microsecond
  rw [clock]
  omega

theorem instant_eq (h : u.IsUtc) : u.instant = (u.millis * 1000 + u.microsecond % 1000 : Nat) := by
  rw [instant, h.offset, millis, clock, microsOfDay, dayMicros]
  simp only [Option.getD_some, Int.zero_mul, Int.sub_zero]
  omega

theorem millis_eq (h : u.IsUtc) : (u.millis : Int) = u.instant / 1000 := by
  rw [h.instant_eq]
  omega

theorem floor (h : u.IsUtc) : u.floor.IsUtc :=
  ⟨h.date, h.hour, h.minute, h.second,
    Nat.lt_of_le_of_lt (Nat.div_mul_le_self _ _) h.microsecond, h.offset⟩

/-- Without the fraction of the last millisecond, the instant is rounded down to the millisecond. -/
theorem instant_floor (h : u.IsUtc) : u.floor.instant = u.instant / 1000 * 1000 := by
  have hmillis : u.floor.millis = u.millis := by
    simp only [Moment.floor, millis, clock]
    omega
  have hfraction : u.floor.microsecond % 1000 = 0 := Nat.mul_mod_left _ _
  rw [h.floor.instant_eq, h.instant_eq, hmillis, hfraction]
  omega

/-- A moment in UTC is in the years that can be written. -/
theorem instant_lt (h : u.IsUtc) : 0 ≤ u.instant ∧ u.instant < endOfTime := by
  have hday : dayNumber u.year u.month u.day < daysThrough lastYear :=
    Nat.lt_of_lt_of_le h.date.dayNumber_lt (daysThrough_le h.date.year_le)
  have hclock := h.clock_lt
  rw [h.instant_eq, millis, endOfTime, dayMicros]
  omega

end IsUtc

/-- The moment in UTC of an instant. -/
theorem ofInstant_spec {n : Nat} (h : n < endOfTime) :
    (ofInstant n).IsUtc ∧ (ofInstant n).instant = n := by
  have hdays : n / dayMicros < daysThrough lastYear := by
    rw [endOfTime, Nat.mul_comm] at h
    exact Nat.div_lt_of_lt_mul h
  obtain ⟨year, month, day, hdate, hisDate, hnumber⟩ := dateOf_spec hdays
  have hutc : (ofInstant n).IsUtc := by
    rw [ofInstant, hdate]
    have hrest : n % dayMicros < 86400000000 := Nat.mod_lt _ (by decide)
    exact ⟨hisDate, by simp only; omega, by simp only; omega, by simp only; omega,
      by simp only; omega, rfl⟩
  refine ⟨hutc, ?_⟩
  rw [instant, hutc.offset, microsOfDay, ofInstant, hdate]
  simp only [Option.getD_some, Int.zero_mul, Int.sub_zero, hnumber, dayMicros]
  omega

/-- The moments with a moment in UTC are those whose instant lies within the years. -/
theorem hasUtc_iff {m : Moment} : m.HasUtc ↔ 0 ≤ m.instant ∧ m.instant < endOfTime := by
  constructor
  · rintro ⟨u, hu, hinstant⟩
    rw [← hinstant]
    exact hu.instant_lt
  · intro h
    obtain ⟨hutc, hinstant⟩ := ofInstant_spec (n := m.instant.toNat) (by omega)
    exact ⟨_, hutc, hinstant.trans (Int.toNat_of_nonneg h.1)⟩

theorem exists_toUtc {m : Moment} (h : m.HasUtc) :
    ∃ u, m.toUtc = .ok u ∧ u.IsUtc ∧ u.instant = m.instant := by
  have hrange := hasUtc_iff.1 h
  obtain ⟨hutc, hinstant⟩ := ofInstant_spec (n := m.instant.toNat) (by omega)
  exact ⟨_, if_pos hrange, hutc, hinstant.trans (Int.toNat_of_nonneg hrange.1)⟩

theorem toUtc_of_not_hasUtc {m : Moment} (h : ¬m.HasUtc) : m.toUtc = .error .timeOutOfRange :=
  if_neg fun hrange => h (hasUtc_iff.2 hrange)

/-! ### Numbers of a given width -/

theorem padded_succ (width n : Nat) :
    padded (width + 1) n = padded width (n / 10) ++ [Nat.digitChar (n % 10)] := by
  rw [padded, lastDigits, List.reverse_cons]
  rfl

@[simp] theorem length_padded (width n : Nat) : (padded width n).length = width := by
  induction width generalizing n with
  | zero => rfl
  | succ width ih => rw [padded_succ, List.length_append, ih, List.length_singleton]

theorem asciiDigitValue?_digitChar {n : Nat} (h : n < 10) :
    Text.asciiDigitValue? (Nat.digitChar n) = some n := by
  revert n
  decide

theorem digitChar_lt {n k : Nat} (hk : k < 10) (h : n < k) : Nat.digitChar n < Nat.digitChar k := by
  have hall : ∀ k < 10, ∀ n < k, Nat.digitChar n < Nat.digitChar k := by decide
  exact hall k hk n h

/-- Of two texts of one length, what follows them does not change their order. -/
theorem append_lt_append {s t : List Char} (h : s < t) (hlength : s.length = t.length)
    (u v : List Char) : s ++ u < t ++ v := by
  induction h with
  | nil => cases hlength
  | cons _ ih => exact .cons (ih (Nat.succ.inj hlength))
  | rel hlt => exact .rel hlt

theorem div_ten_lt {width n : Nat} (h : n < Nat.pow 10 (width + 1)) : n / 10 < Nat.pow 10 width :=
  Nat.div_lt_of_lt_mul (Nat.mul_comm _ _ ▸ h)

/-- A number that has its width is read from its digits. -/
theorem mapM_padded {width n : Nat} (h : n < Nat.pow 10 width) :
    ∃ digits, (padded width n).mapM Text.asciiDigitValue? = some digits ∧
      digits.length = width ∧ Text.ofDigits 10 digits = n := by
  induction width generalizing n with
  | zero =>
    obtain rfl : n = 0 := Nat.lt_one_iff.1 h
    exact ⟨[], rfl, rfl, rfl⟩
  | succ width ih =>
    obtain ⟨digits, hdigits, hlength, hvalue⟩ := ih (div_ten_lt h)
    refine ⟨digits ++ [n % 10], ?_, ?_, ?_⟩
    · rw [padded_succ, List.mapM_append, hdigits]
      simp [asciiDigitValue?_digitChar (Nat.mod_lt n (by decide))]
    · rw [List.length_append, hlength, List.length_singleton]
    · rw [Text.ofDigits_append_singleton, hvalue]
      omega

theorem number?_padded {width n : Nat} (h : n < Nat.pow 10 width) (rest : List Char) :
    number? width (padded width n ++ rest) = some (n, rest) := by
  obtain ⟨digits, hdigits, hlength, hvalue⟩ := mapM_padded h
  have htake : (padded width n ++ rest).take width = padded width n :=
    List.take_left' (length_padded width n)
  have hdrop : (padded width n ++ rest).drop width = rest :=
    List.drop_left' (length_padded width n)
  rw [number?, htake, hdrop, hdigits]
  simp [hlength, hvalue]

/-- Numbers of one width are ordered as their texts. -/
theorem padded_lt {width n k : Nat} (hk : k < Nat.pow 10 width) (h : n < k) :
    padded width n < padded width k := by
  induction width generalizing n k with
  | zero =>
    have hone : k < 1 := hk
    omega
  | succ width ih =>
    rw [padded_succ, padded_succ]
    by_cases hten : n / 10 = k / 10
    · -- only the last digits differ
      have hlast : n % 10 < k % 10 := by omega
      rw [hten]
      exact List.Lex.append_left _ (.rel (digitChar_lt (Nat.mod_lt k (by decide)) hlast)) _
    · exact append_lt_append (ih (div_ten_lt hk) (by omega)) (by simp) _ _

/-! ### The order of stamps -/

/-- Numbers in fields of given widths, each with a character after it. -/
def written : List (Nat × Char) → List Nat → List Char
  | (width, mark) :: fields, n :: ns => padded width n ++ mark :: written fields ns
  | _, _ => []

/-- The fields of a stamp, from the year to the milliseconds. -/
def fields : List (Nat × Char) :=
  [(4, '-'), (2, '-'), (2, 'T'), (2, ':'), (2, ':'), (2, '.'), (3, 'Z')]

/-- The numbers of a stamp. -/
def parts (u : Moment) : List Nat :=
  [u.year, u.month, u.day, u.hour, u.minute, u.second, u.microsecond / 1000]

/-- The numbers have the widths of the fields. -/
def Fit (fields : List (Nat × Char)) (ns : List Nat) : Prop :=
  List.Forall₂ (fun field n => n < Nat.pow 10 field.1) fields ns

theorem stampChars_eq (u : Moment) : u.stampChars = written fields u.parts := by
  simp [stampChars, written, fields, parts]

/-- Fields are ordered as their numbers are, the first of them first. -/
theorem written_lt {fields : List (Nat × Char)} {ns ks : List Nat} (hns : Fit fields ns)
    (hks : Fit fields ks) (h : ns < ks) : written fields ns < written fields ks := by
  induction hns generalizing ks with
  | nil =>
    cases hks
    exact absurd h (lt_irrefl _)
  | @cons field n fields ns hn hrest ih =>
    cases hks with
    | @cons _ k _ ks hk hrest' =>
      rw [written, written]
      rcases List.cons_lt_cons_iff.1 h with hlt | ⟨rfl, hlt⟩
      · exact append_lt_append (padded_lt hk hlt) (by simp) _ _
      · exact List.Lex.append_left _ (.cons (ih hrest' hlt)) _

namespace IsUtc

variable {u v : Moment}

theorem fit (h : u.IsUtc) : Fit fields u.parts := by
  have hyear : u.year ≤ 9999 := h.date.year_le
  have hmonth := h.date.month_le
  have hday := Nat.le_trans h.date.day_le (monthLengths_le u.year (u.month - 1))
  have hhour := h.hour
  have hminute := h.minute
  have hsecond := h.second
  have hmicrosecond := h.microsecond
  have htwo : Nat.pow 10 2 = 100 := rfl
  have hthree : Nat.pow 10 3 = 1000 := rfl
  have hfour : Nat.pow 10 4 = 10000 := rfl
  refine .cons ?_ (.cons ?_ (.cons ?_ (.cons ?_ (.cons ?_ (.cons ?_ (.cons ?_ .nil))))))
  all_goals
    simp only
    omega

/-- Moments in UTC are ordered as their numbers are. -/
theorem millis_lt (hu : u.IsUtc) (h : u.parts < v.parts) : u.millis < v.millis := by
  simp only [parts, List.cons_lt_cons_iff, List.not_lt_nil, and_false, or_false] at h
  have hlater : dayNumber u.year u.month u.day < dayNumber v.year v.month v.day ∨
      dayNumber u.year u.month u.day = dayNumber v.year v.month v.day ∧ u.clock < v.clock := by
    rcases h with hyear | ⟨hyear, hmonth | ⟨hmonth, hday | ⟨hday, htime⟩⟩⟩
    · exact .inl (hu.date.dayNumber_lt_of_lex (.inl hyear))
    · exact .inl (hu.date.dayNumber_lt_of_lex (.inr ⟨hyear, .inl hmonth⟩))
    · exact .inl (hu.date.dayNumber_lt_of_lex (.inr ⟨hyear, .inr ⟨hmonth, hday⟩⟩))
    · -- on the same day the clock decides
      refine .inr ⟨by rw [hyear, hmonth, hday], ?_⟩
      have hminute := hu.minute
      have hsecond := hu.second
      have hmicrosecond := hu.microsecond
      rw [clock, clock]
      omega
  have hclock := hu.clock_lt
  rw [millis, millis]
  omega

theorem stampChars_lt (hu : u.IsUtc) (hv : v.IsUtc) (h : u.parts < v.parts) :
    u.stampChars < v.stampChars := by
  rw [stampChars_eq, stampChars_eq]
  exact written_lt hu.fit hv.fit h

/-- Stamps are ordered as the milliseconds of their moments. -/
theorem stampChars_le_iff (hu : u.IsUtc) (hv : v.IsUtc) :
    u.stampChars ≤ v.stampChars ↔ u.millis ≤ v.millis := by
  rcases lt_trichotomy u.parts v.parts with h | h | h
  · exact iff_of_true (le_of_lt (hu.stampChars_lt hv h)) (le_of_lt (hu.millis_lt h))
  · have hmillis : u.millis = v.millis := by
      simp only [parts, List.cons.injEq, and_true] at h
      obtain ⟨hyear, hmonth, hday, hhour, hminute, hsecond, hmillisecond⟩ := h
      rw [millis, millis, clock, clock, hyear, hmonth, hday, hhour, hminute, hsecond, hmillisecond]
    rw [stampChars_eq, stampChars_eq, h, hmillis]
    exact iff_of_true le_rfl le_rfl
  · exact iff_of_false (not_le_of_gt (hv.stampChars_lt hu h)) (not_le_of_gt (hv.millis_lt h))

/-- A stamp tells its moment, without the fraction of the last millisecond. -/
theorem ofStamp?_stampChars (h : u.IsUtc) :
    ofStamp? (String.ofList u.stampChars) = some u.floor := by
  have hfit := h.fit
  simp only [Fit, fields, parts, List.forall₂_cons, List.Forall₂.nil, and_true] at hfit
  obtain ⟨hyear, hmonth, hday, hhour, hminute, hsecond, hmillisecond⟩ := hfit
  have hmark : ∀ (c : Char) (s : List Char), Text.afterPrefix? [c] (c :: s) = some s := fun c s =>
    Text.afterPrefix?_eq_some_iff.2 rfl
  have hpossible := (isPossible_iff_of_offset h.floor.offset).2 h.floor
  -- every number is read in its width, and then the character after it
  rw [ofStamp?, String.toList_ofList, stampChars_eq]
  simp only [written, fields, parts, number?_padded hyear, number?_padded hmonth,
    number?_padded hday, number?_padded hhour, number?_padded hminute, number?_padded hsecond,
    number?_padded hmillisecond, hmark, bind, Option.bind_some]
  rw [← h.offset]
  exact if_pos ⟨trivial, hpossible⟩

end IsUtc

theorem stamp_eq_ok_iff {m : Moment} {s : String} :
    m.stamp = .ok s ↔ ∃ u, m.toUtc = .ok u ∧ s = String.ofList u.stampChars := by
  rw [stamp]
  cases m.toUtc with
  | error e => simp [bind, Except.bind]
  | ok u => simp [bind, Except.bind, pure, Except.pure, eq_comm]

theorem stamp_eq_ok {m u : Moment} (h : m.toUtc = .ok u) :
    m.stamp = .ok (String.ofList u.stampChars) :=
  stamp_eq_ok_iff.2 ⟨u, h, rfl⟩

/-- **What the stamp of a moment tells.** A moment has a stamp exactly when its instant lies in the years
that can be written in UTC. The stamp has 24 characters, and tells a moment in UTC whose instant is that
of the moment, rounded down to the millisecond. It depends on the instant only, and two stamps are
ordered as texts as the milliseconds of their instants are. -/
theorem stamp_denotes (m : Moment) :
    (m.HasUtc → ∃ s u, m.stamp = .ok s ∧ s.length = 24 ∧ ofStamp? s = some u ∧ u.IsUtc ∧
        u.instant = m.instant / 1000 * 1000) ∧
      (¬m.HasUtc → m.stamp = .error .timeOutOfRange) ∧
      ∀ n : Moment, (n.instant = m.instant → n.stamp = m.stamp) ∧
        (m.HasUtc → n.HasUtc → ∃ s t, m.stamp = .ok s ∧ n.stamp = .ok t ∧
          (s ≤ t ↔ m.instant / 1000 ≤ n.instant / 1000)) := by
  refine ⟨fun h => ?_, fun h => ?_, fun n => ⟨fun h => ?_, fun hm hn => ?_⟩⟩
  · obtain ⟨u, hu, hutc, hinstant⟩ := exists_toUtc h
    refine ⟨_, u.floor, stamp_eq_ok hu, ?_, hutc.ofStamp?_stampChars, hutc.floor, ?_⟩
    · rw [String.length_ofList, stampChars_eq]
      simp [written, fields, parts]
    · rw [hutc.instant_floor, hinstant]
  · rw [stamp, toUtc_of_not_hasUtc h]
    rfl
  · rw [stamp, stamp, toUtc, toUtc, h]
  · obtain ⟨u, hu, hutc, hinstant⟩ := exists_toUtc hm
    obtain ⟨v, hv, hutc', hinstant'⟩ := exists_toUtc hn
    refine ⟨_, _, stamp_eq_ok hu, stamp_eq_ok hv, ?_⟩
    rw [String.le_iff_toList_le, String.toList_ofList, String.toList_ofList,
      hutc.stampChars_le_iff hutc', ← hinstant, ← hinstant', ← hutc.millis_eq, ← hutc'.millis_eq,
      Int.ofNat_le]

/-- Texts of the form of a stamp that tell no date have no moment. -/
example : ofStamp? "2025-02-29T00:45:00.999Z" = none := by decide +kernel

end Moment

end PromptForm
