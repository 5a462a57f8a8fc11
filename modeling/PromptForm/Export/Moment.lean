import PromptForm.Fault
import PromptForm.Number.Binary64

/-!
# Moments

A moment is a date and a time of day, with a distance from UTC or without one; without one it is
taken to be in UTC. Its instant is the number of microseconds since the beginning of the year 1.

## Main definitions

* `Moment`: the moments; `Moment.make` checks their parts.
* `Moment.instant`, `Moment.ofInstant`: the instant of a moment, and the moment in UTC of an instant.
* `Moment.stamp`: the text of a moment in UTC, to the millisecond.
* `Moment.epochMillis`: the milliseconds since 1970 that a file name is made of.

## Design notes

Days are counted out by taking off one year after the other and then one month after the other, so
that the calendar is nothing but the lengths of its years and months.
-/

namespace PromptForm

/-! ### The calendar -/

namespace Calendar

def isLeap (year : Nat) : Bool :=
  year % 4 == 0 && (year % 100 != 0 || year % 400 == 0)

def monthLengths (year : Nat) : List Nat :=
  [31, if isLeap year then 29 else 28, 31, 30, 31, 30, 31, 31, 30, 31, 30, 31]

def yearLength (year : Nat) : Nat :=
  if isLeap year then 366 else 365

/-- The number of days in the years from 1 to a year. -/
def daysThrough : Nat → Nat
  | 0 => 0
  | year + 1 => daysThrough year + yearLength (year + 1)

/-- The number of days before a month of a year; the months are numbered from 1. -/
def daysBeforeMonth (year month : Nat) : Nat :=
  ((monthLengths year).take (month - 1)).foldl (· + ·) 0

/-- The number of days from the beginning of the year 1 to a date. -/
def dayNumber (year month day : Nat) : Nat :=
  daysThrough (year - 1) + daysBeforeMonth year month + (day - 1)

/-- Counts days out in years from `year` on, `fuel` years at most: the year that is reached, and the
days into it. -/
def yearOf : Nat → Nat → Nat → Nat × Nat
  | 0, year, days => (year, days)
  | fuel + 1, year, days =>
    if days < yearLength year then (year, days)
    else yearOf fuel (year + 1) (days - yearLength year)

/-- Counts days out in months from `month` on: the month that is reached, and the days into it. -/
def monthOf : List Nat → Nat → Nat → Nat × Nat
  | [], month, days => (month, days)
  | length :: lengths, month, days =>
    if days < length then (month, days) else monthOf lengths (month + 1) (days - length)

def lastYear : Nat := 9999

/-- The date of a day by its number: year, month and day. -/
def dateOf (days : Nat) : Nat × Nat × Nat :=
  let (year, rest) := yearOf lastYear 1 days
  let (month, rest) := monthOf (monthLengths year) 1 rest
  (year, month, rest + 1)

/-- The number of days from the beginning of the year 1 to the beginning of 1970. -/
def epochDay : Nat := 719162

end Calendar

/-! ### Moments -/

/-- A date and a time of day, with the seconds by which it is ahead of UTC when these are known. -/
structure Moment where
  year : Nat
  month : Nat
  day : Nat
  hour : Nat
  minute : Nat
  second : Nat
  microsecond : Nat
  offset? : Option Int := none
  deriving DecidableEq, Repr

namespace Moment

open Calendar

def daySeconds : Nat := 86400

/-- Whether the parts of a moment are possible. -/
def isPossible (m : Moment) : Bool :=
  1 ≤ m.year && m.year ≤ lastYear && 1 ≤ m.month && m.month ≤ 12 && 1 ≤ m.day &&
    m.day ≤ (monthLengths m.year).getD (m.month - 1) 0 && m.hour < 24 && m.minute < 60 &&
    m.second < 60 && m.microsecond < 1000000 &&
    (m.offset?.getD 0).natAbs < daySeconds

/-- The moment of parts that are possible. -/
def make (year month day hour minute second microsecond : Int) (offset? : Option Int) :
    Except Fault Moment :=
  let m : Moment :=
    ⟨year.toNat, month.toNat, day.toNat, hour.toNat, minute.toNat, second.toNat,
      microsecond.toNat, offset?⟩
  if [hour, minute, second, microsecond].all (0 ≤ ·) && m.isPossible then .ok m
  else .error .impossibleTime

def dayMicros : Nat := 86400000000

def microsOfDay (m : Moment) : Nat :=
  ((m.hour * 60 + m.minute) * 60 + m.second) * 1000000 + m.microsecond

/-- The microseconds since the beginning of the year 1 in UTC. -/
def instant (m : Moment) : Int :=
  (dayNumber m.year m.month m.day * dayMicros + m.microsOfDay : Nat) -
    m.offset?.getD 0 * 1000000

/-- The instants within the years that can be written end before this one. -/
def endOfTime : Nat := daysThrough lastYear * dayMicros

def ofInstant (micros : Nat) : Moment :=
  let (year, month, day) := dateOf (micros / dayMicros)
  let rest := micros % dayMicros
  { year, month, day
    hour := rest / 3600000000
    minute := rest / 60000000 % 60
    second := rest / 1000000 % 60
    microsecond := rest % 1000000
    offset? := some 0 }

/-- The moment in UTC, unless it is outside the years that can be written. -/
def toUtc (m : Moment) : Except Fault Moment :=
  if 0 ≤ m.instant ∧ m.instant < endOfTime then .ok (ofInstant m.instant.toNat)
  else .error .timeOutOfRange

/-- The last digits of a number, `width` of them, the least significant first. -/
def lastDigits : Nat → Nat → List Char
  | 0, _ => []
  | width + 1, n => Nat.digitChar (n % 10) :: lastDigits width (n / 10)

def padded (width n : Nat) : List Char :=
  (lastDigits width n).reverse

/-- The characters of a moment, its distance from UTC aside. -/
def stampChars (m : Moment) : List Char :=
  padded 4 m.year ++ '-' :: padded 2 m.month ++ '-' :: padded 2 m.day ++ 'T' ::
    padded 2 m.hour ++ ':' :: padded 2 m.minute ++ ':' :: padded 2 m.second ++ '.' ::
    padded 3 (m.microsecond / 1000) ++ ['Z']

/-- The text of a moment in UTC, to the millisecond. -/
def stamp (m : Moment) : Except Fault String := do
  return String.ofList (← m.toUtc).stampChars

def epochMicros (m : Moment) : Int :=
  m.instant - (epochDay * dayMicros : Nat)

/-- The seconds since 1970 as a binary number. -/
def epochSeconds (m : Moment) : Binary64 :=
  Binary64.ofIntRatio m.epochMicros 1000000

/-- The milliseconds since 1970: a thousand times the seconds, both as binary numbers, without the
fraction. -/
def epochMillis (m : Moment) : Int :=
  ((Binary64.mul m.epochSeconds (Binary64.ofInt 1000)).truncate?).getD 0

end Moment

end PromptForm
