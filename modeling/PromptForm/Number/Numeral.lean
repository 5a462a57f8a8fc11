import PromptForm.Number.Binary64
import PromptForm.Text.Blank
import PromptForm.Text.Digit

/-!
# Reading numbers

Whole numbers and binary numbers as people type them: white space around, a sign, digits of any script,
single underscores between digits. A whole number of more than 4300 digits is refused, leading zeros
included.

## Main definitions

* `Numeral.readInt?`: a whole number.
* `Numeral.readBinary?`: a binary number, with point, exponent, `inf` and `nan`.
-/

namespace PromptForm

namespace Numeral

open Text

/-- The greatest number of digits of a whole number that is read. -/
def maxDigits : Nat := 4300

def signed : List Char → Bool × List Char
  | '-' :: rest => (true, rest)
  | '+' :: rest => (false, rest)
  | s => (false, s)

/-- The values of digits with single underscores between them; `afterDigit` tells whether a digit
stands before, so that an underscore may follow. -/
def digitRun? : Bool → List Char → Option (List Nat)
  | _, [] => some []
  | afterDigit, '_' :: c :: rest =>
    if afterDigit then
      match digitValue? c with
      | some value => (digitRun? true rest).map (value :: ·)
      | none => none
    else none
  | _, c :: rest =>
    match digitValue? c with
    | some value => (digitRun? true rest).map (value :: ·)
    | none => none

/-- The digits of an unsigned numeral: at least one, and no underscore at an end. -/
def digits? (s : List Char) : Option (List Nat) :=
  match digitRun? false s with
  | some [] => none
  | other => other

def withSign (negative : Bool) (n : Nat) : Int :=
  if negative then -(n : Int) else n

/-- The whole number that a text denotes, white space around it aside. -/
def readInt? (s : List Char) : Option Int :=
  let (negative, rest) := signed (trimWhite s)
  match digits? rest with
  | some digits =>
    if digits.length ≤ maxDigits then some (withSign negative (ofDigits 10 digits)) else none
  | none => none

/-- The text with the digits of all scripts as ASCII digits and with its underscores dropped, when
each of these stands between two digits. -/
def plain? : Bool → List Char → Option (List Char)
  | _, [] => some []
  | afterDigit, '_' :: rest =>
    match rest with
    | c :: _ =>
      if afterDigit && (digitValue? c).isSome then plain? false rest else none
    | [] => none
  | _, c :: rest =>
    match digitValue? c with
    | some value => (plain? true rest).map (Nat.digitChar value :: ·)
    | none => (plain? false rest).map (c :: ·)

/-- The ASCII digits at the start of a text, and the rest. -/
def spanDigits (s : List Char) : List Nat × List Char :=
  ((s.takeWhile Char.isDigit).filterMap asciiDigitValue?, s.dropWhile Char.isDigit)

/-- An exponent part, zero when there is none; nothing may follow it. -/
def exponent? : List Char → Option Int
  | [] => some 0
  | c :: rest =>
    if c = 'e' ∨ c = 'E' then
      let (negative, rest) := signed rest
      match spanDigits rest with
      | ([], _) => none
      | (digits, []) => some (withSign negative (ofDigits 10 digits))
      | _ => none
    else none

/-- The number nearest to `± digits * 10 ^ exponent`. Exponents beyond the range of the format are
not multiplied out. -/
def ofDecimal (negative : Bool) (digits : List Nat) (exponent : Int) : Binary64 :=
  let digits := digits.dropWhile (· = 0)
  let magnitude := exponent + digits.length
  let value := ofDigits 10 digits
  if value = 0 then Binary64.zeroOf negative
  else if magnitude > 400 then .infinite negative
  else if magnitude < -400 then Binary64.zeroOf negative
  else Binary64.ofRatio negative (value * Nat.pow 10 exponent.toNat) (Nat.pow 10 (-exponent).toNat)

/-- An unsigned decimal: digits with a point somewhere, and an exponent. -/
def decimal? (negative : Bool) (s : List Char) : Option Binary64 :=
  let (whole, rest) := spanDigits s
  let (fraction, rest) :=
    match rest with
    | '.' :: rest => spanDigits rest
    | _ => ([], rest)
  if whole.isEmpty && fraction.isEmpty then none
  else (exponent? rest).map fun e => ofDecimal negative (whole ++ fraction) (e - fraction.length)

/-- The binary number that a text denotes, white space around it aside. -/
def readBinary? (s : List Char) : Option Binary64 := do
  let (negative, rest) := signed (← plain? false (trimWhite s))
  match String.ofList (rest.map Char.toLower) with
  | "inf" | "infinity" => some (.infinite negative)
  | "nan" => some .notNumber
  | _ => decimal? negative rest

end Numeral

end PromptForm
