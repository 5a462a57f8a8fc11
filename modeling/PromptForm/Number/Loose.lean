import PromptForm.Number.Numeral

/-!
# Whole numbers in loose writing

A field that takes a whole number also takes a text that writes one. A text in strict form is read
as it stands. Any other text is tidied first: blanks around it, a plus, leading zeros, a fraction of
zeros and single underscores are dropped. What is left then has to be in strict form.

## Main definitions

* `Loose.strict`: a number in strict form, with an optional minus and no leading zero.
* `Loose.tidy?`: the text without what a loose writing may add.
* `Loose.read`: the number that a text denotes.
-/

namespace PromptForm

namespace Loose

open Text

inductive Failure where
  | notNumeral
  /-- The numeral begins with more digits than are read. -/
  | tooLong
  deriving DecidableEq, Repr

/-- An unsigned number in strict form. Its digits are counted before what follows them is looked
at, so that a numeral that is too long is told from other texts. -/
def strictDigits (negative : Bool) (s : List Char) : Except Failure Int :=
  match Numeral.spanDigits s with
  | ([], _) => .error .notNumeral
  | ([0], []) => .ok 0
  | (0 :: _, _) => .error .notNumeral
  | (digits, rest) =>
    if digits.length > Numeral.maxDigits then .error .tooLong
    else if rest.isEmpty then .ok (Numeral.withSign negative (ofDigits 10 digits))
    else .error .notNumeral

/-- A number in strict form: a minus or nothing, and digits without a leading zero. -/
def strict : List Char → Except Failure Int
  | '-' :: rest => strictDigits true rest
  | s => strictDigits false s

/-- What follows a leading zero, `previous` being the character before. Further zeros and
underscores are dropped; a point keeps the character before it, and the last character stays. -/
def afterZero? (previous : Char) : List Char → Option (List Char)
  | [] => some [previous]
  | c :: rest =>
    if c = '0' ∨ c = '_' then afterZero? c rest
    else if ('1' ≤ c ∧ c ≤ '9') ∨ c = '-' then some (c :: rest)
    else if c = '.' then some (previous :: c :: rest)
    else none

def dropZeros? : List Char → Option (List Char)
  | [] => none
  | c :: rest =>
    if c = '0' then afterZero? c rest
    else if ('1' ≤ c ∧ c ≤ '9') ∨ c = '-' then some (c :: rest)
    else none

/-- The text without its leading zeros, these being looked for after a minus too. -/
def dropSignedZeros? : List Char → Option (List Char)
  | '-' :: rest => (dropZeros? rest).map ('-' :: ·)
  | s => dropZeros? s

/-- The text before a fraction of zeros; any other text as it stands. -/
def dropFraction (s : List Char) : List Char :=
  match s.dropWhile (· != '.') with
  | _ :: c :: rest => if (c :: rest).all (· == '0') then s.takeWhile (· != '.') else s
  | _ => s

/-- Whether two underscores stand side by side. -/
def hasDoubleUnderscore : List Char → Bool
  | '_' :: '_' :: _ => true
  | _ :: rest => hasDoubleUnderscore rest
  | [] => false

/-- The text without its underscores, when each of them stands alone and none at an end. -/
def dropUnderscores (s : List Char) : List Char :=
  if s.head? == some '_' || s.getLast? == some '_' || hasDoubleUnderscore s then s
  else s.filter (· != '_')

/-- The text without a plus; a minus may not follow it. -/
def dropPlus? : List Char → Option (List Char)
  | '+' :: '-' :: _ => none
  | '+' :: rest => some rest
  | s => some s

/-- The text without what a loose writing may add to a numeral. -/
def tidy? (s : List Char) : Option (List Char) := do
  let s ← dropPlus? (trimWhite s)
  let s ← dropSignedZeros? s
  return dropUnderscores (dropFraction s)

def read (s : List Char) : Except Failure Int :=
  match strict s with
  | .ok n => .ok n
  | .error .tooLong => .error .tooLong
  | .error .notNumeral =>
    match tidy? s with
    | some tidied => strict tidied
    | none => .error .notNumeral

/-- A text in strict form is read as it stands. -/
theorem read_of_strict {s : List Char} {n : Int} (h : strict s = .ok n) : read s = .ok n := by
  simp [read, h]

end Loose

end PromptForm
