import PromptForm.Export.Moment
import PromptForm.Number.Numeral
import PromptForm.Text.Cut
import PromptForm.Yaml.Stop
import PromptForm.Yaml.Tag

/-!
# What plain scalars mean

A plain scalar may be a truth value, a number, a time, or nothing; otherwise it is a text. Numbers
may be written to base two, eight, ten, sixteen, or with parts of sixty, and with underscores. The
values of scalars are read more freely than their forms ask for, because a tag may ask for a value of
any scalar.

## Main definitions

* `plainTag`: the tag of a plain scalar by its form.
* `readTruth`, `readInt`, `readReal`, `readTime`: the values of scalars.
-/

namespace PromptForm

namespace Yaml

/-! ### Forms of numbers -/

def unsigned (s : List Char) : List Char :=
  (Numeral.signed s).2

/-- Whether a text is not empty and all its characters are digits to a base or underscores. -/
def isDigits (isDigit : Char → Bool) (s : List Char) : Bool :=
  !s.isEmpty && s.all fun c => isDigit c || c == '_'

/-- Whether a text begins with a digit, the others being digits or underscores. -/
def isNumeral (s : List Char) : Bool :=
  (s.headD '_').isDigit && isDigits Char.isDigit s

/-- Whether a text is a part of sixty: one or two digits, the first of two being less than six. -/
def isSixtieth : List Char → Bool
  | [a] => a.isDigit
  | [a, b] => '0' ≤ a && a ≤ '5' && b.isDigit
  | _ => false

/-- Whether a text is a whole number with parts of sixty after it. -/
def isSexagesimal (s : List Char) : Bool :=
  match Text.splitOn ':' s with
  | first :: part :: parts => isNumeral first && (part :: parts).all isSixtieth
  | _ => false

/-- Whether a character is a digit of octal numbers. -/
def isOctal (c : Char) : Bool := '0' ≤ c && c ≤ '7'

/-- Whether a text has the form of a whole number. -/
def isInt (s : List Char) : Bool :=
  match unsigned s with
  | ['0'] => true
  | '0' :: 'b' :: rest => isDigits (fun c => c == '0' || c == '1') rest
  | '0' :: 'x' :: rest => isDigits (fun c => (Text.hexDigitValue? c).isSome) rest
  | '0' :: rest => isDigits isOctal rest
  | rest => isNumeral rest || isSexagesimal rest

/-- Whether a text is empty or an exponent with its sign. -/
def isExponent : List Char → Bool
  | [] => true
  | e :: sign :: digits =>
    (e == 'e' || e == 'E') && (sign == '+' || sign == '-') && !digits.isEmpty &&
      digits.all Char.isDigit
  | _ => false

/-- Whether a text is a fraction after its point, maybe with an exponent. -/
def isFraction (s : List Char) : Bool :=
  isExponent (s.dropWhile fun c => c.isDigit || c == '_')

/-- Whether a text has the form of a binary number. -/
def isReal (s : List Char) : Bool :=
  let rest := unsigned s
  let whole := rest.takeWhile (· != '.')
  match rest.dropWhile (· != '.') with
  | '.' :: fraction =>
    [".inf", ".Inf", ".INF"].contains (String.ofList rest) ||
      [".nan", ".NaN", ".NAN"].contains (String.ofList s) ||
      (isNumeral whole && isFraction fraction) ||
      (s == rest && whole.isEmpty && (fraction.headD '_').isDigit && isFraction fraction) ||
      (isSexagesimal whole && fraction.all fun c => c.isDigit || c == '_')
  | _ => false

/-! ### Forms of times -/

/-- The parts of a time as they are written. -/
structure TimeText where
  date : List Char × List Char × List Char
  /-- The hour, the minute and the second, when there are any. -/
  clock? : Option (List Char × List Char × List Char) := none
  fraction : List Char := []
  offset? : Option Int := none

/-- The digits at the start of a text, at least `least` and at most `most`, and the rest. -/
def someDigits (least most : Nat) (s : List Char) : Option (List Char × List Char) :=
  let digits := (s.take most).takeWhile Char.isDigit
  if digits.length < least then none else some (digits, s.drop digits.length)

def after? (c : Char) : List Char → Option (List Char)
  | [] => none
  | d :: rest => if c = d then some rest else none

def decimalOf (digits : List Char) : Nat :=
  Text.ofDigits 10 (digits.filterMap Text.asciiDigitValue?)

def skipBlanks (s : List Char) : List Char :=
  s.dropWhile fun c => c == ' ' || c == '\t'

/-- The distance from UTC at the end of a time; nothing for none. -/
def zone? (s : List Char) : Option (Option Int) :=
  if s.isEmpty then some none
  else
    match skipBlanks s with
    | ['Z'] => some (some 0)
    | sign :: rest =>
      if sign = '+' ∨ sign = '-' then do
        let (hours, rest) ← someDigits 1 2 rest
        let minutes ←
          match rest with
          | [] => some []
          | _ => do
            let (minutes, rest) ← someDigits 2 2 (← after? ':' rest)
            if rest.isEmpty then some minutes else none
        let seconds : Int := decimalOf hours * 3600 + decimalOf minutes * 60
        return some (if sign = '-' then -seconds else seconds)
      else none
    | [] => none

def timeText? (s : List Char) : Option TimeText := do
  let (year, s) ← someDigits 4 4 s
  let (month, s) ← someDigits 1 2 (← after? '-' s)
  let (day, s) ← someDigits 1 2 (← after? '-' s)
  let date := (year, month, day)
  if s.isEmpty then return { date }
  let s ←
    match s with
    | 'T' :: rest | 't' :: rest => some rest
    | _ => if (skipBlanks s).length < s.length then some (skipBlanks s) else none
  let (hour, s) ← someDigits 1 2 s
  let (minute, s) ← someDigits 2 2 (← after? ':' s)
  let (second, s) ← someDigits 2 2 (← after? ':' s)
  let (fraction, s) :=
    match s with
    | '.' :: rest => (rest.takeWhile Char.isDigit, rest.dropWhile Char.isDigit)
    | _ => ([], s)
  let offset? ← zone? s
  return { date, clock? := some (hour, minute, second), fraction, offset? }

/-- Whether a text has the form of a time; a date alone has two digits for month and day. -/
def isTime (s : List Char) : Bool :=
  match timeText? s with
  | some t => t.clock?.isSome || s.length == 10
  | none => false

/-! ### Tags -/

/-- The words for truth values in lower case. -/
def truthWords : List (String × Bool) :=
  [("yes", true), ("no", false), ("true", true), ("false", false), ("on", true), ("off", false)]

/-- Whether a text is a word in lower case, in capitals, or with a capital at its start. -/
def isWordForm (word s : String) : Bool :=
  s == word || s == word.capitalize || s == word.toUpper

/-- The text before a line feed at its end, which does not count for its form. -/
def withoutLastFeed (s : List Char) : List Char :=
  if s.length > 1 && s.getLast? == some '\n' then s.dropLast else s

/-- The words by which a scalar is told, besides truth values, numbers and times. -/
def signWords : List (String × Tag) :=
  [("", .null), ("~", .null), ("<<", .merge), ("=", .value), ("!", .unknown), ("&", .unknown),
    ("*", .unknown)]

/-- The tag of a plain scalar by its form. -/
def plainTag (s : List Char) : Tag :=
  let s := withoutLastFeed s
  let text := String.ofList s
  match signWords.lookup text with
  | some tag => tag
  | none =>
    if isWordForm "null" text then .null
    else if truthWords.any fun entry => isWordForm entry.1 text then .truth
    else if isInt s then .int
    else if isReal s then .real
    else if isTime s then .time
    else .text

/-! ### Values -/

def readTruth (s : List Char) : Except NoValue Bool :=
  match truthWords.lookup (String.ofList s).toLower with
  | some b => .ok b
  | none => .error .notTruth

/-- The sign of a number to base two, eight or sixteen, after a zero. -/
def baseSign? : Nat → Option Char
  | 2 => some 'b'
  | 8 => some 'o'
  | 16 => some 'x'
  | _ => none

/-- A numeral without the zero and the sign of its base in front. -/
def withoutBaseSign (base : Nat) : List Char → List Char
  | '0' :: c :: rest => if baseSign? base = some c.toLower then rest else '0' :: c :: rest
  | s => s

/-- The value of a digit to a base: a decimal digit of any script, or a hexadecimal one. -/
def baseDigit? (base : Nat) (c : Char) : Option Nat :=
  match Text.digitValue? c, Text.hexDigitValue? c with
  | some n, _ | none, some n => if n < base then some n else none
  | none, none => none

/-- The number that a text writes to base two, eight or sixteen, with white space around it and a
sign. -/
def inBase (base : Nat) (s : List Char) : Except NoValue Int :=
  let (negative, rest) := Numeral.signed (Text.trimWhite s)
  match (withoutBaseSign base rest).mapM (baseDigit? base) with
  | none | some [] => .error .notNumber
  | some digits => .ok (Numeral.withSign negative (Text.ofDigits base digits))

def inSixties (parts : List (List Char)) : Except NoValue Int :=
  match parts.mapM Numeral.readInt? with
  | some values => .ok (values.foldl (fun n value => n * 60 + value) 0)
  | none => .error .notNumber

def readInt (s : List Char) : Except NoValue Int := do
  let (negative, rest) := Numeral.signed (s.filter (· != '_'))
  let n ←
    match rest with
    | [] => .error .emptyNumber
    | ['0'] => .ok 0
    | '0' :: 'b' :: digits => inBase 2 digits
    | '0' :: 'x' :: digits => inBase 16 digits
    | '0' :: _ => inBase 8 rest
    | _ =>
      if rest.contains ':' then inSixties (Text.splitOn ':' rest)
      else
        match Numeral.readInt? rest with
        | some n => .ok n
        | none => .error .notNumber
  return if negative then -n else n

/-- The binary number of parts of sixty, the last one first; `unit` is what the next part counts,
which must not be beyond the binary numbers. -/
def sixtiesFrom : Nat → Binary64 → List Binary64 → Except NoValue Binary64
  | _, sum, [] => .ok sum
  | unit, sum, part :: parts =>
    match Binary64.ofInt unit with
    | .finite negative mantissa exponent =>
      let weight := Binary64.finite negative mantissa exponent
      sixtiesFrom (unit * 60) (Binary64.add sum (Binary64.mul part weight)) parts
    | _ => .error .vastNumber

/-- The text of a binary number without underscores and capitals: its sign, and the rest. -/
def realText (s : List Char) : Bool × List Char :=
  Numeral.signed ((s.filter (· != '_')).map Char.toLower)

/-- Whether a scalar is the word for what is not a number. -/
def isNotNumberWord (s : List Char) : Bool :=
  (realText s).2 == ".nan".toList

def readReal (s : List Char) : Except NoValue Binary64 :=
  let (negative, rest) := realText s
  let signed (x : Binary64) : Binary64 := if negative then x.neg else x
  if s.all (· == '_') then .error .emptyNumber
  else if rest = ".inf".toList then .ok (.infinite negative)
  else if isNotNumberWord s then .ok .notNumber
  else if rest.contains ':' then
    match (Text.splitOn ':' rest).mapM Numeral.readBinary? with
    | some parts => (sixtiesFrom 1 (Binary64.zeroOf false) parts.reverse).map signed
    | none => .error .notNumber
  else
    match Numeral.readBinary? rest with
    | some x => .ok (signed x)
    | none => .error .notNumber

/-- The microseconds of a fraction of a second, of which six digits count. -/
def fractionMicros (digits : List Char) : Nat :=
  decimalOf ((digits ++ "000000".toList).take 6)

/-- The time of a scalar, and whether it is a date alone. -/
def readTime (s : List Char) : Except NoValue (Moment × Bool) :=
  match timeText? (withoutLastFeed s) with
  | none => .error .notTime
  | some t =>
    let (year, month, day) := t.date
    let (hour, minute, second) := t.clock?.getD ([], [], [])
    match Moment.make (decimalOf year) (decimalOf month) (decimalOf day) (decimalOf hour)
        (decimalOf minute) (decimalOf second) (fractionMicros t.fraction) t.offset? with
    | .ok m => .ok (m, t.clock?.isNone)
    | .error _ => .error .impossibleTime

end Yaml

end PromptForm
