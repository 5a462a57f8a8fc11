import PromptForm.Json.Write
import PromptForm.Number.Numeral
import PromptForm.Text.Cut

/-!
# Reading JSON

The reader follows the grammar of JSON, with the words `NaN`, `Infinity` and `-Infinity` besides.
Blanks are space, tab, carriage return and line feed; control characters inside a text must be
escaped. A whole number may have 4300 digits at most, and the nesting is limited too.

## Main definitions

* `Stop`: why a text has no tree.
* `value`, `items`, `entries`: the parts of the grammar.
* `read`: the tree of a text.

## Design notes

Every function returns the rest of the text. The functions of the grammar take fuel, twice the
length of the text being enough, since between two characters that are read at most two calls are
made; the depth that is left is counted apart from it.

The limit of nesting is none of the format. Every list or object that is open is a call that is not
finished, a thousand of which may be open at a time, and `maxDepth` is what the calls around the reader
leave of them where the default of a field is read. Under more calls around it the reader would stop
earlier.
-/

namespace PromptForm

namespace Json

inductive Stop where
  /-- The text does not follow the grammar, or has a number that is too long. -/
  | malformed
  | tooDeep
  deriving DecidableEq, Repr

/-- The number of lists and objects that may be open at a time. -/
def maxDepth : Nat := 990

/-- Whether a character is a blank between the parts of a text. -/
def isGap (c : Char) : Bool :=
  c == ' ' || c == '\t' || c == '\n' || c == '\r'

def skipGap (s : List Char) : List Char :=
  s.dropWhile isGap

/-! ### Texts -/

/-- The number of four hexadecimal digits. -/
def hexCode? (a b c d : Char) : Option Nat := do
  return Text.ofDigits 16
    [← Text.hexDigitValue? a, ← Text.hexDigitValue? b, ← Text.hexDigitValue? c,
      ← Text.hexDigitValue? d]

/-- The character that a short escape stands for. -/
def shortEscape? (c : Char) : Option Nat :=
  if c = '"' ∨ c = '\\' ∨ c = '/' then some c.toNat
  else if c = 'b' then some 8
  else if c = 'f' then some 12
  else if c = 'n' then some 10
  else if c = 'r' then some 13
  else if c = 't' then some 9
  else none

/-- The code points up to the closing quote, surrogates still apart, and the rest. -/
def codes : List Char → Option (List Nat × List Char)
  | [] => none
  | '"' :: rest => some ([], rest)
  | '\\' :: 'u' :: a :: b :: c :: d :: rest =>
    match hexCode? a b c d, codes rest with
    | some code, some (more, rest) => some (code :: more, rest)
    | _, _ => none
  | '\\' :: c :: rest =>
    match shortEscape? c, codes rest with
    | some code, some (more, rest) => some (code :: more, rest)
    | _, _ => none
  | c :: rest =>
    if c.toNat < 0x20 then none
    else
      match codes rest with
      | some (more, rest) => some (c.toNat :: more, rest)
      | none => none

/-- Whether a code point is the first half of a surrogate pair. -/
def isHigh (code : Nat) : Bool := 0xD800 ≤ code && code < 0xDC00

/-- Whether a code point is the second half of a surrogate pair. -/
def isLow (code : Nat) : Bool := 0xDC00 ≤ code && code < 0xE000

/-- The code points with the halves of surrogate pairs put together. -/
def joinPairs : List Nat → List Nat
  | high :: low :: rest =>
    if isHigh high && isLow low then
      (0x10000 + (high - 0xD800) * 0x400 + (low - 0xDC00)) :: joinPairs rest
    else high :: joinPairs (low :: rest)
  | codes => codes

/-- The tree of code points: a text, when no half of a surrogate pair is left. -/
def ofCodes (codes : List Nat) : Tree :=
  let joined := joinPairs codes
  if joined.any fun code => isHigh code || isLow code then .fragment joined
  else .text (String.ofList (joined.map Char.ofNat))

/-! ### Numbers -/

/-- The digits at the start of a text, and the rest. -/
def digits (s : List Char) : List Char × List Char :=
  (s.takeWhile Char.isDigit, s.dropWhile Char.isDigit)

/-- A point with digits after it, when there is one. -/
def fraction (s : List Char) : List Char × List Char :=
  match s with
  | '.' :: rest =>
    match digits rest with
    | ([], _) => ([], s)
    | (ds, rest) => ('.' :: ds, rest)
  | _ => ([], s)

def exponent (s : List Char) : List Char × List Char :=
  match s with
  | e :: rest =>
    if e = 'e' ∨ e = 'E' then
      let (sign, rest) :=
        match rest with
        | '+' :: rest => (['+'], rest)
        | '-' :: rest => (['-'], rest)
        | _ => ([], rest)
      match digits rest with
      | ([], _) => ([], s)
      | (ds, rest) => (e :: sign ++ ds, rest)
    else ([], s)
  | [] => ([], s)

/-- A number without its sign, and the rest. -/
def unsigned? (s : List Char) : Option (List Char × List Char) :=
  let whole? :=
    match s with
    | '0' :: rest => some (['0'], rest)
    | _ =>
      match digits s with
      | ([], _) => none
      | (ds, rest) => some (ds, rest)
  match whole? with
  | none => none
  | some (whole, rest) =>
    let (f, rest) := fraction rest
    let (e, rest) := exponent rest
    if f.isEmpty && e.isEmpty && whole.length > Numeral.maxDigits then none
    else some (whole ++ f ++ e, rest)

def number? (s : List Char) : Option (Tree × List Char) :=
  match s with
  | '-' :: rest => (unsigned? rest).map fun (n, rest) => (.number (String.ofList ('-' :: n)), rest)
  | _ => (unsigned? s).map fun (n, rest) => (.number (String.ofList n), rest)

/-! ### The grammar -/

def words : List (List Char × Tree) :=
  [("null".toList, .null), ("true".toList, .bool true), ("false".toList, .bool false),
    ("NaN".toList, .number "NaN"), ("Infinity".toList, .number "Infinity"),
    ("-Infinity".toList, .number "-Infinity")]

/-- A word at the start of a text, and the rest. -/
def word? (s : List Char) : Option (Tree × List Char) :=
  words.findSome? fun (word, tree) => (Text.afterPrefix? word s).map fun rest => (tree, rest)

def atom (s : List Char) : Except Stop (Tree × List Char) :=
  match word? s with
  | some found => .ok found
  | none =>
    match number? s with
    | some found => .ok found
    | none => .error .malformed

/-- The text of code points; half of a surrogate pair leaves the null character. -/
def keyOf (codes : List Nat) : String :=
  String.ofList ((joinPairs codes).map Char.ofNat)

/-- The key of an entry up to its value: a text and a colon, and the rest. -/
def key : List Char → Except Stop (String × List Char)
  | '"' :: rest =>
    match codes rest with
    | none => .error .malformed
    | some (codes, rest) =>
      match skipGap rest with
      | ':' :: rest => .ok (keyOf codes, rest)
      | _ => .error .malformed
  | _ => .error .malformed

mutual

/-- The tree at the start of a text, and the rest; `depth` is the number of lists and objects that
may be opened. -/
def value (fuel depth : Nat) (s : List Char) : Except Stop (Tree × List Char) :=
  match fuel with
  | 0 => .error .malformed
  | fuel + 1 =>
    match s with
    | '"' :: rest =>
      match codes rest with
      | some (codes, rest) => .ok (ofCodes codes, rest)
      | none => .error .malformed
    | '[' :: rest =>
      match depth with
      | 0 => .error .tooDeep
      | depth + 1 =>
        match skipGap rest with
        | ']' :: rest => .ok (.list [], rest)
        | rest =>
          match items fuel depth rest with
          | .ok (trees, rest) => .ok (.list trees, rest)
          | .error stop => .error stop
    | '\x7b' :: rest =>
      match depth with
      | 0 => .error .tooDeep
      | depth + 1 =>
        match skipGap rest with
        | '\x7d' :: rest => .ok (.object [], rest)
        | rest =>
          match entries fuel depth rest with
          | .ok (pairs, rest) => .ok (.object pairs, rest)
          | .error stop => .error stop
    | _ => atom s

/-- The items of a list from one of them up to the closing bracket, and the rest. -/
def items (fuel depth : Nat) (s : List Char) : Except Stop (List Tree × List Char) :=
  match fuel with
  | 0 => .error .malformed
  | fuel + 1 =>
    match value fuel depth s with
    | .error stop => .error stop
    | .ok (tree, rest) =>
      match skipGap rest with
      | ']' :: rest => .ok ([tree], rest)
      | ',' :: rest =>
        match items fuel depth (skipGap rest) with
        | .ok (trees, rest) => .ok (tree :: trees, rest)
        | .error stop => .error stop
      | _ => .error .malformed

/-- The entries of an object from one of them up to the closing brace, and the rest. -/
def entries (fuel depth : Nat) (s : List Char) :
    Except Stop (List (String × Tree) × List Char) :=
  match fuel with
  | 0 => .error .malformed
  | fuel + 1 =>
    match key s with
    | .error stop => .error stop
    | .ok (name, rest) =>
      match value fuel depth (skipGap rest) with
      | .error stop => .error stop
      | .ok (tree, rest) =>
        match skipGap rest with
        | '\x7d' :: rest => .ok ([(name, tree)], rest)
        | ',' :: rest =>
          match entries fuel depth (skipGap rest) with
          | .ok (pairs, rest) => .ok ((name, tree) :: pairs, rest)
          | .error stop => .error stop
        | _ => .error .malformed

end

/-- The tree of a text; nothing but blanks may stand around it. -/
def read (s : String) : Except Stop Tree :=
  let text := s.toList
  match value (2 * text.length + 2) maxDepth (skipGap text) with
  | .error stop => .error stop
  | .ok (tree, rest) => if (skipGap rest).isEmpty then .ok tree else .error .malformed

end Json

end PromptForm
