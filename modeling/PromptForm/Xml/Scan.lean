import PromptForm.Text.Cut
import PromptForm.Text.Digit
import PromptForm.Xml.Fault

/-!
# Scanning the pieces of markup

Scanners for what prolog and content have in common: names, references, comments, instructions. A
scanner is given the symbols after those that called for it. It finds a value and gives back the
rest, or points at the first symbol that cannot stand where it stands, or runs into the end of the
text, which may lie within a character.

## Main definitions

* `Scan`: the outcome of a scanner.
* `name`, `qualifiedName`, `reference`, `comment`, `instruction`: the scanners.
* `Piece`, `pieces`: a quoted value cut into characters and references; `isNormal` where nothing is to be
  replaced in it.

## Design notes

A character that breaks off at the end of the text counts as such only where a name or data may go
on. Elsewhere it is a symbol out of place like any other.
-/

namespace PromptForm

namespace Xml

inductive Scan (α : Type) where
  | found (value : α) (rest : Symbols)
  /-- A text that begins with the symbol that is out of place. -/
  | bad (rest : Symbols)
  /-- The end of the text, before the scanner was done. -/
  | ended
  | cut

namespace Symbols

/-- The first symbol and the rest, unless nothing is left but a stray byte. -/
def next? : Symbols → Option (Symbol × Symbols)
  | [] => none
  | s :: rest => if s.form = .stray then none else some (s, rest)

end Symbols

namespace Scan

variable {α β : Type}

/-- Continues with the value and the rest. -/
def andThen (s : Scan α) (f : α → Symbols → Scan β) : Scan β :=
  match s with
  | found value rest => f value rest
  | bad rest => .bad rest
  | ended => .ended
  | cut => .cut

def map (f : α → β) (s : Scan α) : Scan β :=
  s.andThen fun value rest => .found (f value) rest

/-- Refuses the first symbol of a text where data or a name may go on. -/
def refuse : Symbols → Scan α
  | [] => .ended
  | s :: rest =>
    match s.form with
    | .stray => .ended
    | .cut => .cut
    | _ => .bad (s :: rest)

/-- Refuses the first symbol of a text where nothing but some characters of ASCII may stand. -/
def misplaced (s : Symbols) : Scan α :=
  if s.next?.isSome then .bad s else .ended

/-- Passes the next symbol when it is the expected character of ASCII. -/
def expect (c : Char) (value : α) (s : Symbols) : Scan α :=
  match s.next? with
  | none => .ended
  | some (d, rest) => if d.is c then .found value rest else .bad s

/-- The value and the rest, or why there is none; `mark` is the place where the scanned text
begins. -/
def result (mark : Nat) : Scan α → Except Stop (α × Symbols)
  | found value rest => .ok (value, rest)
  | bad rest => .error ⟨.notWellFormed, rest.mark⟩
  | ended => .error ⟨.unclosedToken, mark⟩
  | cut => .error ⟨.partialCharacter, mark⟩

end Scan

/-- What was taken of a text as a name, when at least one symbol follows. -/
def behindName (s after : Symbols) : Scan Symbols :=
  match after.next? with
  | none => .ended
  | some (c, _) => if c.form = .cut then .cut else .found (s.before after) after

/-- A name, with at least one symbol after it. -/
def name (s : Symbols) : Scan Symbols :=
  match s with
  | [] => .ended
  | c :: rest =>
    if c.isNameStart then behindName s (rest.dropWhile Symbol.isNameChar) else Scan.refuse s

/-- A name, or two names with a colon between them, with at least one symbol after it. -/
def qualifiedName (s : Symbols) : Scan Symbols :=
  (name s).andThen fun first rest =>
    match rest with
    | c :: behind =>
      if c.is ':' then
        (name behind).andThen fun _ rest =>
          match rest with
          | d :: _ => if d.is ':' then .bad rest else .found (s.before rest) rest
          | [] => .ended
      else .found first rest
    | [] => .ended

inductive Reference where
  | entity (name : String)
  /-- To a character by its number; there is no character for a number that a document cannot
  hold. -/
  | character (value : Option Char)
  deriving DecidableEq, Repr

/-- The character with a number, when a document can hold it. -/
def characterOf (n : Nat) : Option Char :=
  if n < 0x110000 ∧ ¬(0xD800 ≤ n ∧ n < 0xE000) then
    let c := Char.ofNat n
    if isLegal c then some c else none
  else none

/-- The digits of a character number up to the semicolon; at least one. -/
def characterNumber (base : Nat) (digitValue? : Char → Option Nat) (s : Symbols) :
    Scan Reference :=
  let digits := s.takeWhile fun c => (digitValue? c.char).isSome
  let after : Symbols := s.drop digits.length
  match after.next? with
  | none => .ended
  | some (c, rest) =>
    if c.is ';' && !digits.isEmpty then
      let number := Text.ofDigits base (digits.filterMap fun c => digitValue? c.char)
      .found (.character (characterOf number)) rest
    else .bad after

def reference (s : Symbols) : Scan Reference :=
  match s with
  | [] => .ended
  | c :: rest =>
    if c.is '#' then
      match rest with
      | [] => .ended
      | x :: hex =>
        if x.is 'x' then characterNumber 16 Text.hexDigitValue? hex
        else characterNumber 10 Text.asciiDigitValue? rest
    else (name s).andThen fun n rest => Scan.expect ';' (.entity n.text) rest

/-- The rest of a comment, after its second hyphen. -/
def commentBody : Symbols → Scan Unit
  | [] => .ended
  | c :: rest =>
    if c.is '-' then
      match rest with
      | [] => .ended
      | d :: behind => if d.is '-' then Scan.expect '>' () behind else commentBody rest
    else if c.isChar then commentBody rest
    else Scan.refuse (c :: rest)

def comment (s : Symbols) : Scan Unit :=
  (Scan.expect '-' () s).andThen fun _ rest => commentBody rest

/-- The rest of an instruction up to its end. -/
def instructionBody : Symbols → Scan Unit
  | [] => .ended
  | c :: rest =>
    if c.is '?' then
      match rest with
      | [] => .ended
      | d :: behind => if d.is '>' then .found () behind else instructionBody rest
    else if c.isChar then instructionBody rest
    else Scan.refuse (c :: rest)

/-- Whether an instruction is the declaration of the document. The target `xml` is reserved for it,
in other cases of letters it is refused. -/
def isDeclaration? (target : Symbols) : Option Bool :=
  if target.spells "xml" then some true
  else if target.chars.map Char.toLower = ['x', 'm', 'l'] then none
  else some false

/-- An instruction, after its question mark. The value tells whether it is a declaration. -/
def instruction (s : Symbols) : Scan Bool :=
  (name s).andThen fun target rest =>
    match rest with
    | [] => .ended
    | c :: after =>
      if c.isSpace || c.is '?' then
        match isDeclaration? target with
        | none => .bad rest
        | some declaration =>
          if c.is '?' then Scan.expect '>' declaration after
          else (instructionBody after).map fun _ => declaration
      else .bad rest

/-- A piece of a quoted value, with its mark and the number of its units. -/
inductive Piece where
  /-- A character as it stands; a line break of any form is a line feed. -/
  | char (c : Char) (units : Nat)
  | reference (r : Reference) (mark units : Nat)
  /-- A place where the value is not well formed. -/
  | broken (mark : Nat)

/-- The text behind a carriage return, without the line feed that belongs to it. -/
def skipLineFeed : Symbols → Symbols
  | [] => []
  | s :: rest => if s.is '\n' then rest else s :: rest

/-- The pieces of a quoted value behind those that were cut off already. No value holds a `<`. With
`fuel` at least the length of the value all of it is cut. -/
def piecesFrom : Nat → List Piece → Symbols → List Piece
  | 0, done, _ => done.reverse
  | _, done, [] => done.reverse
  | fuel + 1, done, s :: rest =>
    let units (behind : Symbols) : Nat := (Symbols.before (s :: rest) behind).units
    if s.is '&' then
      match reference rest with
      | .found r behind => piecesFrom fuel (.reference r s.left (units behind) :: done) behind
      | .bad rest => (.broken rest.mark :: done).reverse
      | _ => (.broken s.left :: done).reverse
    else if s.is '<' || s.form = .stray then (.broken s.left :: done).reverse
    else if s.isReturn then
      let behind := skipLineFeed rest
      -- a carriage return at the end of the value is not counted
      let units := if rest.isEmpty then 0 else units behind
      piecesFrom fuel (.char '\n' units :: done) behind
    else piecesFrom fuel (.char s.char s.units :: done) rest

def pieces (value : Symbols) : List Piece :=
  piecesFrom value.length [] value

def Piece.char? : Piece → Option Char
  | char c _ => some c
  | _ => none

/-- Whether pieces are words with one space between them, so that nothing in them is replaced. -/
def isNormal (ps : List Piece) : Bool :=
  ps.isEmpty ||
    match ps.mapM Piece.char? with
    | some cs => (Text.splitOn ' ' cs).all fun word => !word.isEmpty && !word.any isSpace
    | none => false

end Xml

end PromptForm
