import PromptForm.Text.Digit
import PromptForm.Yaml.Cursor
import PromptForm.Yaml.Point

/-!
# Scalars of YAML texts

Scalars are written plainly, between quotes, or as a block of lines. In all of them a single line
break between lines of text is folded into a space, and further ones are kept; only literal blocks
keep every line break.

## Main definitions

* `plain`: a plain scalar.
* `singleQuoted`, `doubleQuoted`: quoted scalars.
* `block`: a literal or folded block.

## Design notes

Every function returns the text and the cursor after it; loops take fuel, of which the length of the
text left is enough, as every turn but the last one moves the cursor.
-/

namespace PromptForm

namespace Yaml

/-! ### Folding -/

/-- What line breaks become: a single one a space, and of more the first one is dropped. -/
def folded (first : Char) (more : List Char) : List Char :=
  if first != '\n' then first :: more
  else if more.isEmpty then [' ']
  else more

/-- What was read, and the cursor after it. -/
structure Piece (α : Type) where
  text : List α
  after : Cursor

def Piece.points (piece : Piece Char) : Piece Point :=
  ⟨piece.text.map Point.char, piece.after⟩

/-! ### Plain scalars -/

/-- Whether a plain scalar ends before a character, given the one after it. -/
def endsPlain (inFlow : Bool) (c next : Char) : Bool :=
  isGap c ||
    (c == ':' && (isGap next || (inFlow && [',', '[', ']', '\x7b', '\x7d'].contains next))) ||
    (inFlow && [',', '?', '[', ']', '\x7b', '\x7d'].contains c)

/-- The characters of a plain scalar up to a place where it may end. -/
def plainWord (inFlow : Bool) : List Char → List Char
  | [] => []
  | c :: cs =>
    if endsPlain inFlow c (cs.headD endMark) then [] else c :: plainWord inFlow cs

/-- The line breaks and spaces from a cursor on: the breaks, and the cursor after them unless a
marker between documents comes up. -/
def plainBreaks : Nat → Cursor → List Char → List Char × Cursor × Bool
  | 0, c, breaks => (breaks, c, false)
  | fuel + 1, c, breaks =>
    if c.head == ' ' then plainBreaks fuel c.next breaks
    else
      match c.lineBreak? with
      | some (b, c) =>
        if c.isSeparator then (breaks, c, true) else plainBreaks fuel c (breaks ++ [b])
      | none => (breaks, c, false)

/-- The space between two words of a plain scalar: its text, which is empty where the scalar ends,
the cursor after it, and whether it crosses a line break. -/
def plainSpace (c : Cursor) : Piece Char × Bool :=
  let spaces := c.run (· == ' ')
  let c := c.skipSpaces
  match c.lineBreak? with
  | none => (⟨spaces, c⟩, false)
  | some (first, c) =>
    if c.isSeparator then (⟨[], c⟩, true)
    else
      let (breaks, c, separated) := plainBreaks c.fuel c []
      if separated then (⟨[], c⟩, true) else (⟨folded first breaks, c⟩, true)

/-- The words of a plain scalar from a cursor on, `space` being the space before them: the text, and
whether the cursor after it is on a new line. -/
def plainFrom (inFlow : Bool) (indent : Int) : Nat → Cursor → List Char → Bool → Piece Char × Bool
  | 0, c, _, crossed => (⟨[], c⟩, crossed)
  | fuel + 1, c, space, crossed =>
    let word := if c.head == '#' then [] else plainWord inFlow c.rest
    if word.isEmpty then (⟨[], c⟩, crossed)
    else
      let (gap, crossed) := plainSpace (c.skip word.length)
      let c := gap.after
      if gap.text.isEmpty || c.head == '#' || (!inFlow && (c.column : Int) < indent) then
        (⟨space ++ word, c⟩, crossed)
      else
        let (more, crossed) := plainFrom inFlow indent fuel c gap.text crossed
        (⟨space ++ word ++ more.text, more.after⟩, crossed)

/-- A plain scalar at a cursor, and whether the cursor after it is on a new line. -/
def plain (inFlow : Bool) (indent : Int) (c : Cursor) : Piece Char × Bool :=
  plainFrom inFlow indent c.fuel c [] false

/-! ### Quoted scalars -/

/-- The line breaks inside quotes from a cursor on, blanks dropped; a marker between documents must
not come up. -/
def quotedBreaks : Nat → Cursor → List Char → Option (Piece Char)
  | 0, _, _ => none
  | fuel + 1, c, breaks =>
    if c.isSeparator then none
    else
      let c := c.skipRun fun ch => ch == ' ' || ch == '\t'
      match c.lineBreak? with
      | some (b, c) => quotedBreaks fuel c (breaks ++ [b])
      | none => some ⟨breaks, c⟩

/-- The blanks inside quotes at a cursor, with line breaks folded. -/
def quotedSpace (c : Cursor) : Option (Piece Char) :=
  let isBlank := fun ch => ch == ' ' || ch == '\t'
  let blanks := c.run isBlank
  let c := c.skipRun isBlank
  match c.lineBreak? with
  | some (first, c) =>
    (quotedBreaks c.fuel c []).map fun breaks => ⟨folded first breaks.text, breaks.after⟩
  | none => if c.head == endMark then none else some ⟨blanks, c⟩

/-- A scalar between apostrophes, from inside on; a doubled apostrophe stands for one. -/
def singleQuoted : Nat → Cursor → Option (Piece Char)
  | 0, _ => none
  | fuel + 1, c =>
    let continueWith (text : List Char) (c : Cursor) : Option (Piece Char) :=
      (singleQuoted fuel c).map fun more => ⟨text ++ more.text, more.after⟩
    if c.head == '\'' then
      if c.peek 1 == '\'' then continueWith ['\''] (c.skip 2) else some ⟨[], c.next⟩
    else if isGap c.head then
      match quotedSpace c with
      | some space => continueWith space.text space.after
      | none => none
    else continueWith [c.head] c.next

/-- The characters that escapes of one character stand for. -/
def escapes : List (Char × Char) :=
  [('0', '\x00'), ('a', '\x07'), ('b', '\x08'), ('t', '\t'), ('\t', '\t'), ('n', '\n'),
    ('v', '\x0b'), ('f', '\x0c'), ('r', '\r'), ('e', '\x1b'), (' ', ' '), ('"', '"'),
    ('\\', '\\'), ('/', '/'), ('N', '\u0085'), ('_', '\u00a0'), ('L', '\u2028'), ('P', '\u2029')]

/-- The number of hexadecimal digits that an escape of a character by its number has. -/
def hexLength? (c : Char) : Option Nat :=
  [('x', 2), ('u', 4), ('U', 8)].lookup c

def hexNumber? (digits : List Char) : Option Nat :=
  (digits.mapM Text.hexDigitValue?).map (Text.ofDigits 16)

/-- The code points of an escape at a cursor, after its backslash, and the cursor after it. -/
def escape (c : Cursor) : Except Stop (Piece Point) :=
  match escapes.lookup c.head, hexLength? c.head with
  | some ch, _ => .ok ⟨[.char ch], c.next⟩
  | none, some n => do
    let digits := c.next.rest.take n
    let code ← wellFormed (hexNumber? digits)
    if digits.length < n then throw .malformed
    return ⟨[← Point.ofCode code], c.skip (n + 1)⟩
  | none, none => do
    let (_, c) ← wellFormed c.lineBreak?
    return (← wellFormed (quotedBreaks c.fuel c [])).points

/-- A scalar between double quotes, from inside on. -/
def doubleQuoted : Nat → Cursor → Except Stop (Piece Point)
  | 0, _ => .error .malformed
  | fuel + 1, c =>
    let continueWith (piece : Piece Point) : Except Stop (Piece Point) :=
      (doubleQuoted fuel piece.after).map fun more => ⟨piece.text ++ more.text, more.after⟩
    if c.head == '"' then .ok ⟨[], c.next⟩
    else if c.head == '\\' then escape c.next >>= continueWith
    else if isGap c.head then wellFormed (quotedSpace c) >>= fun piece => continueWith piece.points
    else continueWith ⟨[.char c.head], c.next⟩

/-! ### Blocks -/

/-- What becomes of the line breaks at the end of a block. -/
inductive Chomping where
  | strip
  | clip
  | keep
  deriving DecidableEq, Repr

/-- The header of a block: the chomping, the indentation when it is given, and the cursor after
it. -/
def blockHeader (c : Cursor) : Option (Chomping × Option Nat × Cursor) :=
  let sign? (c : Cursor) : Option Chomping :=
    if c.head == '+' then some .keep else if c.head == '-' then some .strip else none
  let digit? (c : Cursor) : Option Nat := Text.asciiDigitValue? c.head
  let (chomping, indent?, c) :=
    match sign? c, digit? c with
    | some chomping, _ =>
      match digit? c.next with
      | some n => (chomping, some n, c.skip 2)
      | none => (chomping, none, c.next)
    | none, some n =>
      match sign? c.next with
      | some chomping => (chomping, some n, c.skip 2)
      | none => (.clip, some n, c.next)
    | none, none => (.clip, none, c)
  if indent? = some 0 || !isSpaceOrEnd c.head then none else some (chomping, indent?, c)

/-- The cursor after a line on which only a comment may be left. -/
def restOfLine (c : Cursor) : Option Cursor :=
  let c := c.skipSpaces.skipComment
  match c.lineBreak? with
  | some (_, c) => some c
  | none => if c.head == endMark then some c else none

/-- The empty lines before a block whose indentation is not given, and the greatest column that the
spaces in them or before its first line reach. -/
def leadingBreaks : Nat → Cursor → List Char → Nat → Piece Char × Nat
  | 0, c, breaks, widest => (⟨breaks, c⟩, widest)
  | fuel + 1, c, breaks, widest =>
    if c.head == ' ' then leadingBreaks fuel c.next breaks (max widest c.next.column)
    else
      match c.lineBreak? with
      | some (b, c) => leadingBreaks fuel c (breaks ++ [b]) widest
      | none => (⟨breaks, c⟩, widest)

/-- The cursor after the spaces of the indentation of a line. -/
def skipIndent (indent : Nat) : Nat → Cursor → Cursor
  | 0, c => c
  | fuel + 1, c =>
    if c.column < indent && c.head == ' ' then skipIndent indent fuel c.next else c

def blockBreaks (indent : Nat) : Nat → Cursor → List Char → Piece Char
  | 0, c, breaks => ⟨breaks, c⟩
  | fuel + 1, c, breaks =>
    let c := skipIndent indent c.fuel c
    match c.lineBreak? with
    | some (b, c) => blockBreaks indent fuel c (breaks ++ [b])
    | none => ⟨breaks, c⟩

/-- What the line breaks at the end of a block leave. -/
def chomped (chomping : Chomping) (last : List Char) (breaks : List Char) : List Char :=
  match chomping with
  | .strip => []
  | .clip => last
  | .keep => last ++ breaks

/-- The lines of a block from a cursor on, after empty lines. -/
def blockLines (isFolded : Bool) (chomping : Chomping) (indent : Nat) :
    Nat → Cursor → List Char → Piece Char
  | 0, c, _ => ⟨[], c⟩
  | fuel + 1, c, breaks =>
    let line := c.run (!isLineEnd ·)
    let isText := fun ch => !(ch == ' ' || ch == '\t')
    let startsWithText := isText c.head
    let c := c.skip line.length
    let (last, c) :=
      match c.lineBreak? with
      | some (b, c) => ([b], c)
      | none => ([], c)
    let more := blockBreaks indent c.fuel c []
    let c := more.after
    if c.column = indent && c.head != endMark then
      let joint :=
        if isFolded && last == ['\n'] && startsWithText && isText c.head then
          if more.text.isEmpty then [' '] else []
        else last
      let tail := blockLines isFolded chomping indent fuel c more.text
      ⟨breaks ++ line ++ joint ++ tail.text, tail.after⟩
    else ⟨breaks ++ line ++ chomped chomping last more.text, c⟩

/-- A block at a cursor, after its sign, inside an indentation. -/
def block (isFolded : Bool) (outer : Int) (c : Cursor) : Option (Piece Char) := do
  let (chomping, indent?, c) ← blockHeader c
  let c ← restOfLine c
  let least := (outer + 1).toNat.max 1
  let (before, indent) :=
    match indent? with
    | some n =>
      let indent := least + n - 1
      (blockBreaks indent c.fuel c [], indent)
    | none =>
      let (before, widest) := leadingBreaks c.fuel c [] 0
      (before, max least widest)
  if before.after.column = indent && before.after.head != endMark then
    return blockLines isFolded chomping indent before.after.fuel before.after before.text
  else
    return ⟨chomped chomping [] before.text, before.after⟩

end Yaml

end PromptForm
