/-!
# Positions in a YAML text

The scanner moves over the text with a cursor that knows what is left and where it stands. Past the
end there are null characters; a text holds none of its own.

## Main definitions

* `Cursor`: the rest of a text and its place.
* `isBreak`, `isLineEnd`, `isGap`: the classes of characters that end lines and words.
-/

namespace PromptForm

namespace Yaml

def endMark : Char := '\x00'

def isBreak (c : Char) : Bool :=
  c == '\n' || c == '\r' || c == '\u0085' || c == '\u2028' || c == '\u2029'

def isLineEnd (c : Char) : Bool :=
  c == endMark || isBreak c

def isSpaceOrEnd (c : Char) : Bool :=
  c == ' ' || isLineEnd c

def isGap (c : Char) : Bool :=
  c == '\t' || isSpaceOrEnd c

structure Cursor where
  rest : List Char
  index : Nat := 0
  line : Nat := 0
  /-- The number of characters before in the line. -/
  column : Nat := 0
  deriving Repr

namespace Cursor

def peek (c : Cursor) (k : Nat) : Char :=
  c.rest.getD k endMark

def head (c : Cursor) : Char := c.peek 0

/-- The cursor one character further; a byte order mark takes no column. -/
def next (c : Cursor) : Cursor :=
  match c.rest with
  | [] => c
  | ch :: rest =>
    if isBreak ch then ⟨rest, c.index + 1, c.line + 1, 0⟩
    else if ch = '\ufeff' then ⟨rest, c.index + 1, c.line, c.column⟩
    else ⟨rest, c.index + 1, c.line, c.column + 1⟩

def skip (c : Cursor) : Nat → Cursor
  | 0 => c
  | n + 1 => c.next.skip n

/-- The characters that satisfy a condition from the cursor on. -/
def run (p : Char → Bool) (c : Cursor) : List Char :=
  c.rest.takeWhile p

/-- The cursor after the characters that satisfy a condition. -/
def skipRun (p : Char → Bool) (c : Cursor) : Cursor :=
  c.skip (c.run p).length

def skipSpaces (c : Cursor) : Cursor :=
  c.skipRun (· == ' ')

/-- The line break at the cursor as it is kept in a text, and the cursor after it. -/
def lineBreak? (c : Cursor) : Option (Char × Cursor) :=
  if c.head == '\u2028' || c.head == '\u2029' then some (c.head, c.next)
  else if c.head == '\r' && c.peek 1 == '\n' then some ('\n', c.skip 2)
  else if isBreak c.head then some ('\n', c.next)
  else none

def skipComment (c : Cursor) : Cursor :=
  if c.head == '#' then c.skipRun (!isLineEnd ·) else c

/-- Whether three equal characters stand at the cursor as a word of their own. -/
def isMarker (ch : Char) (c : Cursor) : Bool :=
  c.head == ch && c.peek 1 == ch && c.peek 2 == ch && isGap (c.peek 3)

/-- Whether a marker between documents stands at the cursor. -/
def isSeparator (c : Cursor) : Bool :=
  c.isMarker '-' || c.isMarker '.'

/-- An upper bound for the number of steps that move a cursor. -/
def fuel (c : Cursor) : Nat := c.rest.length + 1

end Cursor

end Yaml

end PromptForm
