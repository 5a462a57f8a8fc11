import PromptForm.Yaml.Scalar
import PromptForm.Yaml.Token

/-!
# The tokens of a YAML text

The scanner turns a text into tokens. Indentation opens and closes block collections, so that the
scanner keeps the open indentations. Whether something is the key of a mapping shows only at the colon
after it, so that it also remembers, for every level of flow collections, where a key may have begun,
and puts the token for the key in there once the colon is found. Such a key must be on one line and
have 1024 characters at most.

## Main definitions

* `Scanner`: the state of the scanner.
* `Scanner.step`: the next token.
* `tokens`: the tokens of a text.

## Design notes

A text is read only as far as the document needs it: what is wrong further on must not hide what is
wrong before. So a text that cannot be split up still has tokens, those that are settled before the
place of the fault.
-/

namespace PromptForm

namespace Yaml

structure KeyPlace where
  tokensBefore : Nat
  required : Bool
  index : Nat
  line : Nat
  column : Nat
  deriving Repr

/-- The tokens of a text as far as they can be told, and why there are no more. -/
structure Tokens where
  found : List Token
  stop : Stop

structure Scanner where
  cursor : Cursor
  flowLevel : Nat := 0
  indent : Int := -1
  /-- The indentations around it, the innermost first. -/
  outer : List Int := []
  keyAllowed : Bool := true
  /-- The places where keys may have begun, by flow level. -/
  places : List (Nat × KeyPlace) := []
  found : List Token := []
  count : Nat := 0

namespace Scanner

/-- Whether the cursor is outside flow collections. -/
def inBlock (s : Scanner) : Bool := s.flowLevel == 0

def emit (s : Scanner) (t : Token) : Scanner :=
  { s with found := t :: s.found, count := s.count + 1 }

/-- The state with a token put in after the first `n` tokens. -/
def insertAt (s : Scanner) (n : Nat) (t : Token) : Scanner :=
  let later := s.count - n
  { s with found := s.found.take later ++ t :: s.found.drop later, count := s.count + 1 }

/-- The state at another place of the text. -/
def moveTo (s : Scanner) (c : Cursor) : Scanner :=
  { s with cursor := c }

/-- Whether a key that began at a place cannot go on to the cursor. -/
def isStale (s : Scanner) (p : KeyPlace) : Bool :=
  p.line != s.cursor.line || s.cursor.index - p.index > 1024

/-- The state without the places of keys that cannot go on; none of them may be required. -/
def dropStale (s : Scanner) : Except Stop Scanner :=
  if s.places.any fun entry => s.isStale entry.2 && entry.2.required then .error .malformed
  else .ok { s with places := s.places.filter fun entry => !s.isStale entry.2 }

/-- The state without the place of a key at the current level, which must not be required. -/
def dropPlace (s : Scanner) : Except Stop Scanner :=
  match s.places.lookup s.flowLevel with
  | some p =>
    if p.required then .error .malformed
    else .ok { s with places := s.places.filter fun entry => entry.1 != s.flowLevel }
  | none => .ok s

/-- The state with the cursor as a place where a key may begin. -/
def savePlace (s : Scanner) : Except Stop Scanner :=
  if s.keyAllowed then do
    let c := s.cursor
    let required := s.inBlock && s.indent == (c.column : Int)
    let s ← s.dropPlace
    let p : KeyPlace := ⟨s.count, required, c.index, c.line, c.column⟩
    return { s with places := (s.flowLevel, p) :: s.places }
  else .ok s

/-- The state with the block collections closed that are indented further than a column. -/
def unwind (column : Int) : Nat → Scanner → Scanner
  | 0, s => s
  | fuel + 1, s =>
    if s.indent > column then
      match s.outer with
      | indent :: outer => unwind column fuel ({ s with indent, outer }.emit .blockEnd)
      | [] => s
    else s

/-- The state with the block collections closed that are indented further than a column, outside flow
collections. -/
def unwindTo (s : Scanner) (column : Int) : Scanner :=
  if s.inBlock then unwind column (s.outer.length + 1) s else s

/-- The state with a column as the current indentation, when it is further than that; the token is
put in after the first `n` tokens. -/
def indentTo (s : Scanner) (column n : Nat) (t : Token) : Scanner :=
  if s.indent < (column : Int) then
    { s with outer := s.indent :: s.outer, indent := column }.insertAt n t
  else s

/-- The cursor at the next token, and whether a line break is crossed on the way. -/
def skipToToken : Nat → Cursor → Bool → Cursor × Bool
  | 0, c, crossed => (c, crossed)
  | fuel + 1, c, crossed =>
    let c := c.skipSpaces.skipComment
    match c.lineBreak? with
    | some (_, c) => skipToToken fuel c true
    | none => (c, crossed)

def toToken (s : Scanner) : Scanner :=
  let c := if s.cursor.index == 0 && s.cursor.head == '\ufeff' then s.cursor.next else s.cursor
  let (c, crossed) := skipToToken c.fuel c false
  { s with cursor := c, keyAllowed := s.keyAllowed || (crossed && s.inBlock) }

/-! ### The kinds of tokens -/

def streamEnd (s : Scanner) : Except Stop Scanner := do
  let s ← (s.unwindTo (-1)).dropPlace
  return s.emit .streamEnd

def directiveLine (s : Scanner) : Except Stop Scanner := do
  let s ← (s.unwindTo (-1)).dropPlace
  let (d, c) ← directive s.cursor
  return { s.moveTo c with keyAllowed := false }.emit (.directive d)

def documentMarker (s : Scanner) (t : Token) : Except Stop Scanner := do
  let s ← (s.unwindTo (-1)).dropPlace
  return { s.moveTo (s.cursor.skip 3) with keyAllowed := false }.emit t

def flowStart (s : Scanner) (t : Token) : Except Stop Scanner := do
  let s ← s.savePlace
  return { s.moveTo s.cursor.next with flowLevel := s.flowLevel + 1, keyAllowed := true }.emit t

def flowEnd (s : Scanner) (t : Token) : Except Stop Scanner := do
  let s ← s.dropPlace
  if s.inBlock then throw .malformed
  else
    return { s.moveTo s.cursor.next with flowLevel := s.flowLevel - 1, keyAllowed := false }.emit t

def flowEntry (s : Scanner) : Except Stop Scanner := do
  let s ← { s with keyAllowed := true }.dropPlace
  return (s.moveTo s.cursor.next).emit .flowEntry

/-- The sign of an entry of a block sequence. -/
def blockEntry (s : Scanner) : Except Stop Scanner := do
  if s.inBlock && !s.keyAllowed then throw .malformed
  else
    let s := if s.inBlock then s.indentTo s.cursor.column s.count .sequenceStart else s
    let s ← { s with keyAllowed := true }.dropPlace
    return (s.moveTo s.cursor.next).emit .blockEntry

def keySign (s : Scanner) : Except Stop Scanner := do
  if s.inBlock && !s.keyAllowed then throw .malformed
  else
    let s := if s.inBlock then s.indentTo s.cursor.column s.count .mappingStart else s
    let s ← { s with keyAllowed := s.inBlock }.dropPlace
    return (s.moveTo s.cursor.next).emit .key

/-- The sign of a value. It makes a key of what began at the place of a key. -/
def valueSign (s : Scanner) : Except Stop Scanner :=
  let sign (s : Scanner) : Scanner := (s.moveTo s.cursor.next).emit .value
  match s.places.lookup s.flowLevel with
  | some p =>
    let s := { s with places := s.places.filter fun entry => entry.1 != s.flowLevel }
    let s := s.insertAt p.tokensBefore .key
    let s := if s.inBlock then s.indentTo p.column p.tokensBefore .mappingStart else s
    .ok (sign { s with keyAllowed := false })
  | none =>
    if s.inBlock && !s.keyAllowed then .error .malformed
    else
      let s := if s.inBlock then s.indentTo s.cursor.column s.count .mappingStart else s
      .ok (sign { s with keyAllowed := s.inBlock })

def anchorSign (s : Scanner) (t : List Char → Token) : Except Stop Scanner := do
  let s ← s.savePlace
  let (name, c) ← wellFormed (anchorName s.cursor)
  return { s.moveTo c with keyAllowed := false }.emit (t name)

def tagSign (s : Scanner) : Except Stop Scanner := do
  let s ← s.savePlace
  let (name, c) ← wellFormed (tag s.cursor)
  return { s.moveTo c with keyAllowed := false }.emit (.tag name)

def blockScalar (s : Scanner) (isFolded : Bool) : Except Stop Scanner := do
  let s ← { s with keyAllowed := true }.dropPlace
  let piece ← wellFormed (block isFolded s.indent s.cursor.next)
  return (s.moveTo piece.after).emit (.scalar piece.points.text false)

def quotedScalar (s : Scanner) (read : Nat → Cursor → Except Stop (Piece Point)) : Except Stop Scanner := do
  let s ← s.savePlace
  let piece ← read s.cursor.fuel s.cursor.next
  return { s.moveTo piece.after with keyAllowed := false }.emit (.scalar piece.text false)

def plainScalar (s : Scanner) : Except Stop Scanner := do
  let s ← s.savePlace
  let (piece, crossed) := plain (!s.inBlock) (s.indent + 1) s.cursor
  return { s.moveTo piece.after with keyAllowed := crossed }.emit (.scalar piece.points.text true)

/-- The characters with which no plain scalar begins unless they belong to a word. -/
def signs : List Char :=
  "-?:,[]\x7b\x7d#&*!|>'\"%@\x60".toList

/-- Whether a plain scalar begins at the cursor. -/
def beginsPlain (s : Scanner) : Bool :=
  let c := s.cursor.head
  !(isGap c || signs.contains c) ||
    (!isGap (s.cursor.peek 1) && (c == '-' || (s.inBlock && (c == '?' || c == ':'))))

/-- The state after the token at the cursor. -/
def fetch (s : Scanner) : Except Stop Scanner :=
  let c := s.cursor
  let ch := c.head
  let gapNext := isGap (c.peek 1)
  if ch == '%' && c.column == 0 then s.directiveLine
  else if c.column == 0 && c.isMarker '-' then s.documentMarker .documentStart
  else if c.column == 0 && c.isMarker '.' then s.documentMarker .documentEnd
  else if ch == '[' then s.flowStart .flowSequenceStart
  else if ch == '\x7b' then s.flowStart .flowMappingStart
  else if ch == ']' then s.flowEnd .flowSequenceEnd
  else if ch == '\x7d' then s.flowEnd .flowMappingEnd
  else if ch == ',' then s.flowEntry
  else if ch == '-' && gapNext then s.blockEntry
  else if ch == '?' && (!s.inBlock || gapNext) then s.keySign
  else if ch == ':' && (!s.inBlock || gapNext) then s.valueSign
  else if ch == '*' then s.anchorSign .alias
  else if ch == '&' then s.anchorSign .anchor
  else if ch == '!' then s.tagSign
  else if ch == '|' && s.inBlock then s.blockScalar false
  else if ch == '>' && s.inBlock then s.blockScalar true
  else if ch == '\'' then s.quotedScalar fun fuel c => (wellFormed (singleQuoted fuel c)).map Piece.points
  else if ch == '"' then s.quotedScalar doubleQuoted
  else if s.beginsPlain then s.plainScalar
  else .error .malformed

/-- The state at the next token, with what its place closes. -/
def advance (s : Scanner) : Except Stop Scanner := do
  let s ← s.toToken.dropStale
  return s.unwindTo s.cursor.column

/-- The number of tokens that are settled: those before the first place where a key may have
begun. -/
def settled (s : Scanner) : Nat :=
  (s.places.filter fun entry => !s.isStale entry.2).foldl
    (fun n entry => min n entry.2.tokensBefore) s.count

/-- The state after the next token, and whether that is the end of the text. -/
def step (s : Scanner) : Except Stop (Scanner × Bool) := do
  let s ← s.advance
  if s.cursor.head == endMark then return (← s.streamEnd, true) else return (← s.fetch, false)

def scanFrom : Nat → Scanner → Tokens
  | 0, _ => ⟨[], .malformed⟩
  | fuel + 1, s =>
    match s.step with
    | .ok (s, true) => ⟨s.found.reverse, .malformed⟩
    | .ok (s, false) => scanFrom fuel s
    | .error stop => ⟨s.found.reverse.take s.settled, stop⟩

end Scanner

def tokens (text : List Char) : Tokens :=
  Scanner.scanFrom (text.length + 1) { cursor := { rest := text } }

end Yaml

end PromptForm
