import PromptForm.Text.Digit
import PromptForm.Yaml.Cursor
import PromptForm.Yaml.Point

/-!
# Tokens of YAML texts

Besides scalars and the signs of collections, a text has directives, tags, anchors and aliases. These
are read here.

## Main definitions

* `Token`: the tokens.
* `anchorName`, `tag`, `directive`: the readers, each with the cursor after what it reads.
-/

namespace PromptForm

namespace Yaml

/-- A tag as it is written: a handle, unless it is written out in full, and the rest. -/
structure TagName where
  handle? : Option (List Char)
  suffix : List Char
  deriving DecidableEq, Repr

inductive Directive where
  | version (major : Nat)
  | tag (handle target : List Char)
  | other
  deriving DecidableEq, Repr

inductive Token where
  | directive (d : Directive)
  | documentStart
  | documentEnd
  | sequenceStart
  | mappingStart
  | blockEnd
  | flowSequenceStart
  | flowSequenceEnd
  | flowMappingStart
  | flowMappingEnd
  | flowEntry
  | blockEntry
  | key
  | value
  | alias (name : List Char)
  | anchor (name : List Char)
  | tag (name : TagName)
  | scalar (text : List Point) (isPlain : Bool)
  | streamEnd
  deriving DecidableEq, Repr

/-- Whether a character may stand in a name. -/
def isNameChar (c : Char) : Bool :=
  c.isAlphanum || c == '-' || c == '_'

def name? (c : Cursor) : Option (List Char × Cursor) :=
  let name := c.run isNameChar
  if name.isEmpty then none else some (name, c.skip name.length)

/-- The name after the sign of an anchor or an alias. -/
def anchorName (c : Cursor) : Option (List Char × Cursor) := do
  let (name, c) ← name? c.next
  if isGap c.head || ['?', ':', ',', ']', '\x7d', '%', '@', '\x60'].contains c.head then
    return (name, c)
  else none

/-! ### Tags -/

/-- Whether a character may stand in the text of a tag. -/
def isTagChar (c : Char) : Bool :=
  c.isAlphanum || "-;/?:@&=+$,_.!~*'()[]".toList.contains c

/-- The bytes of escapes at the start of a text, and the rest. -/
def escapedBytes : List Char → Option (List UInt8 × List Char)
  | '%' :: a :: b :: rest =>
    match Text.hexDigitValue? a, Text.hexDigitValue? b, escapedBytes rest with
    | some high, some low, some (bytes, rest) => some ((high * 16 + low).toUInt8 :: bytes, rest)
    | _, _, _ => none
  | '%' :: _ => none
  | rest => some ([], rest)

/-- The text of a tag at a cursor, its escapes read, and the cursor after it. -/
def tagText : Nat → Cursor → Option (List Char × Cursor)
  | 0, _ => none
  | fuel + 1, c =>
    let plain := c.run isTagChar
    let c := c.skip plain.length
    if c.head == '%' then
      match escapedBytes c.rest with
      | some (bytes, _) =>
        match String.fromUTF8? ⟨bytes.toArray⟩, tagText fuel (c.skip (3 * bytes.length)) with
        | some s, some (more, c) => some (plain ++ s.toList ++ more, c)
        | _, _ => none
      | none => none
    else some (plain, c)

/-- The text of a tag at a cursor, which must not be empty. -/
def tagUri (c : Cursor) : Option (List Char × Cursor) :=
  match tagText c.fuel c with
  | some ([], _) => none
  | other => other

/-- A handle at a cursor: one or two exclamation marks with a name between them. -/
def tagHandle (c : Cursor) : Option (List Char × Cursor) :=
  if c.head != '!' then none
  else if c.peek 1 == ' ' then some (['!'], c.next)
  else
    let name := c.next.run isNameChar
    let c := c.next.skip name.length
    if c.head == '!' then some ('!' :: name ++ ['!'], c.next) else none

/-- Whether the word at a cursor has a second exclamation mark. -/
def hasHandle (c : Cursor) : Bool :=
  (c.next.run fun ch => ch != '!' && !isSpaceOrEnd ch).length < c.next.rest.length &&
    (c.next.skipRun fun ch => ch != '!' && !isSpaceOrEnd ch).head == '!'

def tag (c : Cursor) : Option (TagName × Cursor) := do
  let (name, c) ←
    if c.peek 1 == '<' then do
      let (suffix, c) ← tagUri (c.skip 2)
      if c.head == '>' then some (⟨none, suffix⟩, c.next) else none
    else if isGap (c.peek 1) then some (⟨none, ['!']⟩, c.next)
    else do
      let (handle, c) ← if hasHandle c then tagHandle c else some (['!'], c.next)
      let (suffix, c) ← tagUri c
      some (⟨some handle, suffix⟩, c)
  if isSpaceOrEnd c.head then some (name, c) else none

/-! ### Directives -/

/-- The greatest number of digits of a number in a directive. -/
def maxVersionDigits : Nat := 4300

def number (c : Cursor) : Except Stop (Nat × Cursor) :=
  let digits := c.run Char.isDigit
  if digits.isEmpty then .error .malformed
  else if digits.length > maxVersionDigits then .error .longNumber
  else .ok (Text.ofDigits 10 (digits.filterMap Text.asciiDigitValue?), c.skip digits.length)

def versionDirective (c : Cursor) : Except Stop (Directive × Cursor) := do
  let (major, c) ← number c.skipSpaces
  if c.head != '.' then throw .malformed
  let (_, c) ← number c.next
  if isSpaceOrEnd c.head then return (.version major, c) else throw .malformed

/-- The handle and its meaning in a directive. -/
def tagDirective (c : Cursor) : Option (Directive × Cursor) := do
  let (handle, c) ← tagHandle c.skipSpaces
  if c.head != ' ' then none
  let (target, c) ← tagUri c.skipSpaces
  if isSpaceOrEnd c.head then some (.tag handle target, c) else none

/-- A directive at a cursor, and the cursor after its line. -/
def directive (c : Cursor) : Except Stop (Directive × Cursor) := do
  let (name, c) ← wellFormed (name? c.next)
  if !isSpaceOrEnd c.head then throw .malformed
  let (d, c) ←
    if name = "YAML".toList then versionDirective c
    else if name = "TAG".toList then wellFormed (tagDirective c)
    else pure (.other, c.skipRun (!isLineEnd ·))
  let c := c.skipSpaces.skipComment
  match c.lineBreak? with
  | some (_, c) => return (d, c)
  | none => if c.head == endMark then return (d, c) else throw .malformed

end Yaml

end PromptForm
