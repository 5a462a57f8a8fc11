import PromptForm.Xml.Element
import PromptForm.Xml.Namespace

/-!
# Element content

The content of a document from its first start tag to the matching end tag. Elements that are open
form a stack; text goes to the innermost one. A reference to an entity is read as if the text of the
entity stood there, except that no element may begin in it and end outside or the other way round,
and that every fault in it lies at the reference.

## Main definitions

* `Builder`: the open elements.
* `Content.run`, `Content.sectionToken`: the tokens of character data.
* `Content.step`: what a text means up to its end or to the end of the outermost element.
* `content`: the element that the content of a document denotes, and the rest.

## Design notes

Every token is counted before it takes effect: markup, a reference, a line break, or a run of other
characters. A tag is one token with all its attributes. The values of a start tag in which something is
to be replaced are counted once more when they are made, not those of the tag of an empty element.
-/

namespace PromptForm

namespace Xml

structure Open where
  name : String
  tag : String
  attributes : List (String × String)
  scope : Scope
  /-- The text before the first child, once there is a child. -/
  text : String := ""
  children : List Element := []
  /-- The text since the last child or the start tag, in reverse. -/
  pending : List Char := []

namespace Open

def settle (o : Open) : Open :=
  let pending := String.ofList o.pending.reverse
  match o.children with
  | [] => { o with text := pending }
  | last :: before => { o with children := last.withTail pending :: before, pending := [] }

def addChild (o : Open) (e : Element) : Open :=
  let o := o.settle
  { o with children := e :: o.children, pending := [] }

def close (o : Open) : Element :=
  let o := o.settle
  .node o.tag o.attributes o.text o.children.reverse ""

end Open

/-- The open elements, the innermost first, the document element once it is closed, and what was read
so far. -/
structure Builder where
  opened : List Open := []
  root? : Option Element := none
  tally : Tally

namespace Builder

/-- Adds a character to the innermost element. -/
def addChar (b : Builder) (c : Char) : Builder :=
  match b.opened with
  | [] => b
  | o :: rest => { b with opened := { o with pending := c :: o.pending } :: rest }

/-- Adds characters, given in reverse, to the innermost element. -/
def addReversed (b : Builder) (cs : List Char) : Builder :=
  match b.opened with
  | [] => b
  | o :: rest => { b with opened := { o with pending := cs ++ o.pending } :: rest }

/-- The bindings inside the innermost element. -/
def scope (b : Builder) : Scope :=
  match b.opened with
  | [] => Scope.initial
  | o :: _ => o.scope

def close (b : Builder) : Builder :=
  match b.opened with
  | [] => b
  | [o] => { b with opened := [], root? := some o.close }
  | o :: parent :: rest => { b with opened := parent.addChild o.close :: rest }

end Builder

namespace Content

inductive Ending where
  /-- The text of an entity, opened with so many elements around. -/
  | entity (depth : Nat)
  | document

/-- What the tokens of a text are counted as. -/
def Ending.account : Ending → Account
  | entity _ => .entity
  | document => .document

/-- Counts a token, which reaches from a text to the rest of it. -/
def count (d : Dtd) (ending : Ending) (s rest : Symbols) (b : Builder) : Except Stop Builder :=
  let bytes := d.bytesOf ending.account (s.unitsLeft - rest.unitsLeft)
  let tally := b.tally.add ending.account bytes
  if tally.isTolerated then .ok { b with tally } else .error ⟨.tooMuchText, s.mark⟩

def finish (ending : Ending) (b : Builder) (mark : Nat) : Except Stop (Builder × Symbols) :=
  match ending with
  | .document => .error ⟨.noElement, mark⟩
  | .entity depth =>
    if b.opened.length = depth then .ok (b, []) else .error ⟨.asynchronousEntity, mark⟩

/-- Whether a symbol may stand in a run of characters. -/
def isPlain (s : Symbol) : Bool :=
  s.isChar && !(s.is '<' || s.is '&' || s.is '\n' || s.isReturn)

/-- A run of characters: those characters in reverse, behind those that were read already, and the
rest. The brackets at the end of a text are left to it, since more may come behind them. -/
def run (done : List Char) : Symbols → Except Stop (List Char × Symbols)
  | [] => .ok (done, [])
  | s :: rest =>
    if s.is ']' then
      match Symbols.next? rest with
      | none => .ok (done, s :: rest)
      | some (t, behind) =>
        if t.is ']' then
          match Symbols.next? behind with
          | none => .ok (done, s :: rest)
          | some (u, _) =>
            if u.is '>' then .error ⟨.notWellFormed, Symbols.mark behind⟩ else run (']' :: done) rest
        else run (']' :: done) rest
    else if isPlain s then run (s.char :: done) rest
    else .ok (done, s :: rest)

/-- Why no token begins with a symbol. -/
def refuse {α : Type} (unclosed : Cause) (s : Symbol) : Except Stop α :=
  match s.form with
  | .stray => .error ⟨unclosed, s.left⟩
  | .cut => .error ⟨.partialCharacter, s.left⟩
  | _ => .error ⟨.notWellFormed, s.left⟩

/-- Whether a symbol may stand in a run of characters in a section of character data. -/
def isPlainInSection (s : Symbol) : Bool :=
  s.isChar && !(s.is ']' || s.is '\n' || s.isReturn)

/-- The first token of a section of character data and the rest: characters in reverse, with a line
break as a line feed, or nothing at the end of the section. -/
def sectionToken : Symbols → Except Stop (Option (List Char) × Symbols)
  | [] => .error ⟨.unclosedCdata, 0⟩
  | s :: rest =>
    let plain : Symbols := rest.takeWhile isPlainInSection
    let found := (some (plain.chars.reverse ++ [s.char]), rest.drop plain.length)
    if s.is ']' then
      match Symbols.next? rest with
      | none => .error ⟨.unclosedCdata, s.left⟩
      | some (t, behind) =>
        if t.is ']' then
          match Symbols.next? behind with
          | none => .error ⟨.unclosedCdata, s.left⟩
          | some (u, behind) => .ok (if u.is '>' then (none, behind) else found)
        else .ok found
    else if s.isReturn then
      if (Symbols.next? rest).isNone then .error ⟨.unclosedCdata, s.left⟩
      else .ok (some ['\n'], skipLineFeed rest)
    else if s.is '\n' then .ok (some ['\n'], rest)
    else if s.isChar then .ok found
    else refuse .unclosedCdata s

/-- The rest of a section of character data. With `fuel` above the length of the text all of it is
read. -/
def cdata (d : Dtd) (ending : Ending) :
    (fuel : Nat) → Symbols → Builder → Except Stop (Builder × Symbols)
  | 0, s, _ => .error ⟨.unclosedCdata, s.mark⟩
  | fuel + 1, s, b => do
    let (token?, rest) ← sectionToken s
    let b ← count d ending s rest b
    match token? with
    | none => return (b, rest)
    | some cs => cdata d ending fuel rest (b.addReversed cs)

/-- How many bytes of a reference its fault shows. -/
def shownBytes : Nat := 100

/-- The characters of a text that fit into a number of bytes, with a replacement character for one
that fits in part. -/
def fitting : Nat → List Char → List Char
  | _, [] => []
  | 0, _ => []
  | n + 1, c :: rest =>
    if c.utf8Size ≤ n + 1 then c :: fitting (n + 1 - c.utf8Size) rest else [Symbol.noChar]

/-- How the text of an entity is read: the entities around it, its text, and what is built so far. -/
abbrev Reader := List String → Symbols → Builder → Except Stop (Builder × Symbols)

/-- What an entity reference in content means, given how the text of an entity is read. -/
def entityReference (d : Dtd) (opened : List String) (inner : Reader) (b : Builder)
    (name : String) (mark : Nat) : Except Stop Builder :=
  let shown := fitting shownBytes ('&' :: name.toList ++ [';'])
  let undefined : Except Stop Builder := .error ⟨.undefinedReference (String.ofList shown), mark⟩
  match Dtd.predefined? name with
  | some c => .ok { b.addChar c with tally := b.tally.add .entity 1 }
  | none =>
    match d.entities.get? name with
    | none => if d.isComplete then .error ⟨.undefinedEntity, mark⟩ else undefined
    | some entity =>
      if opened.contains name then .error ⟨.recursiveReference, mark⟩
      else
        match entity with
        | .unparsed => .error ⟨.binaryEntityReference, mark⟩
        | .outer => undefined
        | .inner text =>
          match inner (name :: opened) text b with
          | .ok (b, _) => .ok b
          | .error s => .error (Dtd.relocate mark s)

/-- What markup means: the elements that are open after it. An end tag in the text of an entity may
not close an element that began outside. -/
def markupMeaning (d : Dtd) (ending : Ending) (opened : List String) (mark : Nat) (b : Builder) :
    Markup → Except Stop Builder
  | .silent => .ok b
  | .cdata => .ok b
  | .declaration => .error ⟨.misplacedDeclaration, mark⟩
  | .startTag name attributes isEmpty => do
    let account := if isEmpty then .none else ending.account
    let e ← b.scope.enter d opened account b.tally mark name attributes
    let entered : Open := { name, tag := e.tag, attributes := e.attributes, scope := e.scope }
    let b := { b with opened := entered :: b.opened, tally := e.tally }
    return if isEmpty then b.close else b
  | .endTag name place =>
    let outside :=
      match ending with
      | .entity depth => decide (b.opened.length ≤ depth)
      | .document => false
    if outside then .error ⟨.asynchronousEntity, mark⟩
    else if (b.opened.head?.map (·.name)) ≠ some name then .error ⟨.mismatchedTag, place⟩
    else .ok b.close

/-- What a text means up to its end, or up to the end of the document element. With `fuel` above the
length of the text all of it is read. -/
def step (d : Dtd) (ending : Ending) (opened : List String) (inner : Reader) :
    (fuel : Nat) → Symbols → Builder → Except Stop (Builder × Symbols)
  | 0, s, _ => .error ⟨.unclosedToken, s.mark⟩
  | _ + 1, [], b => finish ending b 0
  | fuel + 1, s :: rest, b =>
    if s.is '<' then do
      let (m, behind) ← (markup rest).result s.left
      let b ← count d ending (s :: rest) behind b
      match m with
      | .cdata =>
        let (b, behind) ← cdata d ending (behind.mark + 1) behind b
        step d ending opened inner fuel behind b
      | m =>
        let b ← markupMeaning d ending opened s.left b m
        if b.opened.isEmpty && b.root?.isSome then return (b, behind)
        else step d ending opened inner fuel behind b
    else if s.is '&' then do
      let (r, behind) ← (reference rest).result s.left
      let b ← count d ending (s :: rest) behind b
      match r with
      | .character none => throw ⟨.badCharacterNumber, s.left⟩
      | .character (some c) => step d ending opened inner fuel behind (b.addChar c)
      | .entity name =>
        let b ← entityReference d opened inner b name s.left
        step d ending opened inner fuel behind b
    else if s.isReturn then do
      let isLast := (Symbols.next? rest).isNone
      let behind := if isLast then [] else skipLineFeed rest
      let b ← count d ending (s :: rest) behind b
      if isLast then finish ending (b.addChar '\n') s.left
      else step d ending opened inner fuel behind (b.addChar '\n')
    else if s.is '\n' then do
      let b ← count d ending (s :: rest) rest b
      step d ending opened inner fuel rest (b.addChar '\n')
    else do
      let (cs, behind) ← run [] (s :: rest)
      if !cs.isEmpty then
        let b ← count d ending (s :: rest) behind b
        step d ending opened inner fuel behind (b.addReversed cs)
      else if s.is ']' then
        let b ← count d ending (s :: rest) [] b
        finish ending (b.addReversed (Symbols.chars (s :: rest)).reverse) 0
      else refuse .unclosedToken s

/-- What the text of an entity means, with references nested at most `depth` deep in it. -/
def entityText (d : Dtd) : (depth : Nat) → Reader
  | 0, _, _, _ => .error ⟨.recursiveReference, 0⟩
  | depth + 1, opened, text, b =>
    step d (.entity b.opened.length) opened (entityText d depth) (text.length + 1) text b

end Content

/-- The document element that content denotes, what follows it, and what was read up to there. -/
def content (d : Dtd) (s : Symbols) : Except Stop (Element × Symbols × Tally) := do
  let b : Builder := { tally := d.tallyBefore s }
  let (b, rest) ←
    Content.step d .document [] (Content.entityText d (d.entities.size + 1)) (s.length + 1) s b
  match b.root? with
  | some root => return (root, rest, b.tally)
  | none => .error ⟨.noElement, rest.mark⟩

end Xml

end PromptForm
