import PromptForm.Xml.Scan

/-!
# Tags

The markup of element content, scanned as a whole before any of it takes effect: a fault anywhere in
a tag comes before what its attributes mean.

## Main definitions

* `RawAttribute`: an attribute as it is written.
* `Markup`: what begins with a `<` in content.
* `markup`: the scanner of markup.
-/

namespace PromptForm

namespace Xml

/-- An attribute as it is written in a tag. -/
structure RawAttribute where
  name : String
  mark : Nat
  value : List Piece

inductive Markup where
  /-- A start tag, or the tag of an empty element. -/
  | startTag (name : String) (attributes : List RawAttribute) (isEmpty : Bool)
  | endTag (name : String) (mark : Nat)
  /-- The beginning of a section of character data. -/
  | cdata
  | silent
  | declaration

/-- The text from the closing quote of a value on: before it stand characters other than `<`, and
well-formed references. -/
def closingQuote (quote : Char) : Symbols → Scan Unit
  | [] => .ended
  | c :: rest =>
    if c.is quote then .found () (c :: rest)
    else if c.is '<' then .bad (c :: rest)
    else if !c.isChar then Scan.refuse (c :: rest)
    else if c.is '&' then
      match reference rest with
      | .found _ _ => closingQuote quote rest
      | .bad rest => .bad rest
      | .ended => .ended
      | .cut => .cut
    else closingQuote quote rest

/-- An attribute: a name, an equals sign and a quoted value. -/
def oneAttribute (s : Symbols) : Scan RawAttribute :=
  (qualifiedName s).andThen fun n rest =>
    (Scan.expect '=' () rest.skipSpace).andThen fun _ rest =>
      let value : Symbols := rest.skipSpace
      match value.next? with
      | none => .ended
      | some (quote, value) =>
        if quote.is '"' || quote.is '\'' then
          (closingQuote quote.char value).andThen fun _ rest =>
            .found ⟨n.text, s.mark, pieces (value.before rest)⟩ (rest.drop 1)
        else .bad rest.skipSpace

/-- What follows the name in a start tag: attributes, each after a separator, and the end. The value
tells whether the element is empty. With `fuel` at least the length of the text all of it is
scanned. -/
def tagRest : Nat → Symbols → Scan (List RawAttribute × Bool)
  | 0, _ => .ended
  | fuel + 1, s =>
    let text : Symbols := s.skipSpace
    match text.next? with
    | none => .ended
    | some (c, rest) =>
      if c.is '>' then .found ([], false) rest
      else if c.is '/' then Scan.expect '>' ([], true) rest
      else if text.mark < s.mark then
        (oneAttribute text).andThen fun a rest =>
          (tagRest fuel rest).map fun (attributes, isEmpty) => (a :: attributes, isEmpty)
      else .bad s

/-- Whether a symbol may stand in the name of an end tag behind its first symbol. -/
def isEndName (s : Symbol) : Bool := s.isNameChar || s.is ':'

def endTag (s : Symbols) : Scan Markup :=
  match s with
  | [] => .ended
  | c :: rest =>
    if c.isNameStart then
      (behindName s (rest.dropWhile isEndName)).andThen fun n rest =>
        Scan.expect '>' (.endTag n.text s.mark) rest.skipSpace
    else Scan.refuse s

/-- The number of units of a text, a stray byte aside. -/
def unitCount (s : Symbols) : Nat :=
  s.foldl (fun n c => if c.form = .stray then n else n + c.units) 0

/-- Passes the symbols that spell a word of ASCII. -/
def spelt : List Char → Symbols → Scan Unit
  | [], rest => .found () rest
  | c :: word, s =>
    match s with
    | [] => .ended
    | d :: rest => if d.is c then spelt word rest else .bad (d :: rest)

/-- The beginning of a section of character data, after its first bracket. It is compared with what
it should be only if there are six units to compare. -/
def cdataStart (s : Symbols) : Scan Markup :=
  if unitCount (s.take 6) < 6 then .ended
  else (spelt "CDATA[".toList s).map fun _ => .cdata

def markup (s : Symbols) : Scan Markup :=
  match s.next? with
  | none => .ended
  | some (c, rest) =>
    if c.is '!' then
      match rest.next? with
      | none => .ended
      | some (d, behind) =>
        if d.is '-' then (comment behind).map fun _ => .silent
        else if d.is '[' then cdataStart behind
        else .bad rest
    else if c.is '?' then
      (instruction rest).map fun declaration => if declaration then .declaration else .silent
    else if c.is '/' then endTag rest
    else
      (qualifiedName s).andThen fun n rest =>
        (tagRest (rest.mark + 1) rest).map fun (attributes, isEmpty) =>
          .startTag n.text attributes isEmpty

end Xml

end PromptForm
