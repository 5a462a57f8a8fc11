import PromptForm.Xml.Name

/-!
# Symbols

A document is read symbol by symbol. A symbol is what one or more units of the encoding denote: a
character, or one of the ways in which units can fail to denote one. Scanners treat the failures
differently, and they also tell characters of a single unit from others, so a symbol keeps both. It
also knows how many symbols and units follow, which makes its place in the document cheap to tell.

## Main definitions

* `Symbol`: the symbols, with their `Form`.
* `Symbol.is`, `Symbol.isSpace`, `Symbol.isNameStart`, `Symbol.isNameChar`: classes of symbols.
* `Symbol.isReturn`: the carriage returns that end lines.
* `Symbols`: a text of symbols; `Symbols.mark` is its length, by which places are told.
* `Symbols.ofChars`: the symbols of characters.
-/

namespace PromptForm

namespace Xml

inductive Form where
  /-- One unit: an ASCII character, or a character of a code page. -/
  | single
  /-- One unit, the number of which is that of one of the first 256 characters. -/
  | latin
  /-- Several units, or a unit for a character beyond the first 256. -/
  | composed
  /-- Units of which the first one calls for others than the ones that follow. -/
  | spoilt
  /-- A unit that denotes no character, or none that a document may hold. -/
  | illegal
  /-- The last units, of which the first one calls for more. -/
  | cut
  | stray
  /-- A carriage return in the text of an entity, where it ends no line. -/
  | bare
  deriving DecidableEq, Repr

structure Symbol where
  /-- The character, or a stand-in when there is none. -/
  char : Char
  form : Form
  units : Nat
  /-- The number of symbols from this one to the end of the text. -/
  left : Nat := 0
  /-- The number of their units. -/
  unitsLeft : Nat := 0
  deriving Repr

namespace Symbol

/-- The stand-in for a character where there is none. -/
def noChar : Char := '\ufffd'

def faulty (form : Form) (units : Nat) : Symbol := { char := noChar, form, units }

/-- The symbol of a character in a form, when a document may hold that character. -/
def ofChar (form : Form) (units : Nat) (c : Char) : Symbol :=
  if isLegal c then { char := c, form, units } else faulty .illegal units

/-- The symbol of the character with a number. -/
def ofNat (form : Form) (units n : Nat) : Symbol :=
  if n < 0x110000 ∧ ¬(0xD800 ≤ n ∧ n < 0xE000) then ofChar form units (Char.ofNat n)
  else faulty .illegal units

/-- Whether the symbol is a character of ASCII. -/
def is (c : Char) (s : Symbol) : Bool := s.char == c

def isChar (s : Symbol) : Bool :=
  match s.form with
  | .single | .latin | .composed | .bare => true
  | _ => false

/-- Whether the symbol is a carriage return that ends a line. -/
def isReturn (s : Symbol) : Bool := s.is '\r' && s.form != .bare

/-- Whether the symbol begins like one of several units, or is a unit beyond the first 256
characters. -/
def isCompound (s : Symbol) : Bool :=
  match s.form with
  | .composed | .spoilt | .cut => true
  | _ => false

def isSpace (s : Symbol) : Bool := Xml.isSpace s.char

/-- Whether the symbol begins a name. Among the first 256 characters that are told by their number
alone there are three letters more. -/
def isNameStart (s : Symbol) : Bool :=
  match s.form with
  | .single | .composed => Xml.isNameStart s.char
  | .latin => Xml.isNameStart s.char || ['\u00aa', '\u00b5', '\u00ba'].contains s.char
  | _ => false

def isNameChar (s : Symbol) : Bool :=
  match s.form with
  | .single | .composed => Xml.isNameChar s.char
  | .latin => Xml.isNameChar s.char || ['\u00aa', '\u00b5', '\u00ba'].contains s.char
  | _ => false

/-- Whether the symbol is a letter of one unit, as a keyword has them. -/
def isKeywordLetter (s : Symbol) : Bool := s.isNameStart && !s.isCompound

end Symbol

/-- A text of symbols, each of which knows how many there are from it to the end. -/
abbrev Symbols := List Symbol

namespace Symbols

/-- The number of symbols that are left: the mark of the place where a text begins. -/
def mark : Symbols → Nat
  | [] => 0
  | s :: _ => s.left

/-- The number of units that are left. -/
def unitsLeft : Symbols → Nat
  | [] => 0
  | s :: _ => s.unitsLeft

/-- A text, given in reverse, with the numbers of what is left filled in. -/
def numbered (reversed : List Symbol) : Symbols :=
  reversed.foldl (fun text s =>
    { s with left := text.mark + 1, unitsLeft := text.unitsLeft + s.units } :: text) []

/-- The number of units of a character in UTF-8. -/
def unitsOf (c : Char) : Nat := c.utf8Size

/-- The form of a character in the text of an entity. -/
def formOf (c : Char) : Form :=
  if c = '\r' then .bare else if c.toNat < 0x80 then .single else .composed

/-- The text of an entity, as it is in UTF-8. -/
def ofChars (s : List Char) : Symbols :=
  numbered <| s.foldl (fun reversed c => Symbol.ofChar (formOf c) (unitsOf c) c :: reversed) []

def chars (s : Symbols) : List Char := s.map Symbol.char

def text (s : Symbols) : String := String.ofList s.chars

/-- The symbols before a text that ends another one. -/
def before (s suffix : Symbols) : Symbols := s.take (s.mark - suffix.mark)

/-- The number of units of a text. -/
def units (s : Symbols) : Nat := s.foldl (fun n c => n + c.units) 0

/-- The text without its leading separators. -/
def skipSpace (s : Symbols) : Symbols := s.dropWhile Symbol.isSpace

/-- Whether the text is spelt in some characters of ASCII. -/
def spells (s : Symbols) (word : String) : Bool := s.chars == word.toList

@[simp] theorem mark_nil : mark [] = 0 := rfl

@[simp] theorem chars_nil : chars [] = [] := rfl

@[simp] theorem chars_cons (c : Symbol) (s : Symbols) : chars (c :: s) = c.char :: chars s := rfl

end Symbols

end Xml

end PromptForm
