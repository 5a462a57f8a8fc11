import PromptForm.Text.Quoted

/-!
# Writing JSON

JSON texts denote trees. A tree is written on one line, without or with blanks after its
separators, or with a line for every item. Characters beyond ASCII stay as they are; only quotes,
backslashes and control characters are escaped, with the short escapes where there are any.

## Main definitions

* `Tree`: the trees.
* `Style`: how a tree is laid out.
* `Tree.write`: the text of a tree in a style.
-/

namespace PromptForm

namespace Json

/-- What a JSON text denotes. A number is kept as it is written. Half of a surrogate pair makes a text
a fragment, which is kept as its code points. -/
inductive Tree where
  | null
  | bool (b : Bool)
  | number (numeral : String)
  | text (s : String)
  | fragment (codes : List Nat)
  | list (items : List Tree)
  | object (entries : List (String × Tree))
  deriving Repr, Inhabited

inductive Style where
  | compact
  /-- On one line, with a blank after each separator. -/
  | spaced
  /-- A line for every item, with so many blanks for each level. -/
  | indented (width : Nat)
  deriving DecidableEq, Repr

namespace Style

/-- What stands before an item at a level. -/
def lineBreak (level : Nat) : Style → List Char
  | indented width => '\n' :: List.replicate (width * level) ' '
  | _ => []

/-- What stands between two items at a level. -/
def comma (level : Nat) : Style → List Char
  | compact => [',']
  | spaced => [',', ' ']
  | indented width => ',' :: lineBreak level (indented width)

/-- What stands between a key and its value. -/
def colon : Style → List Char
  | compact => [':']
  | _ => [':', ' ']

end Style

def escaped (c : Char) : List Char :=
  if c = '"' then ['\\', '"']
  else if c = '\\' then ['\\', '\\']
  else if c = '\n' then ['\\', 'n']
  else if c = '\r' then ['\\', 'r']
  else if c = '\t' then ['\\', 't']
  else if c.toNat = 8 then ['\\', 'b']
  else if c.toNat = 12 then ['\\', 'f']
  else if c.toNat < 0x20 then '\\' :: 'u' :: Text.hexText 4 c.toNat
  else [c]

/-- A code point inside a text, a surrogate by its number. -/
def escapedCode (code : Nat) : List Char :=
  if 0xD800 ≤ code ∧ code < 0xE000 then '\\' :: 'u' :: Text.hexText 4 code
  else escaped (Char.ofNat code)

def quoted (s : List Char) : List Char :=
  '"' :: s.flatMap escaped ++ ['"']

namespace Tree

mutual

/-- The text of a tree that stands at a level. -/
def write (style : Style) (level : Nat) : Tree → List Char
  | null => "null".toList
  | bool b => if b then "true".toList else "false".toList
  | number numeral => numeral.toList
  | text s => quoted s.toList
  | fragment codes => '"' :: codes.flatMap escapedCode ++ ['"']
  | list [] => ['[', ']']
  | list (item :: items) =>
    '[' :: style.lineBreak (level + 1) ++ write style (level + 1) item ++
      writeItems style (level + 1) items ++ style.lineBreak level ++ [']']
  | object [] => ['\x7b', '\x7d']
  | object ((key, value) :: entries) =>
    '\x7b' :: style.lineBreak (level + 1) ++ quoted key.toList ++ style.colon ++
      write style (level + 1) value ++ writeEntries style (level + 1) entries ++
      style.lineBreak level ++ ['\x7d']

/-- The texts of the items after the first one, each after a comma. -/
def writeItems (style : Style) (level : Nat) : List Tree → List Char
  | [] => []
  | item :: items => style.comma level ++ write style level item ++ writeItems style level items

/-- The texts of the entries after the first one, each after a comma. -/
def writeEntries (style : Style) (level : Nat) : List (String × Tree) → List Char
  | [] => []
  | (key, value) :: entries =>
    style.comma level ++ quoted key.toList ++ style.colon ++ write style level value ++
      writeEntries style level entries

end

def toText (style : Style) (tree : Tree) : String :=
  String.ofList (tree.write style 0)

end Tree

end Json

end PromptForm
