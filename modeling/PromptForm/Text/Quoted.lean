import PromptForm.Text.Printable

/-!
# Quoted texts

A text inside a list or a mapping is shown between quotes, with its backslashes, line breaks, tabs
and unprintable characters escaped. The quote is the apostrophe, unless the text holds apostrophes
and no double quote.

## Main definitions

* `hexText`: a number in lower case hexadecimal digits, padded with zeros.
* `quoted`: the quoted form of a text.
-/

namespace PromptForm

namespace Text

/-- The hexadecimal digits of a number, least significant first, `width` of them. -/
def hexDigits : Nat → Nat → List Char
  | 0, _ => []
  | width + 1, n => (Nat.digitChar (n % 16)) :: hexDigits width (n / 16)

/-- A number as `width` hexadecimal digits. -/
def hexText (width n : Nat) : List Char :=
  (hexDigits width n).reverse

/-- The quote around a text: the apostrophe, or the double quote when only that is free. -/
def quoteFor (s : List Char) : Char :=
  if s.contains '\'' && !s.contains '"' then '"' else '\''

/-- A character inside a text quoted with `quote`. -/
def quotedChar (quote c : Char) : List Char :=
  if c = quote ∨ c = '\\' then ['\\', c]
  else if c = '\t' then ['\\', 't']
  else if c = '\n' then ['\\', 'n']
  else if c = '\r' then ['\\', 'r']
  else if isPrintable c then [c]
  else if c.toNat < 0x100 then '\\' :: 'x' :: hexText 2 c.toNat
  else if c.toNat < 0x10000 then '\\' :: 'u' :: hexText 4 c.toNat
  else '\\' :: 'U' :: hexText 8 c.toNat

def quoted (s : String) : String :=
  let chars := s.toList
  let quote := quoteFor chars
  String.ofList (quote :: chars.flatMap (quotedChar quote) ++ [quote])

end Text

end PromptForm
