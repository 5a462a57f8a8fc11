import PromptForm.Text.Quoted
import PromptForm.Yaml.Stop

/-!
# Code points of scalars

An escape gives a character by its code. Codes that belong to one half of a pair of UTF-16 are no
characters, but a scalar may hold them all the same; inside a collection they are shown escaped.

## Main definitions

* `Point`: a character, or half of a pair.
* `Point.ofCode`: the code point with a code.
* `Point.chars?`: the characters of a text without halves.
* `Point.quoted`: a text between quotes.
-/

namespace PromptForm

namespace Yaml

inductive Point where
  | char (c : Char)
  | half (code : Nat)
  deriving DecidableEq, Repr

namespace Point

def ofCode (code : Nat) : Except Stop Point :=
  if code ≥ 0x80000000 then .error .vastCharacter
  else if code ≥ 0x110000 then .error .noCharacter
  else if 0xD800 ≤ code ∧ code < 0xE000 then .ok (half code)
  else .ok (char (Char.ofNat code))

/-- The character of a code point, the replacement character for a half. -/
def toChar : Point → Char
  | char c => c
  | half _ => '\ufffd'

/-- The character of a code point, unless it is a half. -/
def char? : Point → Option Char
  | char c => some c
  | half _ => none

/-- The characters of a text, when it holds no half. -/
def chars? (s : List Point) : Option (List Char) :=
  s.mapM char?

/-- A code point inside a text quoted with `quote`. -/
def quotedPoint (quote : Char) : Point → List Char
  | char c => Text.quotedChar quote c
  | half code => '\\' :: 'u' :: Text.hexText 4 code

def quoted (s : List Point) : String :=
  let quote := Text.quoteFor (s.map toChar)
  String.ofList (quote :: s.flatMap (quotedPoint quote) ++ [quote])

/-- A character has the code point with its code. -/
theorem ofCode_toNat (c : Char) : ofCode c.toNat = .ok (char c) := by
  have valid := c.valid
  simp only [UInt32.isValidChar, Nat.isValidChar] at valid
  have bound : c.toNat < 0x110000 := by simp only [Char.toNat]; omega
  have noHalf : ¬(0xD800 ≤ c.toNat ∧ c.toNat < 0xE000) := by simp only [Char.toNat]; omega
  rw [ofCode, if_neg (by omega), if_neg (by omega), if_neg noHalf, Char.ofNat_toNat]

end Point

end Yaml

end PromptForm
