import PromptForm.Number.Binary64

/-!
# How much text a document may expand to

Texts of entities can make a document many times as long as it is written. From eight mebibytes on, all
the text that was read may be at most a hundred times the part of the document that was read. Both are
counted in bytes, token after token.

## Main definitions

* `Tally`: the bytes that were read so far.
* `Tally.add`: counts a token on an `Account`.
* `Tally.isTolerated`: whether what was read is in proportion.

## Design notes

The text of an entity is counted each time it is read, and the character of a predefined entity counts as
such a text, besides the reference to it.

The factor is a number of single precision, and so are the two counts that it is the quotient of. It is
at most one hundred when the exact quotient of the rounded counts does not pass one hundred by more than
half the distance to the next number, `2 ^ (-18)`.
-/

namespace PromptForm

namespace Xml

/-- The bytes that were read so far. -/
structure Tally where
  /-- Those of the document itself. -/
  direct : Nat
  /-- Those of the texts of entities. -/
  indirect : Nat

/-- What a token is counted as. -/
inductive Account where
  /-- As nothing, because it is part of a token that was counted. -/
  | none
  | document
  | entity
  deriving DecidableEq, Repr

namespace Tally

/-- The number of bytes from which on the proportion counts. -/
def threshold : Nat := 8388608

/-- A count in single precision: 24 binary digits. -/
def single (n : Nat) : Nat :=
  let unit := Nat.pow 2 (n.log2 - 23)
  Binary64.roundDiv n unit * unit

def isTolerated (t : Tally) : Bool :=
  let output := t.direct + t.indirect
  output < threshold || single output * Nat.pow 2 18 ≤ single t.direct * (100 * Nat.pow 2 18 + 1)

def add (account : Account) (bytes : Nat) (t : Tally) : Tally :=
  match account with
  | .none => t
  | .document => { t with direct := t.direct + bytes }
  | .entity => { t with indirect := t.indirect + bytes }

end Tally

end Xml

end PromptForm
