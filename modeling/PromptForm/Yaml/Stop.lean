/-!
# Why a document has no data

A text may break the grammar, its collections may be nested too deep, an escape may name no
character, and a scalar may have no value of the kind that its tag asks for.

## Main definitions

* `NoValue`: why a scalar has no value of its kind.
* `Stop`: why a text has no datum, or a datum no text.
-/

namespace PromptForm

namespace Yaml

/-- Why a scalar has no value of its kind. -/
inductive NoValue where
  | notNumber
  | emptyNumber
  /-- It has more parts of sixty than a binary number can count. -/
  | vastNumber
  | notTruth
  | notTime
  /-- A time is asked for, and a mapping is there. -/
  | timeOfMapping
  | impossibleTime
  deriving DecidableEq, Repr

/-- Why a text has no datum, or a datum no text. -/
inductive Stop where
  /-- The text does not follow the grammar, or a node does not fit its tag. -/
  | malformed
  | tooDeep
  /-- An escape has a code beyond the last character. -/
  | noCharacter
  | vastCharacter
  /-- A number has more digits than are read or written. -/
  | longNumber
  /-- A scalar has no value of the kind that its tag asks for. -/
  | noValue (cause : NoValue)
  deriving DecidableEq, Repr

/-- The outcome of a step that fails only because the text is malformed. -/
def wellFormed {α : Type} : Option α → Except Stop α
  | some a => .ok a
  | none => .error .malformed

end Yaml

end PromptForm
