import PromptForm.Number.Numeral
import PromptForm.Number.Shortest
import PromptForm.Text.Cut
import PromptForm.Text.Quoted

/-!
# Values

What a submission holds and what the fields of a definition are given as: texts, truth values,
numbers, nothing, lists, and ordered mappings. A value names a form field when it is neither a list
nor a mapping; two names are the same when they are equal texts or equal numbers, a truth value
counting as one or zero.

## Main definitions

* `Value`: the values.
* `Value.text`: the text shown for a value.
* `Value.isTrue`: whether a value counts as true.
* `Value.isName`, `Value.same`: the values that name a field, and when two of them agree.
-/

namespace PromptForm

inductive Value where
  | null
  | bool (b : Bool)
  | int (n : Int)
  | real (x : Binary64)
  | text (s : String)
  | list (items : List Value)
  | mapping (entries : List (Value × Value))
  deriving Repr, Inhabited

namespace Value

/-- The texts one after the other, with a comma and a space between them. -/
def listed (parts : List String) : String :=
  ", ".intercalate parts

mutual

/-- The text of a value inside a list or a mapping. -/
def shown : Value → String
  | null => "None"
  | bool b => if b then "True" else "False"
  | int n => toString n
  | real x => x.text
  | text s => Text.quoted s
  | list items => "[" ++ listed (shownItems items) ++ "]"
  | mapping entries => "\x7b" ++ listed (shownEntries entries) ++ "\x7d"

def shownItems : List Value → List String
  | [] => []
  | item :: items => shown item :: shownItems items

/-- The texts of the entries of a mapping. -/
def shownEntries : List (Value × Value) → List String
  | [] => []
  | (key, value) :: entries => (shown key ++ ": " ++ shown value) :: shownEntries entries

end

/-- The text of a value on its own: a text stands for itself. -/
def asText : Value → String
  | text s => s
  | value => value.shown

/-- Whether a value counts as true: no zero, nothing empty, not nothing. -/
def isTrue : Value → Bool
  | null => false
  | bool b => b
  | int n => n != 0
  | real x => !x.isZero
  | text s => !s.isEmpty
  | list items => !items.isEmpty
  | mapping entries => !entries.isEmpty

/-- Whether a value can name a field or be a key. -/
def isName : Value → Bool
  | list _ => false
  | mapping _ => false
  | _ => true

/-- The whole number that a value equals, when there is one. -/
def wholeNumber? : Value → Option Int
  | bool b => some (if b then 1 else 0)
  | int n => some n
  | real x => x.toInt?
  | _ => none

def same : Value → Value → Bool
  | text s, text t => s == t
  | null, null => true
  | real x, real y => (x == y && x != .notNumber) || (x.isZero && y.isZero)
  | v, w =>
    match v.wholeNumber?, w.wholeNumber? with
    | some m, some n => m == n
    | _, _ => false

instance : BEq Value := ⟨same⟩

@[simp] theorem beq_text (s t : String) : (Value.text s == Value.text t) = (s == t) := rfl

@[simp] theorem asText_text (s : String) : (Value.text s).asText = s := rfl

@[simp] theorem isTrue_text (s : String) : (Value.text s).isTrue = !s.isEmpty := rfl

@[simp] theorem isTrue_bool (b : Bool) : (Value.bool b).isTrue = b := rfl

/-- The value found first under a text key. -/
def lookup? (key : String) : List (Value × Value) → Option Value
  | [] => none
  | (k, v) :: entries => if k == .text key then some v else lookup? key entries

end Value

end PromptForm
