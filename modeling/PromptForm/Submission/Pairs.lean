import PromptForm.Fault
import PromptForm.Form.Widget
import PromptForm.Table
import PromptForm.Value

/-!
# Submissions

A form submits pairs of a name and a value. A submission is given either as such pairs or as a
mapping from names to values, where several values of one name are given as a sequence, a missing
value stands for a field that submits nothing, and a number is submitted as its text.

## Main definitions

* `Submission.items`: what a submission consists of.
* `Submission.entries`: the same as names with their values, and `Submission.flatten` as pairs.
* `Form.initial`: the pairs that an untouched form submits.
* `Submission.merge`: a submission with the values of some fields replaced.
-/

namespace PromptForm

namespace Submission

/-- The elements of a value that can be gone through: the items of a list, the characters of a text,
the keys of a mapping. -/
def elements? : Value → Option (List Value)
  | .list items => some items
  | .text s => some (s.toList.map fun c => .text (String.ofList [c]))
  | .mapping entries => some (entries.map Prod.fst)
  | _ => none

/-- What a submission gives under one name at one place. -/
structure Entry where
  name : Value
  values : List Value

def Entry.pairs (entry : Entry) : List (Value × Value) :=
  entry.values.map fun value => (entry.name, value)

/-- The values that a mapping submits under a name. -/
def submitted : Value → List Value
  | .null => []
  | .text s => [.text s]
  | .bool b => [.bool b]
  | .list items => items
  | .mapping entries => entries.map Prod.fst
  | number => [.text number.asText]

def ofMapping (entries : List (Value × Value)) : List Entry :=
  entries.map fun entry => ⟨entry.1, submitted entry.2⟩

def flatten (entries : List Entry) : List (Value × Value) :=
  entries.flatMap Entry.pairs

def asValue (pair : Value × Value) : Value :=
  .list [pair.1, pair.2]

def ofPairs (pairs : List (Value × Value)) : Value :=
  .list (pairs.map asValue)

/-- The submission of entries, each of which keeps its values together. -/
def ofEntries (entries : List Entry) : Value :=
  .mapping (entries.map fun entry => (entry.name, .list entry.values))

/-- What a submission consists of: the pairs of a mapping, or else whatever the value can be gone
through for. -/
def items : Value → Except Fault (List Value)
  | .mapping entries => .ok ((flatten (ofMapping entries)).map asValue)
  | v =>
    match elements? v with
    | some items => .ok items
    | none => .error .notIterable

def unpack (item : Value) : Except Fault (Value × Value) :=
  match elements? item with
  | some [name, value] => .ok (name, value)
  | some _ => .error .notPair
  | none => .error .notIterable

/-- The entry that an item makes on its own: its first part must be a name. -/
def entry (item : Value) : Except Fault Entry := do
  let (name, value) ← unpack item
  if name.isName then return ⟨name, [value]⟩ else throw .notName

/-- The entries of a submission. The values of a mapping's entry stay together: they have one name,
also when that name is not the same as itself. Pairs are entries of their own. -/
def entries : Value → Except Fault (List Entry)
  | .mapping entries => .ok (ofMapping entries)
  | v => do (← items v).mapM entry

/-- The entries of a submission without those whose name is in `updates`, and after them the entries
of `updates`. -/
def merge (base : Value) (updates : Table Value Value) : Except Fault (List Entry) := do
  let kept := (← entries base).filter fun entry => !updates.contains entry.name
  return kept ++ ofMapping updates.entries

@[simp] theorem submitted_list (items : List Value) : submitted (.list items) = items := rfl

/-- Entries are found again in the submission made of them. -/
theorem entries_ofEntries (entries : List Entry) :
    Submission.entries (ofEntries entries) = .ok entries := by
  simp [ofEntries, Submission.entries, ofMapping, Function.comp_def]

@[simp] theorem unpack_asValue (pair : Value × Value) : unpack (asValue pair) = .ok pair := rfl

end Submission

namespace Widget

def checkedText : String := "on"

/-- The values that an untouched widget submits. -/
def initialValues : Widget → List String
  | textInput _ _ _ value? _ _ => [value?.getD ""]
  | numberInput _ _ value? _ _ _ => [value?.getD ""]
  | textArea _ _ _ value? => [value?.getD ""]
  | select _ _ items => [selectedValue items]
  | checkbox _ _ checked => if checked then [checkedText] else []
  | checkboxGroup _ items => checkedValues items
  | radioGroup _ items => (checkedValue? items).toList
  | slider _ _ _ value _ _ => [value]

end Widget

namespace Form

/-- The pairs that an untouched form submits, in the order of its fields. -/
def initial (form : Form) : List (String × String) :=
  form.fields.flatMap fun field =>
    field.widget.initialValues.map fun value => (field.widget.name, value)

def initialSubmission (form : Form) : Value :=
  Submission.ofPairs (form.initial.map fun pair => (.text pair.1, .text pair.2))

end Form

end PromptForm
