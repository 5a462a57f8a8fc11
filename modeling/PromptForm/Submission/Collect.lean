import PromptForm.Schema.Basic
import PromptForm.Submission.Pairs

/-!
# Collecting a submission

The entries of a submission become form data in two passes. The first pass keeps every value under its
name, several values of one name as a list. The second one goes by the definitions of the variables:
a box has a truth value, and a group of boxes the list of its checked values in the order of the
choices, whatever was submitted and even when nothing was.

## Main definitions

* `FormData`: values by name, in order.
* `FormData.gather`: the first pass.
* `FormData.settle`: the second pass for one variable.
* `FormData.collect`: both passes.
-/

namespace PromptForm

/-- The values of a form by name, in order. -/
abbrev FormData := Table Value Value

namespace FormData

/-- The texts that a box submits when it is not checked. -/
def uncheckedTexts : List String := ["", "false", "off", "0"]

/-- Whether a submitted value means that a box is checked. -/
def isChecked : Value → Bool
  | .bool b => b
  | v => !uncheckedTexts.contains (Text.trimmed v.asText).toLower

/-- What is kept of a value that comes after another one of the same name. -/
def joined (before value : Value) : Value :=
  match before with
  | .list values => .list (values ++ [value])
  | _ => .list [before, value]

/-- What is kept of a value that comes after what was kept so far, if anything was. -/
def keep (before? : Option Value) (value : Value) : Option Value :=
  some (before?.elim value fun before => joined before value)

/-- The form data with a submitted entry added. -/
def add (data : FormData) (entry : Submission.Entry) : FormData :=
  match entry.values.foldl keep (data.get? entry.name) with
  | some value => data.put entry.name value
  | none => data

/-- The values of entries under their names, several values of one name as a list. -/
def gather (entries : List Submission.Entry) : FormData :=
  entries.foldl add ∅

def valuesOf (name : String) (pairs : List (Value × Value)) : List Value :=
  (pairs.filter fun pair => pair.1 == .text name).map Prod.snd

/-- The values of the choices that were submitted, in the order of the choices. -/
def checkedChoices (v : Variable) (submitted : List Value) : List Value :=
  ((v.options.filter fun o => submitted.any (· == .text o.value)).map fun o => .text o.value)

/-- The form data with the value of a variable that its kind decides on. The values of a group of
boxes are looked up, so that each must be one that can be a name. -/
def settle (pairs : List (Value × Value)) (data : FormData) (entry : String × Variable) :
    Except Fault FormData :=
  let submitted := valuesOf entry.1 pairs
  match entry.2.kind with
  | .checkboxGroup =>
    if submitted.all Value.isName then
      .ok (data.put (.text entry.1) (.list (checkedChoices entry.2 submitted)))
    else .error .notName
  | .checkbox => .ok (data.put (.text entry.1) (.bool (submitted.any isChecked)))
  | _ => .ok data

def ofEntries (definitions : Table String Variable) (entries : List Submission.Entry) :
    Except Fault FormData :=
  definitions.entries.foldlM (settle (Submission.flatten entries)) (gather entries)

def collect (definitions : Table String Variable) (submission : Value) : Except Fault FormData := do
  ofEntries definitions (← Submission.entries submission)

end FormData

end PromptForm
