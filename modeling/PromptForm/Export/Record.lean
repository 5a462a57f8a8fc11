import PromptForm.Export.Moment
import PromptForm.Json.Write
import PromptForm.Schema.Check
import PromptForm.Submission.Collect

/-!
# Export records

A record keeps what went into a prompt and what came out: who the schema is, the form data, the
prompt, and the moment. It is written as a JSON object. A value of the form data must be a text, a
list of texts, or a truth value.

## Main definitions

* `Export.FieldValue`: the values that a record can hold.
* `Export.Record`: the records; `Export.Record.check` makes one.
* `Export.Record.toTree`, `Export.Record.toJson`: a record as JSON.
* `Export.Record.fileName`: the name under which it is saved.
-/

namespace PromptForm

namespace Export

inductive FieldValue where
  | text (s : String)
  | texts (items : List String)
  | truth (b : Bool)
  deriving DecidableEq, Repr

/-- What a value is in a record: the first of text, list of texts and truth value that it can be
read as. -/
def fieldValue (v : Value) : Checked FieldValue :=
  match Checked.text v, Checked.listOf Checked.text v, Checked.truth v with
  | .ok s, _, _ => Checked.ok (.text s)
  | _, .ok items, _ => Checked.ok (.texts items)
  | _, _, .ok b => Checked.ok (.truth b)
  | .error _, .error _, .error _ =>
    (fun _ _ b => .truth b) <$> Checked.within "str" (Checked.text v) <*>
      Checked.within "list[str]" (Checked.listOf Checked.text v) <*>
      Checked.within "bool" (Checked.truth v)

structure Record where
  metadata : Metadata
  formData : Table String FieldValue
  prompt : String
  moment : Moment
  deriving DecidableEq, Repr

/-- The names under which the fields of a record are given. -/
inductive Naming where
  | underscored
  /-- Words joined by capitals, as in the JSON object. -/
  | capitalized
  deriving DecidableEq, Repr

namespace Naming

def formData : Naming → String
  | underscored => "form_data"
  | capitalized => "formData"

def prompt : Naming → String
  | underscored => "generated_prompt"
  | capitalized => "generatedPrompt"

end Naming

namespace Record

def check (naming : Naming) (metadata : Metadata) (formData prompt : Value) (moment : Moment) :
    Checked Record :=
  (fun formData prompt => Record.mk metadata formData prompt moment) <$>
    Checked.within naming.formData (Checked.tableOf Checked.text fieldValue formData) <*>
    Checked.within naming.prompt (Checked.text prompt)

def ofFormData (metadata : Metadata) (data : FormData) (prompt : String) (moment : Moment) :
    Except Fault Record :=
  (check .underscored metadata (.mapping data.entries) (.text prompt) moment).toResult

end Record

def FieldValue.toTree : FieldValue → Json.Tree
  | text s => .text s
  | texts items => .list (items.map .text)
  | truth b => .bool b

/-- What a schema says about itself as JSON. -/
def metadataTree (m : Metadata) : Json.Tree :=
  .object [("name", .text m.name), ("description", .text m.description),
    ("version", .text m.version), ("tags", .list (m.tags.map .text))]

namespace Record

/-- The entries of a record, the moment apart. -/
def timelessEntries (r : Record) : List (String × Json.Tree) :=
  [("metadata", metadataTree r.metadata),
    ("formData", .object (r.formData.entries.map fun entry => (entry.1, entry.2.toTree))),
    ("generatedPrompt", .text r.prompt)]

/-- A record as JSON, unless its moment cannot be written. -/
def toTree (r : Record) : Except Fault Json.Tree :=
  match r.moment.stamp with
  | .ok stamp => .ok (.object (r.timelessEntries ++ [("timestamp", .text stamp)]))
  | .error _ => .error .recordNotWritable

/-- The layout of a record: on one line without an indentation, else with a line for every item. No
line can be indented by less than nothing, nor by more than a machine word tells. -/
def layout (indent? : Option Int) : Except Fault Json.Style :=
  match indent? with
  | none => .ok .compact
  | some n =>
    if 0 ≤ n ∧ n < 18446744073709551616 then .ok (.indented n.toNat) else .error .impossibleIndent

def toJson (indent? : Option Int) (r : Record) : Except Fault String := do
  let style ← layout indent?
  return (← r.toTree).toText style

/-- The name under which a record is saved. -/
def fileName (r : Record) : String :=
  "metaprompt_" ++ toString r.moment.epochMillis ++ ".json"

end Record

end Export

end PromptForm
