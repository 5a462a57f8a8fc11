import PromptForm.Form.Widget
import PromptForm.Json.Read
import PromptForm.Schema.Document
import PromptForm.Texts
import PromptForm.Traced

/-!
# The form of a schema

Every variable has a widget that its kind decides on, filled with its default. A layout with
sections shows the variables that its sections name, in their order; otherwise there is one section
of all variables. A name that leads to no variable is passed over with an event.

## Main definitions

* `decodeDefault`: the values that the default of a group of boxes names.
* `Widget.ofVariable`, `Field.ofVariable`: the widget of a variable, and the labelled widget.
* `Form.ofSchema`: the form of a schema, with its events.
-/

namespace PromptForm

/-! ### The default of a group of boxes -/

def textsAmong (trees : List Json.Tree) : List String :=
  trees.filterMap fun tree =>
    match tree with
    | .text s => some s
    | _ => none

/-- The values that a default names, each once: the texts of a list in JSON. Whatever is no such list
names none; only a nesting that is too deep is a fault. -/
def decodeDefault (s : String) : Except Fault (List String) :=
  if s.isEmpty then .ok []
  else
    match Json.read s with
    | .ok (.list trees) => .ok (textsAmong trees).eraseDups
    | .ok _ => .ok []
    | .error .malformed => .ok []
    | .error .tooDeep => .error .nestedTooDeep

/-- The events of decoding a default: one, when it is no JSON at all. -/
def defaultEvents (s : String) : List Event :=
  if s.isEmpty then []
  else
    match Json.read s with
    | .error .malformed => [.badDefault s]
    | _ => []

/-! ### Widgets -/

namespace Widget

/-- The identifier of the item with a value. -/
def itemId (v : Variable) (value : String) : String :=
  v.name ++ "_" ++ value

/-- The entries of a selection: an empty one first, unless a value is required. -/
def selectItems (texts : Texts) (v : Variable) : List SelectItem :=
  (if v.required then [] else [{ value := "", label := texts.selectPlaceholder }]) ++
    v.options.map fun o =>
      { value := o.value, label := o.label, selected := o.value == v.default }

/-- The boxes of a group, checked when their values are among the defaults. -/
def boxItems (defaults : List String) (v : Variable) : List ToggleItem :=
  v.options.map fun o =>
    { id := itemId v o.value, value := o.value, label := o.label,
      checked := defaults.contains o.value }

/-- The buttons of a group; each says whether the group needs a choice. -/
def radioItems (v : Variable) : List ToggleItem :=
  v.options.map fun o =>
    { id := itemId v o.value, value := o.value, label := o.label,
      checked := o.value == v.default, required := v.required }

/-- A bound, or nothing when it is missing or empty. -/
def bound? (b : Option String) : Option String :=
  b.bind nonempty?

def sliderValue (v : Variable) : String :=
  nonemptyOr v.default ((bound? v.min?).getD "0")

/-- The captions of a slider by ascending position. -/
def sliderTicks (v : Variable) : List String :=
  (v.ticks.entries.mergeSort fun s t => s.1 ≤ t.1).map Prod.snd

def ofVariable (texts : Texts) (v : Variable) : Except Fault Widget :=
  match v.kind with
  | .text =>
    .ok <| textInput v.name v.required v.placeholder (nonempty? v.default)
      (v.rules?.bind fun r => nonempty? r.minLength)
      (v.rules?.bind fun r => nonempty? r.maxLength)
  | .number =>
    .ok <| numberInput v.name v.required (nonempty? v.default) (bound? v.min?) (bound? v.max?)
      (bound? v.step?)
  | .textarea => .ok <| textArea v.name v.required v.placeholder (nonempty? v.default)
  | .select => .ok <| select v.name v.required (selectItems texts v)
  | .checkbox => .ok <| checkbox v.name v.label (v.default == "true")
  | .checkboxGroup =>
    (decodeDefault v.default).map fun defaults => checkboxGroup v.name (boxItems defaults v)
  | .range =>
    .ok <| slider v.name ((bound? v.min?).getD "0") ((bound? v.max?).getD "100") (sliderValue v)
      (texts.readout (sliderValue v)) (sliderTicks v)
  | .radio => .ok <| radioGroup v.name (radioItems v)

/-- The events of making the widget of a variable. -/
def eventsOf (v : Variable) : List Event :=
  if v.kind = .checkboxGroup then defaultEvents v.default else []

end Widget

namespace Field

def ofVariable (texts : Texts) (v : Variable) : Traced Field where
  events := Widget.eventsOf v
  result := (Widget.ofVariable texts v).map fun widget =>
    { name := v.name, label := v.displayLabel, widget }

/-- The field of a name in a section, when there is a variable of that name. -/
def ofName? (texts : Texts) (schema : Schema) (s : Section) (name : String) :
    Traced (Option Field) :=
  match schema.definitions.get? name with
  | some v => some <$> ofVariable texts v
  | none => do
    Traced.note (.unknownField s.name name)
    return none

end Field

/-! ### The form -/

namespace Form

/-- The section of a form that a section of the layout describes. -/
def groupOf (texts : Texts) (schema : Schema) (s : Section) : Traced Group := do
  let fields ← Traced.all (s.fields.map (Field.ofName? texts schema s))
  return { name? := some s.name, fields := fields.filterMap id, collapsible := s.collapsible }

/-- The section of a form without a layout. -/
def plainGroup (texts : Texts) (schema : Schema) : Traced Group := do
  let fields ← Traced.all (schema.definitions.values.map (Field.ofVariable texts))
  return { name? := none, fields }

def groupsOf (texts : Texts) (schema : Schema) : Traced (List Group) :=
  match schema.layout? with
  | some layout =>
    if layout.sections.isEmpty then Traced.all [plainGroup texts schema]
    else Traced.all (layout.ordered.map (groupOf texts schema))
  | none => Traced.all [plainGroup texts schema]

def ofSchema (texts : Texts) (schema : Schema) : Traced Form := do
  let groups ← groupsOf texts schema
  let layout := schema.layout?.getD {}
  return {
    title := schema.metadata.name
    description := schema.metadata.description
    tags := schema.metadata.tags
    theme := layout.theme
    arrangement := layout.arrangement
    groups }

end Form

end PromptForm
