import PromptForm.Schema.Basic

/-!
# Widgets and forms

A form is described without regard to how it is drawn: a widget for every variable, with its label,
in sections.

## Main definitions

* `Widget`: the widgets, one constructor for each kind of variable.
* `Field`, `Group`, `Form`: a labelled widget, a section of fields, and the whole form.
* `Form.fields`: the fields of all sections in order.
-/

namespace PromptForm

structure SelectItem where
  value : String
  label : String
  selected : Bool := false
  deriving DecidableEq, Repr

structure ToggleItem where
  id : String
  value : String
  label : String
  checked : Bool := false
  /-- Whether the group must have a checked item. -/
  required : Bool := false
  deriving DecidableEq, Repr

/-- A widget; every kind has the name under which it submits its value. -/
inductive Widget where
  | textInput (name : String) (required : Bool) (placeholder : String)
      (value? minLength? maxLength? : Option String)
  | numberInput (name : String) (required : Bool) (value? min? max? step? : Option String)
  | textArea (name : String) (required : Bool) (placeholder : String) (value? : Option String)
  | select (name : String) (required : Bool) (items : List SelectItem)
  | checkbox (name caption : String) (checked : Bool)
  | checkboxGroup (name : String) (items : List ToggleItem)
  | radioGroup (name : String) (items : List ToggleItem)
  | slider (name min max value readout : String) (ticks : List String)
  deriving DecidableEq, Repr

namespace Widget

/-- The name under which a widget submits its value. -/
def name : Widget → String
  | textInput name .. => name
  | numberInput name .. => name
  | textArea name .. => name
  | select name .. => name
  | checkbox name .. => name
  | checkboxGroup name .. => name
  | radioGroup name .. => name
  | slider name .. => name

/-- The value of a selection: of the selected entry, or else of the first one. -/
def selectedValue (items : List SelectItem) : String :=
  match items.find? (·.selected) with
  | some item => item.value
  | none => (items.head?.map (·.value)).getD ""

def checkedValues (items : List ToggleItem) : List String :=
  (items.filter (·.checked)).map (·.value)

def checkedValue? (items : List ToggleItem) : Option String :=
  (items.find? (·.checked)).map (·.value)

end Widget

structure Field where
  name : String
  /-- The label, starred when a value is required. -/
  label : String
  widget : Widget
  deriving DecidableEq, Repr

/-- A section of a form; a form without a layout has one without a name. -/
structure Group where
  name? : Option String
  fields : List Field
  collapsible : Bool := false
  deriving DecidableEq, Repr

structure Form where
  title : String
  description : String
  tags : List String
  theme : String
  arrangement : String
  groups : List Group
  deriving DecidableEq, Repr

def Form.fields (form : Form) : List Field :=
  form.groups.flatMap (·.fields)

end PromptForm
