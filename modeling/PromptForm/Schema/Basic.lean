import PromptForm.Table
import PromptForm.Text.Blank

/-!
# Schemas

A schema holds what a document says about one prompt: who it is, the template, the variables that
fill it, and hints for the layout of a form. Whatever a document leaves out has a default.

## Main definitions

* `Kind`: the kinds of variables, with their tags; an unknown tag means a text.
* `Variable`, `Section`, `Layout`, `Metadata`: the parts of a schema.
* `Schema`: a schema.
* `Layout.ordered`: the sections in the order in which they are shown.
-/

namespace PromptForm

inductive Kind where
  | text
  | number
  | textarea
  | select
  | checkbox
  | checkboxGroup
  | range
  | radio
  deriving DecidableEq, Repr

namespace Kind

/-- The kinds, in the order of their definition. -/
def all : List Kind := [text, number, textarea, select, checkbox, checkboxGroup, range, radio]

def tag : Kind → String
  | text => "text"
  | number => "number"
  | textarea => "textarea"
  | select => "select"
  | checkbox => "checkbox"
  | checkboxGroup => "checkbox_group"
  | range => "range"
  | radio => "radio"

/-- The kind with a tag, blanks around it aside; an unknown tag means a text. -/
def ofTag (s : String) : Kind :=
  (all.find? (·.tag == Text.trimmed s)).getD .text

end Kind

structure Metadata where
  name : String := ""
  description : String := ""
  version : String := ""
  tags : List String := []
  deriving DecidableEq, Repr

structure Choice where
  value : String
  label : String
  deriving DecidableEq, Repr

/-- Bounds on the length of a text, as they are written. -/
structure LengthRules where
  minLength : String := ""
  maxLength : String := ""
  deriving DecidableEq, Repr

structure Variable where
  /-- The name, which is also the token in the template. -/
  name : String
  kind : Kind := .text
  required : Bool := false
  label : String := ""
  placeholder : String := ""
  /-- The value before anything is entered; its meaning depends on the kind. -/
  default : String := ""
  min? : Option String := none
  max? : Option String := none
  step? : Option String := none
  options : List Choice := []
  ticks : Table Int String := ∅
  rules? : Option LengthRules := none
  deriving DecidableEq, Repr

/-- The label as it is shown, starred when a value is required. -/
def Variable.displayLabel (v : Variable) : String :=
  if v.required then v.label ++ " *" else v.label

/-- A named group of variables in the layout. -/
structure Section where
  name : String := ""
  order : Int := 0
  collapsible : Bool := false
  fields : List String := []
  deriving DecidableEq, Repr

structure Layout where
  theme : String := "default"
  arrangement : String := "vertical"
  /-- The sections, in the order of the document. -/
  sections : List Section := []
  deriving DecidableEq, Repr

/-- The sections by ascending order; equal orders stay as they are in the document. -/
def Layout.ordered (l : Layout) : List Section :=
  l.sections.mergeSort fun s t => s.order ≤ t.order

structure Schema where
  metadata : Metadata := {}
  template : String := ""
  /-- The definitions of the variables by name, in order. -/
  definitions : Table String Variable := ∅
  layout? : Option Layout := none
  deriving DecidableEq, Repr

end PromptForm
