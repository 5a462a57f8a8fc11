import PromptForm.Number.Numeral
import PromptForm.Schema.Basic
import PromptForm.Text.Cut
import PromptForm.Traced

/-!
# The schema of a document

A schema is read off the element tree of a document. What is looked for is found anywhere below the
root, the first in document order winning; what is missing takes its default, and what is malformed
is skipped with an event. Only the order of a section can make the reading fail, by having more
digits than a number may have.

## Main definitions

* `Schema.ofElement`: the schema of an element tree, with the events of reading it.
* `Schema.read`: the schema of a document.
* `Variable.ofElement`, `Variable.tableOf`: one variable, and all variables of a tree.
* `Layout.ofElement`: the layout of a tree.

## Design notes

The values and the events are computed by separate functions over the same list of elements: what is
read does not depend on what is recorded.
-/

namespace PromptForm

open Xml (Element)

namespace Metadata

/-- What a tree says about itself; nothing, when it has no part for it. -/
def ofElement (root : Element) : Metadata :=
  match root.find? "metadata" with
  | some e =>
    { name := e.childText "name"
      description := e.childText "description"
      version := e.childText "version"
      tags := (e.withTag "tag").map Element.innerText }
  | none => {}

end Metadata

/-- The trimmed template of a tree, empty when there is none. -/
def templateOf (root : Element) : String :=
  match root.find? "prompt_template" with
  | some e => Text.trimmed e.innerText
  | none => ""

def nonempty? (s : String) : Option String :=
  if s.isEmpty then none else some s

/-- A text, or another one when it is empty. -/
def nonemptyOr (s other : String) : String :=
  if s.isEmpty then other else s

namespace Choice

/-- The choice that an element states: without a value, its text is the value too. -/
def ofElement (e : Element) : Choice :=
  { value := nonemptyOr ((e.attribute? "value").getD "") e.innerText
    label := e.innerText }

end Choice

namespace LengthRules

def ofElement (e : Element) : LengthRules :=
  { minLength := e.childText "min_length"
    maxLength := e.childText "max_length" }

end LengthRules

namespace Variable

/-- The elements that caption positions of a range: the `label` children of `labels`. -/
def tickElements (e : Element) : List Element :=
  (e.descendants.filter (·.tag == "labels")).flatMap fun group =>
    group.children.filter (·.tag == "label")

/-- The position that an element captions, when it is a whole number. -/
def tickPosition? (e : Element) : Option Int :=
  (e.attribute? "value").bind fun s => Numeral.readInt? s.toList

/-- The position and the caption that an element states. -/
def tick? (e : Element) : Option (Int × String) :=
  (tickPosition? e).map fun position => (position, e.innerText)

/-- The captions of a range by position; of two captions at one position the later one counts. -/
def ticksOf (e : Element) : Table Int String :=
  Table.ofPairs ((tickElements e).filterMap tick?)

/-- The events of reading captions: one for each that has no whole number as its position. -/
def tickEvents (owner : String) (e : Element) : List Event :=
  ((tickElements e).filter fun tick => (tickPosition? tick).isNone).map fun tick =>
    .badTickPosition (tick.attribute? "value") owner

/-- The name that an element gives to its variable, empty when it gives none. -/
def nameOf (e : Element) : String :=
  (e.attribute? "name").getD ""

def ofElement (e : Element) : Variable :=
  { name := nameOf e
    kind := Kind.ofTag (nonemptyOr (e.childText "type") "text")
    required := e.attribute? "required" == some "true"
    label := nonemptyOr (e.childText "label") (nameOf e)
    placeholder := e.childText "placeholder"
    default := e.childText "default"
    min? := nonempty? (e.childText "min")
    max? := nonempty? (e.childText "max")
    step? := nonempty? (e.childText "step")
    options := (e.withTag "option").map Choice.ofElement
    ticks := ticksOf e
    rules? := (e.descendant? "validation").map LengthRules.ofElement }

/-- The elements that define variables, in document order, also inside one another. -/
def elements (root : Element) : List Element :=
  root.withTag "variable"

/-- The elements that define a variable with a name. -/
def namedElements (root : Element) : List Element :=
  (elements root).filter fun e => nameOf e != ""

/-- The variables of a tree by name: a repeated name keeps its place and takes the later
definition. -/
def tableOf (root : Element) : Table String Variable :=
  Table.ofPairs ((namedElements root).map fun e => (nameOf e, ofElement e))

/-- The events of reading the elements of variables, when variables of the names `seen` have come
before. -/
def eventsFrom (seen : List String) : List Element → List Event
  | [] => []
  | e :: es =>
    if nameOf e = "" then .unnamedVariable :: eventsFrom seen es
    else
      (if seen.contains (nameOf e) then [.repeatedVariable (nameOf e)] else []) ++
        tickEvents (nameOf e) e ++ eventsFrom (nameOf e :: seen) es

/-- The events of reading the variables of a tree. -/
def eventsOf (root : Element) : List Event :=
  eventsFrom [] (elements root)

end Variable

namespace Section

/-- The sign and the digits at the start of a text, after blanks, when there is a digit. -/
def leadingNumber? (s : List Char) : Option (Bool × List Nat) :=
  let (negative, rest) := Numeral.signed (Text.trimStart s)
  match Numeral.spanDigits rest with
  | ([], _) => none
  | (digits, _) => some (negative, digits)

/-- The order that a text gives to a section: the whole number at its start, or zero. -/
def orderOf (s : String) : Except Fault Int :=
  match leadingNumber? s.toList with
  | none => .ok 0
  | some (negative, digits) =>
    if digits.length ≤ Numeral.maxDigits then
      .ok (Numeral.withSign negative (Text.ofDigits 10 digits))
    else .error .numberTooLong

/-- The names between the commas of a text, trimmed, without the empty ones. -/
def fieldNames (s : String) : List String :=
  ((Text.splitOn ',' s.toList).map fun part => String.ofList (Text.trim part)).filter (· != "")

/-- The section that an element describes. -/
def ofElement (e : Element) : Except Fault Section := do
  let order ← orderOf ((e.attribute? "order").getD "")
  return {
    name := (e.attribute? "name").getD ""
    order
    collapsible := e.attribute? "collapsible" == some "true"
    fields := fieldNames (e.childText "fields") }

end Section

namespace Layout

/-- The layout of a tree, when it has one. -/
def ofElement (root : Element) : Except Fault (Option Layout) :=
  match root.find? "ui_configuration" with
  | none => .ok none
  | some e => do
    let sections ← (e.withTag "section").mapM Section.ofElement
    return some {
      theme := nonemptyOr (e.childText "theme") "default"
      arrangement := nonemptyOr (e.childText "layout") "vertical"
      sections }

end Layout

namespace Schema

/-- The schema of a tree, with the events of reading it. -/
def ofElement (root : Element) : Traced Schema where
  events := Variable.eventsOf root
  result := do
    let layout? ← Layout.ofElement root
    return {
      metadata := Metadata.ofElement root
      template := templateOf root
      definitions := Variable.tableOf root
      layout? }

def treeOf (document : Xml.Source) (source : String) : Except Fault Element :=
  (Xml.Document.read document).mapError (Fault.ofRefusal source)

/-- The schema of a document; `source` is the name under which faults and events speak of it. -/
def read (document : Xml.Source) (source : String) : Traced Schema := do
  let schema ← ofElement (← treeOf document source)
  Traced.note (.parsed schema.metadata.name source schema.definitions.size)
  return schema

end Schema

end PromptForm
