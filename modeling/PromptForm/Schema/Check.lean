import PromptForm.Fault
import PromptForm.Number.Loose
import PromptForm.Schema.Basic
import PromptForm.Value

/-!
# Checking values against the shape of a schema

The parts of a schema can be built from values. A text must be given as a text; truth values and
whole numbers are also read from the usual words and numerals. Fields that are not known are
passed over, and everything that is wrong is reported, not only the first.

## Main definitions

* `Checked`: what a value is read as, or everything that is wrong with it.
* `Checked.text`, `Checked.truth`, `Checked.whole`, `Checked.listOf`: readings of single values.
* `Checked.definition`, `Checked.schema` and the like: readings of the parts of a schema.

## Design notes

`Checked` is an applicative functor that gathers issues; it is no monad, since a field is checked
whatever happened to the fields before it.
-/

namespace PromptForm

/-- What a value is read as, or everything that is wrong with it. -/
def Checked (α : Type) : Type := Except (List Issue) α

namespace Checked

variable {α β : Type}

def ok (a : α) : Checked α := Except.ok a

/-- A value that does not have the shape it should have. -/
def wrong (kind : IssueKind) : Checked α := Except.error [⟨[], kind⟩]

/-- Applies one reading to another, with the issues of both. -/
def apply (f : Checked (α → β)) (a : Checked α) : Checked β :=
  match f, a with
  | .ok f, .ok a => Except.ok (f a)
  | .ok _, .error issues => Except.error issues
  | .error issues, .ok _ => Except.error issues
  | .error issues, .error more => Except.error (issues ++ more)

instance : Applicative Checked where
  pure := ok
  seq f a := apply f (a ())

/-- The issues of a reading, one step further out. -/
def within (step : String) (a : Checked α) : Checked α :=
  match a with
  | .ok a => Except.ok a
  | .error issues => Except.error (issues.map fun issue => ⟨step :: issue.location, issue.kind⟩)

/-- The result of a reading, with its issues as a fault. -/
def toResult (a : Checked α) : Except Fault α :=
  match a with
  | .ok a => .ok a
  | .error issues => .error (.invalid issues)

/-! ### Single values -/

def text : Value → Checked String
  | .text s => ok s
  | _ => wrong .stringType

def trueWords : List String := ["true", "t", "yes", "y", "on", "1"]

def falseWords : List String := ["false", "f", "no", "n", "off", "0"]

/-- Whether a number is in the range of a machine integer of 64 bits. -/
def isMachineInt (n : Int) : Bool :=
  -Int.pow 2 63 ≤ n && n < Int.pow 2 63

/-- Whether a number is a machine integer other than the least one. A binary number may be used as a
whole number only within this range, which is symmetric. -/
def isInnerInt (n : Int) : Bool :=
  -Int.pow 2 63 < n && n < Int.pow 2 63

/-- The truth value that a number stands for. -/
def truthOfInt (n : Int) : Checked Bool :=
  if n = 0 then ok false
  else if n = 1 then ok true
  else if isMachineInt n then wrong .boolParsing
  else wrong .boolType

/-- A truth value, also as a word or as one or zero. -/
def truth : Value → Checked Bool
  | .bool b => ok b
  | .int n => truthOfInt n
  | .real x =>
    match x.toInt? with
    | some n => if isInnerInt n then truthOfInt n else wrong .boolType
    | none => wrong .boolType
  | .text s =>
    if trueWords.contains s.toLower then ok true
    else if falseWords.contains s.toLower then ok false
    else wrong .boolParsing
  | _ => wrong .boolType

def wholeOfText (s : String) : Checked Int :=
  match Loose.read s.toList with
  | .ok n => ok n
  | .error .notNumeral => wrong .intParsing
  | .error .tooLong => wrong .intParsingSize

/-- A whole number, also as a truth value, as a binary number without a fraction, or as a text. -/
def whole : Value → Checked Int
  | .int n => ok n
  | .bool b => ok (if b then 1 else 0)
  | .real x =>
    match x.toRatio? with
    | none => wrong .finiteNumber
    | some _ =>
      match x.toInt? with
      | some n => if isInnerInt n then ok n else wrong .intParsingSize
      | none => wrong .intFromFloat
  | .text s => wholeOfText s
  | _ => wrong .intType

/-- The readings of items, each under its number. -/
def itemsFrom (read : Value → Checked α) : Nat → List Value → Checked (List α)
  | _, [] => ok []
  | i, v :: vs => List.cons <$> within (toString i) (read v) <*> itemsFrom read (i + 1) vs

def listOf (read : Value → Checked α) : Value → Checked (List α)
  | .list items => itemsFrom read 0 items
  | _ => wrong .listType

def optional (read : Value → Checked α) : Value → Checked (Option α)
  | .null => ok none
  | v => some <$> read v

/-- The step of a location that a key makes: a truth value counts as a number. -/
def stepOf : Value → String
  | .bool b => if b then "1" else "0"
  | key => key.asText

/-- The readings of entries, each under its key; a key that is wrong is marked as such. -/
def entriesOf (readKey : Value → Checked α) (read : Value → Checked β) :
    List (Value × Value) → Checked (List (α × β))
  | [] => ok []
  | (key, v) :: entries =>
    let entry := within (stepOf key) (Prod.mk <$> within "[key]" (readKey key) <*> read v)
    List.cons <$> entry <*> entriesOf readKey read entries

def tableOf [BEq α] (readKey : Value → Checked α) (read : Value → Checked β) :
    Value → Checked (Table α β)
  | .mapping entries => Table.ofPairs <$> entriesOf readKey read entries
  | _ => wrong .dictType

/-! ### Fields of records -/

def record (read : List (Value × Value) → Checked α) : Value → Checked α
  | .mapping entries => read entries
  | _ => wrong .modelType

def needed (name : String) (read : Value → Checked α) (entries : List (Value × Value)) :
    Checked α :=
  within name <|
    match Value.lookup? name entries with
    | some v => read v
    | none => wrong .missing

def field (name : String) (default : α) (read : Value → Checked α)
    (entries : List (Value × Value)) : Checked α :=
  within name <|
    match Value.lookup? name entries with
    | some v => read v
    | none => ok default

/-! ### The parts of a schema -/

def metadata : Value → Checked Metadata :=
  record fun fields =>
    Metadata.mk <$> field "name" "" text fields <*> field "description" "" text fields <*>
      field "version" "" text fields <*> field "tags" [] (listOf text) fields

def choice : Value → Checked Choice :=
  record fun fields => Choice.mk <$> needed "value" text fields <*> needed "label" text fields

def lengthRules : Value → Checked LengthRules :=
  record fun fields =>
    LengthRules.mk <$> field "min_length" "" text fields <*> field "max_length" "" text fields

/-- The value that stands for the label: the name, when no label is given. -/
def labelValue (fields : List (Value × Value)) : Value :=
  match Value.lookup? "label" fields with
  | some v => if v.isTrue then v else (Value.lookup? "name" fields).getD (.text "")
  | none => (Value.lookup? "name" fields).getD (.text "")

def definition : Value → Checked Variable :=
  record fun fields =>
    Variable.mk <$> needed "name" text fields <*>
      field "type" .text (fun v => ok (Kind.ofTag v.asText)) fields <*>
      field "required" false truth fields <*> within "label" (text (labelValue fields)) <*>
      field "placeholder" "" text fields <*> field "default" "" text fields <*>
      field "min" none (optional text) fields <*> field "max" none (optional text) fields <*>
      field "step" none (optional text) fields <*> field "options" [] (listOf choice) fields <*>
      field "labels" ∅ (tableOf whole text) fields <*>
      field "validation" none (optional lengthRules) fields

def group : Value → Checked Section :=
  record fun fields =>
    Section.mk <$> field "name" "" text fields <*> field "order" 0 whole fields <*>
      field "collapsible" false truth fields <*> field "fields" [] (listOf text) fields

def layout : Value → Checked Layout :=
  record fun fields =>
    Layout.mk <$> field "theme" "default" text fields <*>
      field "layout" "vertical" text fields <*> field "sections" [] (listOf group) fields

def schemaOf (definitions : Table String Variable) : Value → Checked Schema :=
  record fun fields =>
    (fun metadata template layout? => Schema.mk metadata template definitions layout?) <$>
      field "metadata" {} metadata fields <*> field "prompt_template" "" text fields <*>
      field "ui_config" none (optional layout) fields

/-- A schema whose variables are a table by name. -/
def wholeSchema : Value → Checked Schema :=
  record fun fields =>
    (fun metadata template table layout? => Schema.mk metadata template table layout?) <$>
      field "metadata" {} metadata fields <*> field "prompt_template" "" text fields <*>
      field "variables" ∅ (tableOf text definition) fields <*>
      field "ui_config" none (optional layout) fields

def byName (definitions : List Variable) : Table String Variable :=
  Table.ofPairs (definitions.map fun v => (v.name, v))

/-- A schema whose variables are given in a list. -/
def schema (v : Value) : Except Fault Schema := do
  let definitions :=
    match v with
    | .mapping fields =>
      match Value.lookup? "variables" fields with
      | some (.list items) => items
      | _ => []
    | _ => []
  let checked ← definitions.mapM fun item => (definition item).toResult
  (schemaOf (byName checked) v).toResult

/-! ### Laws -/

@[simp] theorem seq_ok (f : α → β) (a : α) : (ok f <*> ok a : Checked β) = ok (f a) := rfl

@[simp] theorem map_ok (f : α → β) (a : α) : (f <$> ok a : Checked β) = ok (f a) := rfl

@[simp] theorem text_text (s : String) : text (.text s) = ok s := rfl

@[simp] theorem truth_bool (b : Bool) : truth (.bool b) = ok b := rfl

end Checked

end PromptForm
