import PromptForm.Asset
import PromptForm.Export.Record
import PromptForm.Form.Render
import PromptForm.Submission.Collect
import PromptForm.Template.Compile

/-!
# Sessions

A session has at most one current schema and the texts of a locale. Loading a document replaces the
current schema when it succeeds and leaves it alone when it fails; every other command only uses it.

## Main definitions

* `Session`: the state.
* `Session.Command`, `Session.Outcome`: what can be asked for, and what comes of it.
* `Session.perform`, `Session.after`: the outcome of a command, and the state after it.
* `Session.run`: the state after several commands.
-/

namespace PromptForm

/-- The current schema, if any, and the texts of a locale. -/
structure Session where
  schema? : Option Schema := none
  texts : Texts := {}
  deriving DecidableEq, Repr

namespace Session

def schema (s : Session) : Except Fault Schema :=
  match s.schema? with
  | some schema => .ok schema
  | none => .error (.asset ⟨none, "no schema loaded"⟩)

def form (s : Session) : Traced Form := do
  Form.ofSchema s.texts (← s.schema)

def collect (s : Session) (submission : Value) : Except Fault FormData := do
  FormData.collect (← s.schema).definitions submission

def compile (s : Session) (data : FormData) : Traced String := do
  Template.compileTraced s.texts data (← s.schema).template

def generate (s : Session) (submission : Value) : Traced String := do
  s.compile (← s.collect submission)

/-- The record of a submission at a moment. -/
def record (s : Session) (submission : Value) (moment : Moment) : Traced Export.Record := do
  let data ← s.collect submission
  let schema ← s.schema
  let prompt ← s.compile data
  let record ← Export.Record.ofFormData schema.metadata data prompt moment
  Traced.note (.exported schema.metadata.name)
  return record

inductive Command where
  | loadFile (files : Asset.Files) (request : Asset.Request)
  | loadText (document : Xml.Source) (source : String)
  | render
  | submitDefault
  | collect (submission : Value)
  | compile (data : FormData)
  | generate (submission : Value)
  | record (submission : Value) (moment : Moment)

inductive Outcome where
  | schema (s : Schema)
  | form (f : Form)
  | pairs (l : List (String × String))
  | data (d : FormData)
  | prompt (s : String)
  | record (r : Export.Record)

/-- The schema that a command loads, for the commands that load one. -/
def loading? : Command → Option (Traced Schema)
  | .loadFile files request => some (Schema.load files request)
  | .loadText document source => some (Schema.read document source)
  | _ => none

def perform (s : Session) : Command → Traced Outcome
  | .loadFile files request => .schema <$> Schema.load files request
  | .loadText document source => .schema <$> Schema.read document source
  | .render => .form <$> s.form
  | .submitDefault => (fun form => .pairs form.initial) <$> s.form
  | .collect submission => .data <$> Traced.ofResult (s.collect submission)
  | .compile data => .prompt <$> s.compile data
  | .generate submission => .prompt <$> s.generate submission
  | .record submission moment => .record <$> s.record submission moment

def after (s : Session) (command : Command) : Session :=
  match loading? command with
  | some loaded =>
    match loaded.result with
    | .ok schema => { s with schema? := some schema }
    | .error _ => s
  | none => s

def run (s : Session) (commands : List Command) : Session :=
  commands.foldl after s

end Session

end PromptForm
