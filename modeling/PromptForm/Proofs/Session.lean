import PromptForm.Proofs.Traced
import PromptForm.Session

/-!
# What a session goes by

A session keeps nothing but the schema that was loaded last. A command that loads has its schema
from a document, whatever the session is; every other command is answered as the operations on a
schema answer that know of no session, or refused when there is no schema. So the state after a
run is read off its answers, and what comes after a load does not depend on what came before it.

## Main definitions

* `Session.Loads`: a command reads a schema from a document.
* `Session.answer`: what a command is answered for a schema, without a session.
* `Session.answers`: the answers to the commands of a run.

## Main results

* `Session.run_lastLoaded`: the state after a run, and the step and the answer that come next.
-/

namespace PromptForm

namespace Session

/-- A command reads a document, and the schema of it. -/
inductive Loads : Command → Schema → Prop
  | file {files : Asset.Files} {request : Asset.Request} {schema : Schema}
      (h : (Schema.load files request).result = .ok schema) :
      Loads (.loadFile files request) schema
  | text {document : Xml.Source} {source : String} {schema : Schema}
      (h : (Schema.read document source).result = .ok schema) :
      Loads (.loadText document source) schema

/-- Whether a command uses the current schema; the others load one. -/
def Command.usesSchema : Command → Bool
  | .loadFile _ _ | .loadText _ _ => false
  | _ => true

/-- What a command is answered for a schema and texts, by operations that know of no session. -/
def answer (texts : Texts) (schema : Schema) : Command → Traced Outcome
  | .loadFile files request => .schema <$> Schema.load files request
  | .loadText document source => .schema <$> Schema.read document source
  | .render => .form <$> Form.ofSchema texts schema
  | .submitDefault => (fun form => .pairs form.initial) <$> Form.ofSchema texts schema
  | .collect submission =>
    .data <$> Traced.ofResult (FormData.collect schema.definitions submission)
  | .compile data => .prompt <$> Template.compileTraced texts data schema.template
  | .generate submission => .prompt <$> do
    let data ← FormData.collect schema.definitions submission
    Template.compileTraced texts data schema.template
  | .record submission moment => .record <$> do
    let data ← FormData.collect schema.definitions submission
    let prompt ← Template.compileTraced texts data schema.template
    let record ← Export.Record.ofFormData schema.metadata data prompt moment
    Traced.note (.exported schema.metadata.name)
    return record

/-- The answers to commands that are given one after the other. -/
def answers (s : Session) : List Command → List (Traced Outcome)
  | [] => []
  | command :: commands => s.perform command :: answers (s.after command) commands

/-- The schema that an answer gives, when it gives one. -/
def schemaOf? (answer : Traced Outcome) : Option Schema :=
  match answer.result with
  | .ok (.schema schema) => some schema
  | _ => none

variable {s : Session} {schema : Schema} {command : Command}

theorem schema_eq (h : s.schema? = some schema) : s.schema = .ok schema := by
  rw [Session.schema, h]

theorem collect_eq (h : s.schema? = some schema) (submission : Value) :
    s.collect submission = FormData.collect schema.definitions submission := by
  rw [collect, schema_eq h]
  rfl

theorem form_eq (h : s.schema? = some schema) : s.form = Form.ofSchema s.texts schema := by
  rw [form, schema_eq h]
  rfl

theorem compile_eq (h : s.schema? = some schema) (data : FormData) :
    s.compile data = Template.compileTraced s.texts data schema.template := by
  rw [compile, schema_eq h]
  rfl

/-! ### One command -/

/-- With a schema, every command is answered as without a session. -/
theorem perform_of_schema (h : s.schema? = some schema) (command : Command) :
    s.perform command = answer s.texts schema command := by
  cases command with
  | loadFile files request => rfl
  | loadText document source => rfl
  | render => rw [perform, form_eq h, answer]
  | submitDefault => rw [perform, form_eq h, answer]
  | collect submission => rw [perform, collect_eq h, answer]
  | compile data => rw [perform, compile_eq h, answer]
  | generate submission => simp only [perform, generate, collect_eq h, compile_eq h, answer]
  | record submission moment =>
    simp only [perform, record, collect_eq h, compile_eq h, schema_eq h, answer]
    rfl

/-- Without a schema, a command that uses one is refused. -/
theorem perform_of_no_schema (h : s.schema? = none) (huses : command.usesSchema = true) :
    s.perform command = ⟨[], .error (.asset ⟨none, "no schema loaded"⟩)⟩ := by
  have hschema : s.schema = .error (.asset ⟨none, "no schema loaded"⟩) := by
    rw [Session.schema, h]
  cases command with
  | loadFile files request => cases huses
  | loadText document source => cases huses
  | render | submitDefault =>
    rw [perform, form, hschema]
    rfl
  | collect submission =>
    rw [perform, collect, hschema]
    rfl
  | compile data =>
    rw [perform, compile, hschema]
    rfl
  | generate submission =>
    rw [perform, generate, collect, hschema]
    rfl
  | record submission moment =>
    rw [perform, record, collect, hschema]
    rfl

theorem schemaOf?_eq_some_iff {t : Traced Outcome} :
    schemaOf? t = some schema ↔ t.result = .ok (.schema schema) := by
  rw [schemaOf?]
  split
  · next found h => rw [h]; simp
  · next h => simpa using h schema

theorem not_loads_of_usesSchema (h : command.usesSchema = true) (schema : Schema) :
    ¬Loads command schema := by
  rintro (_ | _) <;> cases h

/-- The answers that give a schema are those of the commands that load one. -/
theorem schemaOf?_perform_iff (s : Session) :
    schemaOf? (s.perform command) = some schema ↔ Loads command schema := by
  rw [schemaOf?_eq_some_iff]
  constructor
  · intro h
    cases command with
    | loadFile files request =>
      obtain ⟨found, hfound, heq⟩ := Traced.result_map_eq_ok_iff.1 h
      cases heq
      exact .file hfound
    | loadText document source =>
      obtain ⟨found, hfound, heq⟩ := Traced.result_map_eq_ok_iff.1 h
      cases heq
      exact .text hfound
    | _ =>
      obtain ⟨found, -, heq⟩ := Traced.result_map_eq_ok_iff.1 h
      cases heq
  · rintro (h | h) <;> exact Traced.result_map_eq_ok_iff.2 ⟨schema, h, rfl⟩

theorem after_of_loads (h : Loads command schema) (s : Session) :
    s.after command = { s with schema? := some schema } := by
  cases h with
  | file h => simp only [after, loading?, h]
  | text h => simp only [after, loading?, h]

/-- A command that loads nothing, for whatever reason, leaves the session as it is. -/
theorem after_of_not_loads (h : ∀ schema, ¬Loads command schema) (s : Session) :
    s.after command = s := by
  cases command with
  | loadFile files request =>
    cases hread : (Schema.load files request).result with
    | ok schema => exact absurd (.file hread) (h schema)
    | error fault => simp only [after, loading?, hread]
  | loadText document source =>
    cases hread : (Schema.read document source).result with
    | ok schema => exact absurd (.text hread) (h schema)
    | error fault => simp only [after, loading?, hread]
  | _ => rfl

/-- The state after a command is read off its answer. -/
theorem after_eq (s : Session) (command : Command) :
    s.after command = { s with schema? := (schemaOf? (s.perform command)).or s.schema? } := by
  cases hanswer : schemaOf? (s.perform command) with
  | some schema => exact after_of_loads ((schemaOf?_perform_iff s).1 hanswer) s
  | none =>
    refine after_of_not_loads (fun schema hloads => ?_) s
    rw [(schemaOf?_perform_iff s).2 hloads] at hanswer
    cases hanswer

/-! ### Several commands -/

/-- The last value that a list gives is that of its head when its tail gives none. -/
theorem getLast?_filterMap_cons_or {α β : Type} (f : α → Option β) (a : α) (l : List α)
    (otherwise : Option β) :
    ((a :: l).filterMap f).getLast?.or otherwise =
      (l.filterMap f).getLast?.or ((f a).or otherwise) := by
  cases ha : f a with
  | none => rw [List.filterMap_cons_none ha, Option.none_or]
  | some b =>
    rw [List.filterMap_cons_some ha, List.getLast?_cons]
    cases (l.filterMap f).getLast? <;> rfl

/-- The state after several commands is read off their answers: the last schema in them counts. -/
theorem run_eq (s : Session) (commands : List Command) :
    s.run commands =
      { s with schema? := ((s.answers commands).filterMap schemaOf?).getLast?.or s.schema? } := by
  induction commands generalizing s with
  | nil => rfl
  | cons command commands ih =>
    have hrun : s.run (command :: commands) = (s.after command).run commands := rfl
    have htexts : (s.after command).texts = s.texts := by rw [after_eq]
    have hschema : (s.after command).schema? = (schemaOf? (s.perform command)).or s.schema? := by
      rw [after_eq]
    rw [hrun, ih, answers, getLast?_filterMap_cons_or, htexts, hschema]

/-- **A session goes by the last load that succeeded.** After any commands it has the schema that
the last of their answers with a schema gives, or else the one it began with, and its texts. From
there a command that loads has the schema of its document, and only that changes; every other
leaves the session as it is. It is refused when there is no schema, and is otherwise answered for
the schema and the texts alone. -/
theorem run_lastLoaded (s : Session) (commands : List Command) (next : Command) :
    let here := s.run commands
    here = { s with schema? := ((s.answers commands).filterMap schemaOf?).getLast?.or s.schema? } ∧
    (∀ schema, schemaOf? (here.perform next) = some schema ↔ Loads next schema) ∧
    (∀ schema, Loads next schema → here.after next = { here with schema? := some schema }) ∧
    ((∀ schema, ¬Loads next schema) → here.after next = here) ∧
    (next.usesSchema = true → (∀ schema, ¬Loads next schema) ∧
      (here.schema? = none →
        here.perform next = ⟨[], .error (.asset ⟨none, "no schema loaded"⟩)⟩)) ∧
    ∀ schema, here.schema? = some schema → here.perform next = answer s.texts schema next := by
  intro here
  have hhere : here = _ := run_eq s commands
  refine ⟨hhere, fun schema => schemaOf?_perform_iff here,
    fun schema hloads => after_of_loads hloads here, fun hnone => after_of_not_loads hnone here,
    fun huses => ⟨not_loads_of_usesSchema huses, fun hschema => perform_of_no_schema hschema huses⟩,
    fun schema hschema => ?_⟩
  have htexts : here.texts = s.texts := by rw [hhere]
  rw [← htexts]
  exact perform_of_schema hschema next

/-- A document with a template and nothing else. -/
def greeting : Command :=
  .loadText (.text "<a><prompt_template>Hi</prompt_template></a>") "greeting"

/-- A request before the first load, a load, and two loads that fail: the one between is what the
session goes by, and a request is answered for it. -/
theorem run_lastLoaded_greeting :
    let commands :=
      [.render, greeting, .loadText (.text "<a>") "open", .loadFile ⟨[], []⟩ (.text "absent.xml")]
    let s : Session := {}
    s.run commands = { schema? := some { template := "Hi" } } ∧
      s.perform .render = ⟨[], .error (.asset ⟨none, "no schema loaded"⟩)⟩ ∧
      (s.run commands).perform (.compile ⟨[]⟩) =
        answer {} { template := "Hi" } (.compile ⟨[]⟩) := by
  intro commands s
  obtain ⟨hrun, -, -, -, -, hanswer⟩ := run_lastLoaded s commands (.compile ⟨[]⟩)
  obtain ⟨-, -, -, -, hrefused, -⟩ := run_lastLoaded s [] .render
  have hloaded : ((s.answers commands).filterMap schemaOf?).getLast? =
      some { template := "Hi" } := by
    decide +kernel
  rw [hloaded] at hrun
  refine ⟨hrun, (hrefused rfl).2 rfl, hanswer _ ?_⟩
  rw [hrun]
  rfl

end Session

end PromptForm
