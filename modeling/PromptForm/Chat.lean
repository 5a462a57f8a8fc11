import PromptForm.Json.Write
import PromptForm.Submission.Collect
import PromptForm.Template.Compile

/-!
# Prompts for a chat model

A chain turns submissions into prompts and sends each as the only message to a chat model. The prompt
is sent as it is; braces in it mean nothing any more. The submissions are taken one after the other,
or in a batch: then all prompts are made before the first one is sent.

## Main definitions

* `Chat.prompt`: the prompt of a submission.
* `Chat.Model`: what a chat model answers.
* `Chat.replies`, `Chat.batchReplies`: the answers to the prompts of submissions.
-/

namespace PromptForm

namespace Chat

inductive Role where
  | human
  | assistant
  deriving DecidableEq, Repr

def Role.name : Role → String
  | human => "human"
  | assistant => "ai"

structure Message where
  role : Role
  content : String
  deriving DecidableEq, Repr

/-- The answer of a model to messages, given the number of its answers before. -/
abbrev Model := Nat → List Message → Except Fault String

def transcript (messages : List Message) : String :=
  (Json.Tree.list (messages.map fun m =>
    .list [.text m.role.name, .text m.content])).toText .spaced

/-- A model that answers what it was told. -/
def echo : Model := fun _ messages => .ok (transcript messages)

/-- A model that gives its answers in turn, whatever it is told, and begins again after the last. -/
def canned (answers : List String) : Model := fun i _ =>
  match answers[i % answers.length]? with
  | some answer => .ok answer
  | none => .error .noReply

def prompt (texts : Texts) (schema : Schema) (submission : Value) : Except Fault String := do
  let data ← FormData.collect schema.definitions submission
  return Template.compile texts data schema.template

def prompts (texts : Texts) (schema : Schema) (submissions : List Value) :
    Except Fault (List String) :=
  submissions.mapM (prompt texts schema)

/-- The messages in which a prompt is sent. -/
def messagesOf (prompt : String) : List Message :=
  [⟨.human, prompt⟩]

def reply (model : Model) (answered : Nat) (prompt : String) : Except Fault Message := do
  return ⟨.assistant, ← model answered (messagesOf prompt)⟩

/-- The answers of a model that gave so many answers already, one submission after the other. -/
def repliesFrom (model : Model) (texts : Texts) (schema : Schema) (answered : Nat) :
    List Value → Except Fault (List Message)
  | [] => .ok []
  | submission :: submissions => do
    let message ← reply model answered (← prompt texts schema submission)
    return message :: (← repliesFrom model texts schema (answered + 1) submissions)

/-- The answers of a model to the prompts of submissions, one after the other. -/
def replies (model : Model) (texts : Texts) (schema : Schema) (submissions : List Value) :
    Except Fault (List Message) :=
  repliesFrom model texts schema 0 submissions

/-- The answers of a model to the prompts of submissions, when all prompts are made first. -/
def batchReplies (model : Model) (texts : Texts) (schema : Schema) (submissions : List Value) :
    Except Fault (List Message) := do
  let prompts ← prompts texts schema submissions
  prompts.zipIdx.mapM fun (prompt, answered) => reply model answered prompt

end Chat

end PromptForm
