import PromptForm.Submission.Collect
import PromptForm.Text.Cut
import PromptForm.Texts

/-!
# Substituting values

A template names values between doubled braces. Every value of the form data is put in for the
tokens of its name, one name after the other.

## Main definitions

* `Template.rendered`: the text of a value in a prompt.
* `Template.token`: the token of a name.
* `Template.substitute`: a template with the values of form data put in.
-/

namespace PromptForm

namespace Template

/-- The text of a value in a prompt: a word for a truth value, the items of a list with commas
between them, nothing for no value. -/
def rendered (texts : Texts) : Value → String
  | .bool b => texts.boolean b
  | .list items => ", ".intercalate (items.map Value.asText)
  | .null => ""
  | v => v.asText

def open2 : List Char := ['\x7b', '\x7b']

def close2 : List Char := ['\x7d', '\x7d']

def token (name : List Char) : List Char :=
  open2 ++ name ++ close2

/-- The name of a value as it is written in a template. -/
def nameOf (key : Value) : List Char :=
  key.asText.toList

def substituteEntry (texts : Texts) (template : List Char) (entry : Value × Value) : List Char :=
  Text.replaceAll (token (nameOf entry.1)) (rendered texts entry.2).toList template

/-- The template with the values of form data put in. -/
def substitute (texts : Texts) (data : FormData) (template : List Char) : List Char :=
  data.entries.foldl (substituteEntry texts) template

end Template

end PromptForm
