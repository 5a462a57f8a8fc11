import PromptForm.Template.Block
import PromptForm.Template.Cleanup
import PromptForm.Traced

/-!
# Compiling a template

A template becomes a prompt in four steps: values are put in, blocks are kept or dropped, leftover
tokens are erased, and blank lines are reduced.

## Main definitions

* `Template.compile`: the prompt of a template and form data.
* `Template.compileTraced`: the same with its event.
-/

namespace PromptForm

namespace Template

/-- The prompt of a template and form data, on characters. -/
def compileChars (texts : Texts) (data : FormData) (template : List Char) : List Char :=
  cleanup (resolve data (substitute texts data template))

/-- The prompt of a template and form data. -/
def compile (texts : Texts) (data : FormData) (template : String) : String :=
  String.ofList (compileChars texts data template.toList)

def compiledEvent (template prompt : String) : Event :=
  .compiled template.length prompt.length

/-- The prompt of a template and form data, with its event. -/
def compileTraced (texts : Texts) (data : FormData) (template : String) : Traced String := do
  let prompt := compile texts data template
  Traced.note (compiledEvent template prompt)
  return prompt

end Template

end PromptForm
