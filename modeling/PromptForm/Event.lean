import PromptForm.Text.Quoted

/-!
# Events

What happens on the way and is worth a record: parts of a document that are skipped, defaults that
cannot be read, names that lead nowhere, and the milestones of a run.

## Main definitions

* `Level`, `Event`: the events and their levels.
* `Event.logger`, `Event.message`: the channel and the wording of an event.
-/

namespace PromptForm

inductive Level where
  | debug
  | info
  | warning
  deriving DecidableEq, Repr

def Level.name : Level → String
  | debug => "DEBUG"
  | info => "INFO"
  | warning => "WARNING"

inductive Event where
  | unnamedVariable
  /-- A variable replaced an earlier one of its name. -/
  | repeatedVariable (name : String)
  /-- A tick caption was skipped, as its position is no whole number. -/
  | badTickPosition (position : Option String) (owner : String)
  | parsed (schema source : String) (count : Nat)
  | loaded (schema path : String)
  /-- The default of a group of boxes could not be read. -/
  | badDefault (default : String)
  /-- A section names a variable that there is not. -/
  | unknownField (sectionName field : String)
  | compiled (templateLength promptLength : Nat)
  | exported (schema : String)
  deriving DecidableEq, Repr

namespace Event

def logger : Event → String
  | unnamedVariable => "metaprompt.parsing.parser"
  | repeatedVariable _ => "metaprompt.parsing.parser"
  | badTickPosition _ _ => "metaprompt.parsing.parser"
  | parsed _ _ _ => "metaprompt.parsing.parser"
  | loaded _ _ => "metaprompt.parsing.loader"
  | badDefault _ => "metaprompt.forms.renderer"
  | unknownField _ _ => "metaprompt.forms.renderer"
  | compiled _ _ => "metaprompt.templates.compiler"
  | exported _ => "metaprompt.generator"

def level : Event → Level
  | unnamedVariable => .warning
  | badTickPosition _ _ => .warning
  | loaded _ _ => .info
  | exported _ => .info
  | _ => .debug

def message : Event → String
  | unnamedVariable => "Skipping variable without a name attribute"
  | repeatedVariable name => "Variable '" ++ name ++ "' is declared more than once"
  | badTickPosition position owner =>
    "Ignoring range label with non-integer value " ++
      (position.map Text.quoted).getD "None" ++ " in variable '" ++ owner ++ "'"
  | parsed schema source count =>
    "Parsed schema '" ++ schema ++ "' from " ++ source ++ " with " ++ toString count ++
      " variables"
  | loaded schema path => "Loaded schema '" ++ schema ++ "' from " ++ path
  | badDefault default => "Ignoring malformed checkbox group default " ++ Text.quoted default
  | unknownField sectionName field =>
    "Section '" ++ sectionName ++ "' references unknown variable '" ++ field ++ "'"
  | compiled templateLength promptLength =>
    "Compiled template of " ++ toString templateLength ++ " chars into " ++
      toString promptLength ++ " chars"
  | exported schema => "Exported prompt for schema '" ++ schema ++ "'"

end Event

end PromptForm
