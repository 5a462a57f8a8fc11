import PromptForm.Fault
import PromptForm.Value

/-!
# Localized texts

The words that a form and a prompt use besides those of the schema: the two words for truth values,
the empty choice of an optional selection, and the caption of a slider's reading. They are French
unless a locale replaces some of them.

## Main definitions

* `Texts`: the texts.
* `Texts.ofNamed`, `Texts.ofMapping`: texts with some of them replaced.
-/

namespace PromptForm

structure Texts where
  affirmative : String := "Oui"
  negative : String := "Non"
  selectPlaceholder : String := "Sélectionnez une option"
  rangeLabel : String := "Valeur"
  deriving DecidableEq, Repr

namespace Texts

def boolean (texts : Texts) (b : Bool) : String :=
  if b then texts.affirmative else texts.negative

def readout (texts : Texts) (value : String) : String :=
  texts.rangeLabel ++ ": " ++ value

/-- The texts with one of them replaced, when there is one of that name. -/
def replace? (texts : Texts) (name s : String) : Option Texts :=
  match name with
  | "affirmative" => some { texts with affirmative := s }
  | "negative" => some { texts with negative := s }
  | "select_placeholder" => some { texts with selectPlaceholder := s }
  | "range_value_label" => some { texts with rangeLabel := s }
  | _ => none

/-- The texts with those replaced that are given; every name must be the name of a text. -/
def ofNamed (given : List (String × String)) : Except Fault Texts :=
  given.foldlM (fun texts entry =>
    match texts.replace? entry.1 entry.2 with
    | some texts => .ok texts
    | none => .error (.unknownText entry.1)) {}

/-- The texts with one entry of a mapping taken over; other keys are passed over. -/
def takeEntry (texts : Texts) (entry : Value × Value) : Texts :=
  match entry.1 with
  | .text name => (texts.replace? name entry.2.asText).getD texts
  | _ => texts

/-- The texts with those replaced that a mapping holds. -/
def ofMapping : Value → Except Fault Texts
  | .mapping entries => .ok (entries.foldl takeEntry {})
  | _ => .error .notMapping

end Texts

end PromptForm
