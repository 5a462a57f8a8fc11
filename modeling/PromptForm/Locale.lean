import PromptForm.Texts
import PromptForm.Yaml.Construct

/-!
# Locale files

A locale file is a YAML mapping from the names of texts to texts. It need not name all of them, and
an empty file names none.

## Main definitions

* `Texts.ofDocument`: the texts of a document.
* `Texts.ofLocale`: the texts of the bytes of a file.
-/

namespace PromptForm

namespace Texts

open Yaml (Datum Document Stop Store)

/-- The texts with one entry of a document taken over; other keys are passed over. -/
def takeDatum (store : Store) (texts : Texts) (entry : Datum × Datum) : Except Stop Texts := do
  match entry.1 with
  | .scalar (.text name) =>
    if (texts.replace? name "").isNone then return texts
    return (texts.replace? name (← store.asText entry.2)).getD texts
  | _ => return texts

/-- The texts with those replaced that a document holds; a document that counts as false holds
none. -/
def ofDocument (d : Document) : Except Fault Texts :=
  if d.store.isTrue d.root then
    match d.root with
    | .collection address =>
      match d.store.get address with
      | .mapping entries =>
        (entries.foldlM (takeDatum d.store) {}).mapError fun stop => .locale (.document stop)
      | _ => .error .notMapping
    | _ => .error .notMapping
  else .ok {}

/-- The texts with those replaced that a text in YAML holds. -/
def ofYaml (text : String) : Except Fault Texts :=
  match Yaml.load text.toList with
  | .ok d => ofDocument d
  | .error stop => .error (.locale (.document stop))

/-- The texts with those replaced that a file holds. -/
def ofLocale (bytes : List UInt8) : Except Fault Texts :=
  match String.fromUTF8? ⟨bytes.toArray⟩ with
  | some text => ofYaml text
  | none => .error (.locale .notUtf8)

end Texts

end PromptForm
