/-!
# Tags

The tag of a node says of what kind its datum is. Tags have names; those of the common kinds begin
with the same words.

## Main definitions

* `Tag`: the tags.
* `Tag.ofName`: the tag of a name.
-/

namespace PromptForm

namespace Yaml

inductive Tag where
  | null
  | truth
  | int
  | real
  | bytes
  | time
  | text
  | sequence
  | mapping
  | set
  | pairs
  /-- The key of entries that are merged into a mapping. -/
  | merge
  /-- The key of what a mapping stands for where a text is asked for. -/
  | value
  | unknown
  deriving DecidableEq, Repr

namespace Tag

def shortNames : List (String × Tag) :=
  [("null", null), ("bool", truth), ("int", int), ("float", real), ("binary", bytes),
    ("timestamp", time), ("str", text), ("seq", sequence), ("map", mapping), ("set", set),
    ("omap", pairs), ("pairs", pairs), ("merge", merge), ("value", value)]

/-- The beginning of the names of the common tags. -/
def commonStart : String := "tag:yaml.org,2002:"

def ofName (name : String) : Tag :=
  match shortNames.find? fun entry => commonStart ++ entry.1 == name with
  | some entry => entry.2
  | none => unknown

end Tag

end Yaml

end PromptForm
