import PromptForm.Template.Substitute

/-!
# Conditional blocks

A block of a name stands between an opening and a closing token. Its inside is kept when the value of
the name holds, and otherwise the whole block is dropped. A block goes from an opening token to the
first closing token after it; an opening token that no closing token follows opens nothing.

## Main definitions

* `Template.holds`: whether a value keeps its blocks.
* `Template.blocks`: the parts of a text around and inside the blocks of a name.
* `Template.resolve`: a template with the blocks of form data kept or dropped.
-/

namespace PromptForm

namespace Template

def holds (v : Value) : Bool := v.isTrue

def opener (name : List Char) : List Char :=
  open2 ++ '#' :: name ++ close2

def closer (name : List Char) : List Char :=
  open2 ++ '/' :: name ++ close2

/-- A text as the blocks in it and the parts between them. -/
structure Blocks where
  /-- Each block by the part before it and its inside. -/
  blocks : List (List Char × List Char)
  last : List Char
  deriving DecidableEq, Repr

def blocks (name s : List Char) : Blocks :=
  match _hopen : Text.cut? (opener name) s with
  | none => ⟨[], s⟩
  | some (before, rest) =>
    match _hclose : Text.cut? (closer name) rest with
    | none => ⟨[], s⟩
    | some (inside, after) =>
      let next := blocks name after
      ⟨(before, inside) :: next.blocks, next.last⟩
termination_by s.length
decreasing_by
  have hs := Text.eq_of_cut?_eq_some _hopen
  have hr := Text.eq_of_cut?_eq_some _hclose
  simp only [hs, hr, opener, List.length_append, List.length_cons]
  omega

def Blocks.insides (b : Blocks) : List (List Char) :=
  b.blocks.map Prod.snd

/-- The text with the blocks reduced to their insides. -/
def Blocks.kept (b : Blocks) : List Char :=
  b.blocks.flatMap (fun block => block.1 ++ block.2) ++ b.last

def Blocks.dropped (b : Blocks) : List Char :=
  b.blocks.flatMap Prod.fst ++ b.last

/-- The text with the blocks of one name kept or dropped. -/
def resolveName (keep : Bool) (name s : List Char) : List Char :=
  if keep then (blocks name s).kept else (blocks name s).dropped

/-- The template with the blocks of one value kept or dropped. -/
def resolveEntry (template : List Char) (entry : Value × Value) : List Char :=
  resolveName (holds entry.2) (nameOf entry.1) template

/-- The template with the blocks of form data kept or dropped, one name after the other. -/
def resolve (data : FormData) (template : List Char) : List Char :=
  data.entries.foldl resolveEntry template

/-! ### The blocks as a regular expression -/

/-- The characters that a regular expression takes literally only after a backslash. -/
def specialChars : List Char :=
  "()[]\x7b\x7d?*+-|^$\\.&~# \t\n\r\x0b\x0c".toList

/-- A text as a regular expression that matches it alone. -/
def escaped (s : List Char) : List Char :=
  s.flatMap fun c => if specialChars.contains c then ['\\', c] else [c]

/-- The regular expression of the blocks of a name, with their insides as its group. -/
def blockPattern (name : List Char) : List Char :=
  escaped (opener name) ++ "(.*?)".toList ++ escaped (closer name)

end Template

end PromptForm
