import PromptForm.Yaml.Graph
import PromptForm.Yaml.Plain
import PromptForm.Yaml.Scan

/-!
# The nodes of a YAML document

Tokens are composed into the graph of a document. An alias stands for the node that has its anchor,
which must come before it; the node may still be open then, so that it is inside itself. A text holds
one document at most.

## Main definitions

* `Composer.node`: the address of the node at the next token.
* `compose`: the graph of the document of tokens, and its root.

## Design notes

The functions of the grammar are recursive with fuel, for which the number of tokens is enough: each
call that is made without taking a token is followed by one that takes one, and the fuel is given
generously.

The limit of nesting is none of the language: an open collection is two calls that are not finished, a
thousand of which may be open at a time, those around the composer included.
-/

namespace PromptForm

namespace Yaml

structure Composer where
  tokens : List Token
  stop : Stop
  graph : Graph := {}
  anchors : List (List Char × Address) := []
  handles : List (List Char × List Char) := []
  depth : Nat := 0

/-- An operation on the tokens, when they follow the grammar. -/
abbrev Compose := StateT Composer (Except Stop)

/-- The number of collections that may be open at a time. -/
def maxDepth : Nat := 490

namespace Composer

def peek : Compose Token := do
  let c ← get
  match c.tokens with
  | t :: _ => return t
  | [] => throw c.stop

def take : Compose Unit :=
  modify fun c => { c with tokens := c.tokens.drop 1 }

/-- Takes the next token, when it is a given one. -/
def takeIf (t : Token) : Compose Bool := do
  if (← peek) == t then
    take
    return true
  else return false

/-- Takes the next token, which must be a given one. -/
def expect (t : Token) : Compose Unit := do
  if !(← takeIf t) then throw .malformed

/-- The text of a tag, its handle replaced by what it stands for. -/
def fullTag (name : TagName) : Compose String := do
  match name.handle? with
  | none => return String.ofList name.suffix
  | some handle =>
    match (← get).handles.lookup handle with
    | some target => return String.ofList (target ++ name.suffix)
    | none => throw .malformed

def anchor? : Compose (Option (List Char)) := do
  match ← peek with
  | .anchor name =>
    take
    return some name
  | _ => return none

def tagName? : Compose (Option TagName) := do
  match ← peek with
  | .tag name =>
    take
    return some name
  | _ => return none

def properties : Compose (Option (List Char) × Option String) := do
  let before ← tagName?
  let anchor ← anchor?
  let name ← if before.isNone && anchor.isSome then tagName? else pure before
  match name with
  | some name => return (anchor, some (← fullTag name))
  | none => return (anchor, none)

/-- The tag of a collection, `usual` being the one of its kind. -/
def collectionTag (usual : Tag) (tag : Option String) : Tag :=
  match tag with
  | none => usual
  | some "!" => usual
  | some name => .ofName name

/-- The tag of a scalar; it follows from the text of a plain one, and of any with an exclamation
mark. -/
def scalarTag (tag : Option String) (isPlain : Bool) (text : List Point) : Tag :=
  let byForm := ((Point.chars? text).map plainTag).getD .text
  match tag with
  | none => if isPlain then byForm else .text
  | some "!" => byForm
  | some name => .ofName name

/-! ### Nodes -/

def aliased (name : List Char) : Compose Address := do
  match (← get).anchors.lookup name with
  | some address => return address
  | none => throw .malformed

/-- Adds a node with its anchor, which must be new. -/
def addNode (anchor : Option (List Char)) (n : Node) : Compose Address := do
  let c ← get
  let (address, graph) := c.graph.add n
  match anchor with
  | none => set { c with graph }
  | some name =>
    if (c.anchors.lookup name).isSome then throw .malformed
    set { c with graph, anchors := (name, address) :: c.anchors }
  return address

def addEmpty : Compose Address :=
  addNode none Node.empty

/-- Adds a collection; its anchor may be used by its parts, which are composed after it is added. -/
def addCollection {α : Type} (anchor : Option (List Char)) (make : List α → Node)
    (parts : Compose (List α)) : Compose Address := do
  let address ← addNode anchor (make [])
  if (← get).depth ≥ maxDepth then throw .tooDeep
  modify fun c => { c with depth := c.depth + 1 }
  let parts ← parts
  modify fun c => { c with depth := c.depth - 1, graph := c.graph.put address (make parts) }
  return address

/-- Whether a token ends an entry of a block mapping. -/
def endsBlockPart : Token → Bool
  | .key | .value | .blockEnd => true
  | _ => false

mutual

/-- The address of the node at the next token; block collections and sequences without indentation
only where they may stand. -/
def node (fuel : Nat) (inBlock indentless : Bool) : Compose Address :=
  match fuel with
  | 0 => throw .malformed
  | fuel + 1 => do
    match ← peek with
    | .alias name =>
      take
      aliased name
    | _ =>
      let (anchor, tag) ← properties
      let sequence := Node.sequence (collectionTag .sequence tag)
      let mapping := Node.mapping (collectionTag .mapping tag)
      let next ← peek
      if indentless && next == .blockEntry then
        addCollection anchor sequence (indentlessItems fuel)
      else
        match next with
        | .scalar text isPlain =>
          take
          addNode anchor (.scalar (scalarTag tag isPlain text) text)
        | .flowSequenceStart =>
          take
          addCollection anchor sequence (flowItems fuel true)
        | .flowMappingStart =>
          take
          addCollection anchor mapping (flowEntries fuel true)
        | _ =>
          if inBlock && next == .sequenceStart then
            take
            addCollection anchor sequence (blockItems fuel)
          else if inBlock && next == .mappingStart then
            take
            addCollection anchor mapping (blockEntries fuel)
          else if anchor.isSome || tag.isSome then
            addNode anchor (.scalar (scalarTag tag true []) [])
          else throw .malformed

/-- The items of a block sequence up to its end. -/
def blockItems (fuel : Nat) : Compose (List Address) :=
  match fuel with
  | 0 => throw .malformed
  | fuel + 1 => do
    if ← takeIf .blockEntry then
      let next ← peek
      let item ←
        if next == .blockEntry || next == .blockEnd then addEmpty else node fuel true false
      return item :: (← blockItems fuel)
    else
      expect .blockEnd
      return []

/-- The items of a sequence without indentation. -/
def indentlessItems (fuel : Nat) : Compose (List Address) :=
  match fuel with
  | 0 => throw .malformed
  | fuel + 1 => do
    if ← takeIf .blockEntry then
      let next ← peek
      let item ←
        if next == .blockEntry || endsBlockPart next then addEmpty else node fuel true false
      return item :: (← indentlessItems fuel)
    else return []

/-- The entries of a block mapping up to its end. -/
def blockEntries (fuel : Nat) : Compose (List (Address × Address)) :=
  match fuel with
  | 0 => throw .malformed
  | fuel + 1 => do
    if ← takeIf .key then
      let key ← if endsBlockPart (← peek) then addEmpty else node fuel true true
      let value ←
        if ← takeIf .value then
          if endsBlockPart (← peek) then addEmpty else node fuel true true
        else addEmpty
      return (key, value) :: (← blockEntries fuel)
    else
      expect .blockEnd
      return []

/-- A node of a flow collection, empty before one of some tokens. -/
def flowNode (fuel : Nat) (ends : List Token) : Compose Address :=
  match fuel with
  | 0 => throw .malformed
  | fuel + 1 => do
    if ends.contains (← peek) then addEmpty else node fuel false false

/-- The value after a key in a flow collection, empty when there is none. -/
def flowValue (fuel : Nat) (close : Token) : Compose Address :=
  match fuel with
  | 0 => throw .malformed
  | fuel + 1 => do
    if ← takeIf .value then flowNode fuel [.flowEntry, close] else addEmpty

/-- The entry after the sign of a key in a flow collection. -/
def flowEntry (fuel : Nat) (close : Token) : Compose (Address × Address) :=
  match fuel with
  | 0 => throw .malformed
  | fuel + 1 => do
    let key ← flowNode fuel [.value, .flowEntry, close]
    return (key, ← flowValue fuel close)

/-- The items of a flow sequence up to its end. -/
def flowItems (fuel : Nat) (isFirst : Bool) : Compose (List Address) :=
  match fuel with
  | 0 => throw .malformed
  | fuel + 1 => do
    if ← takeIf .flowSequenceEnd then return []
    else
      if !isFirst then expect .flowEntry
      if ← takeIf .flowSequenceEnd then return []
      else if ← takeIf .key then
        let item ← addCollection none (Node.mapping .mapping) do
          return [← flowEntry fuel .flowSequenceEnd]
        return item :: (← flowItems fuel false)
      else
        let item ← node fuel false false
        return item :: (← flowItems fuel false)

/-- The entries of a flow mapping up to its end. -/
def flowEntries (fuel : Nat) (isFirst : Bool) : Compose (List (Address × Address)) :=
  match fuel with
  | 0 => throw .malformed
  | fuel + 1 => do
    if ← takeIf .flowMappingEnd then return []
    else
      if !isFirst then expect .flowEntry
      if ← takeIf .flowMappingEnd then return []
      else if ← takeIf .key then
        let entry ← flowEntry fuel .flowMappingEnd
        return entry :: (← flowEntries fuel false)
      else
        let key ← node fuel false false
        let value ← addEmpty
        return (key, value) :: (← flowEntries fuel false)

end

/-! ### Documents -/

/-- What the handles stand for that every document has. -/
def usualHandles : List (List Char × List Char) :=
  [(['!'], ['!']), (['!', '!'], "tag:yaml.org,2002:".toList)]

/-- The directives before a document: at most one version, which must be 1, and every handle once. -/
def directives : Nat → Bool → List (List Char × List Char) →
    Compose (List (List Char × List Char))
  | 0, _, _ => throw .malformed
  | fuel + 1, hasVersion, handles => do
    match ← peek with
    | .directive (.version major) =>
      take
      if hasVersion || major != 1 then throw .malformed
      directives fuel true handles
    | .directive (.tag handle target) =>
      take
      if (handles.lookup handle).isSome then throw .malformed
      directives fuel hasVersion ((handle, target) :: handles)
    | .directive .other =>
      take
      directives fuel hasVersion handles
    | _ => return handles

/-- Takes the markers of the end of a document. -/
def skipEnds : Nat → Compose Unit
  | 0 => throw .malformed
  | fuel + 1 => do
    if ← takeIf .documentEnd then skipEnds fuel

/-- The document after a marker of its start; it may be empty. -/
def explicitDocument (fuel : Nat) : Compose (Option Address) := do
  skipEnds fuel
  if (← peek) == .streamEnd then return none
  else
    let handles ← directives fuel false []
    modify fun c => { c with handles := handles ++ usualHandles }
    expect .documentStart
    match ← peek with
    | .directive _ | .documentStart | .documentEnd | .streamEnd => return some (← addEmpty)
    | _ => return some (← node fuel true false)

/-- The only document of a text, if there is one. -/
def document (fuel : Nat) : Compose (Option Address) := do
  let root ←
    match ← peek with
    | .directive _ | .documentStart | .streamEnd => explicitDocument fuel
    | _ =>
      modify fun c => { c with handles := usualHandles }
      pure (some (← node fuel true false))
  skipEnds fuel
  expect .streamEnd
  return root

end Composer

/-- The graph of the document of tokens, and the address of its root, if there is one. -/
def compose (tokens : Tokens) : Except Stop (Graph × Option Address) := do
  let fuel := 4 * tokens.found.length + 10
  let (root, c) ← (Composer.document fuel).run { tokens := tokens.found, stop := tokens.stop }
  return (c.graph, root)

end Yaml

end PromptForm
