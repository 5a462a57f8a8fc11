import PromptForm.Table
import PromptForm.Yaml.Compose
import PromptForm.Yaml.Slots

/-!
# The data of nodes

The tag of a node says what its datum is. Entries under the merge key put the entries of other
mappings before the own ones. Only known tags have data, and a key must not be a collection.

A collection is filled only after the collection around it, so that it may hold a collection that
holds it: the collections that a collection holds wait until all that were met before are filled.

## Main definitions

* `Building.flatten`: puts merged entries into a mapping.
* `Building.datumAt`: the datum of a node, which waits to be filled when it is a collection.
* `Building.fill`: fills the collection of a node.
* `load`: the document of a text.
-/

namespace PromptForm

namespace Yaml

/-! ### Bytes -/

def base64Value? (c : Char) : Option Nat :=
  if 'A' ≤ c ∧ c ≤ 'Z' then some (c.toNat - 'A'.toNat)
  else if 'a' ≤ c ∧ c ≤ 'z' then some (c.toNat - 'a'.toNat + 26)
  else if '0' ≤ c ∧ c ≤ '9' then some (c.toNat - '0'.toNat + 52)
  else if c = '+' then some 62
  else if c = '/' then some 63
  else none

/-- The bytes of digits to base 64. Four digits make three bytes; `place` counts the digits of the
current four, `left` holds the bits that are not in a byte yet, and `pads` counts the signs at the
end. Other characters are passed over. -/
def base64Bytes : Nat → Nat → Nat → List Char → Option (List UInt8)
  | place, _, _, [] => if place = 0 then some [] else none
  | place, left, pads, c :: cs =>
    if c = '=' then
      if 2 ≤ place && 4 ≤ place + pads + 1 then some []
      else base64Bytes place left (if 2 ≤ place then pads + 1 else pads) cs
    else
      match base64Value? c, place with
      | none, _ => base64Bytes place left pads cs
      | some v, 0 => base64Bytes 1 v 0 cs
      | some v, 1 => (base64Bytes 2 (v % 16) 0 cs).map ((left * 4 + v / 16).toUInt8 :: ·)
      | some v, 2 => (base64Bytes 3 (v % 4) 0 cs).map ((left * 16 + v / 4).toUInt8 :: ·)
      | some v, _ => (base64Bytes 0 0 0 cs).map ((left * 64 + v).toUInt8 :: ·)

/-! ### Scalars -/

/-- The datum of a scalar with a tag, `node` being its address. -/
def scalarDatum (node : Address) (tag : Tag) (text : List Point) : Except Stop Datum :=
  let chars := text.map Point.toChar
  match tag with
  | .null => .ok (.scalar .null)
  | .truth => ((readTruth chars).map fun b => .scalar (.bool b)).mapError .noValue
  | .int => ((readInt chars).map fun n => .scalar (.int n)).mapError .noValue
  | .real =>
    match readReal chars with
    | .ok .notNumber => .ok (.notNumber (if isNotNumberWord chars then none else some node))
    | .ok x => .ok (.scalar (.real x))
    | .error cause => .error (.noValue cause)
  | .time =>
    ((readTime chars).map fun (m, isDate) => if isDate then .date m else .moment m).mapError
      .noValue
  | .bytes =>
    match base64Bytes 0 0 0 chars with
    | some bytes => if chars.all (·.toNat < 128) then .ok (.bytes bytes) else .error .malformed
    | none => .error .malformed
  | .text =>
    match Point.chars? text with
    | some chars => .ok (.scalar (.text (String.ofList chars)))
    | none => .ok (.broken text)
  | _ => .error .malformed

/-- The text that a node stands for where a text is asked for: of a mapping, what is under its value
key. A mapping that stands for itself has none, and the search for it has no end. -/
def textOf (g : Graph) : Nat → Address → Except Stop (List Point)
  | 0, _ => .error .tooDeep
  | fuel + 1, address =>
    match g.get address with
    | .scalar _ text => .ok text
    | .sequence _ _ => .error .malformed
    | .mapping _ entries =>
      match entries.find? fun entry => g.tagAt entry.1 == .value with
      | some entry => textOf g fuel entry.2
      | none => .error .malformed

/-! ### Collections -/

/-- The data of a document while they are built. -/
structure Builder where
  /-- The nodes. Merging changes them for all that comes later. -/
  graph : Graph
  /-- The data of the nodes that have been met, by their addresses. -/
  known : Array (Option Datum)
  /-- The collections that are not filled yet, the last one first. -/
  waiting : List Address := []
  store : Store := {}

abbrev Building := StateT Builder (Except Stop)

/-- The number of mappings that may be merged one into the other. -/
def maxMergeDepth : Nat := 980

namespace Building

def nodeAt (address : Address) : Building Node := do
  return (← get).graph.get address

def putNode (address : Address) (n : Node) : Building Unit :=
  modify fun b => { b with graph := b.graph.put address n }

/-- The entries of the mapping at an address. -/
def entriesAt (address : Address) : Building (List (Address × Address)) := do
  match ← nodeAt address with
  | .mapping _ entries => return entries
  | _ => throw .malformed

/-- Changes the entries of the mapping at an address. -/
def putEntries (address : Address) (entries : List (Address × Address)) : Building Unit := do
  putNode address (.mapping (← nodeAt address).tag entries)

/-- Makes a text of a key that is the value key. -/
def plainKey (key : Address) : Building Unit := do
  let n ← nodeAt key
  if n.tag == .value then putNode key (n.withTag .text)

/-- Takes the first entry to be merged out of the mapping at an address: the node that is merged. -/
def takeMerge? (address : Address) : Building (Option Address) := do
  let graph := (← get).graph
  let entries ← entriesAt address
  let (before, after) := entries.span fun entry => graph.tagAt entry.1 != .merge
  match after with
  | [] => return none
  | entry :: after =>
    putEntries address (before ++ after)
    return some entry.2

mutual

/-- Puts merged entries before the own ones of the mapping at an address, once for all, and makes
texts of the value keys. Mappings that are merged are flattened themselves. -/
def flatten (depth : Nat) (address : Address) : Building Unit := do
  let steps := (← entriesAt address).length
  let merged ← mergeAll depth steps address
  let own ← entriesAt address
  own.forM fun entry => plainKey entry.1
  if !merged.isEmpty then putEntries address (merged ++ own)
termination_by (depth, 1, 0)

/-- Takes all entries to be merged out of the mapping at an address: the entries that they stand
for. Of several mappings in a sequence the first ones count most. -/
def mergeAll (depth steps : Nat) (address : Address) : Building (List (Address × Address)) := do
  match steps with
  | 0 => return []
  | steps + 1 =>
    match ← takeMerge? address with
    | none => return []
    | some merged =>
      match depth with
      | 0 => throw .tooDeep
      | depth + 1 =>
        let entries ←
          match ← nodeAt merged with
          | .mapping _ _ =>
            flatten depth merged
            entriesAt merged
          | .sequence _ items =>
            let parts ← items.mapM fun item => do
              let _ ← entriesAt item
              flatten depth item
              entriesAt item
            pure parts.reverse.flatten
          | .scalar _ _ => throw .malformed
        return entries ++ (← mergeAll (depth + 1) steps address)
termination_by (depth, 0, steps)

end

/-- The datum of a node whose tag asks for a scalar. A time must be a scalar itself. -/
def scalarAt (address : Address) (n : Node) (tag : Tag) : Building Datum := do
  let graph := (← get).graph
  let text ← textOf graph (graph.size + 1) address
  match n, tag with
  | .mapping _ _, .time => throw (.noValue .timeOfMapping)
  | _, _ => scalarDatum address tag text

def know (address : Address) (d : Datum) : Building Unit :=
  modify fun b => { b with known := b.known.setIfInBounds address (some d) }

def await (address : Address) : Building Unit :=
  modify fun b => { b with waiting := address :: b.waiting }

/-- The datum of a node. A collection waits to be filled when it is met for the first time. -/
def datumAt (address : Address) : Building Datum := do
  match (← get).known.getD address none with
  | some d => return d
  | none =>
    let n ← nodeAt address
    let d ←
      match n.tag with
      | .sequence | .mapping | .set | .pairs =>
        await address
        pure (.collection address)
      | .unknown | .merge | .value => throw .malformed
      | tag => scalarAt address n tag
    know address d
    return d

/-- The data of entries under different keys: a repeated key keeps its place and takes the later
datum. -/
def entryData (entries : List (Address × Address)) : Building (List (Datum × Datum)) := do
  let table ← entries.foldlM (fun table entry => do
    let key ← datumAt entry.1
    if !key.isName then throw .malformed
    return table.put key (← datumAt entry.2)) (∅ : Table Datum Datum)
  return table.entries

/-- The data of a mapping of one entry, as a pair. -/
def pairAt (address : Address) : Building (Datum × Datum) := do
  match ← entriesAt address with
  | [(key, value)] =>
    let first ← datumAt key
    return (first, ← datumAt value)
  | _ => throw .malformed

/-- The data of the mapping at an address. -/
def mappingAt (address : Address) : Building (List (Datum × Datum)) := do
  let _ ← entriesAt address
  flatten maxMergeDepth address
  entryData (← entriesAt address)

/-- The collection of the node at an address. -/
def collectionAt (address : Address) : Building Collection := do
  let n ← nodeAt address
  match n.tag, n with
  | .sequence, .sequence _ items => return .list (← items.mapM datumAt)
  | .pairs, .sequence _ items => return .pairs (← items.mapM pairAt)
  | .mapping, .mapping _ _ => return .mapping (← mappingAt address)
  | .set, .mapping _ _ => return .set (Slots.ordered ((← mappingAt address).map Prod.fst))
  | _, _ => throw .malformed

/-- Fills the collection of the node at an address. -/
def fill (address : Address) : Building Unit := do
  let c ← collectionAt address
  modify fun b => { b with store := b.store.put address c }

/-- Fills the collections that wait, and then those that have come to wait meanwhile. -/
def fillAll : Nat → Building Unit
  | 0 => return ()
  | fuel + 1 => do
    let waiting := (← get).waiting
    if waiting.isEmpty then return ()
    modify fun b => { b with waiting := [] }
    waiting.reverse.forM fill
    fillAll fuel

/-- The datum of a node, everything in it filled; every round fills a collection at least. -/
def build (address : Address) : Building Datum := do
  let d ← datumAt address
  fillAll ((← get).graph.size + 1)
  return d

end Building

/-! ### Documents -/

structure Document where
  root : Datum
  store : Store := {}

def isAllowed (c : Char) : Bool :=
  let n := c.toNat
  n == 0x09 || n == 0x0A || n == 0x0D || (0x20 ≤ n && n ≤ 0x7E) || n == 0x85 ||
    (0xA0 ≤ n && n ≤ 0xFFFD) || 0x10000 ≤ n

/-- The text with line feeds for all other line ends of files. -/
def withLineFeeds : List Char → List Char
  | '\r' :: '\n' :: rest => '\n' :: withLineFeeds rest
  | '\r' :: rest => '\n' :: withLineFeeds rest
  | c :: rest => c :: withLineFeeds rest
  | [] => []

/-- The document of a text; a text without one holds nothing. -/
def load (text : List Char) : Except Stop Document := do
  let text := withLineFeeds text
  if !text.all isAllowed then throw .malformed
  let (graph, root?) ← compose (tokens text)
  match root? with
  | none => return ⟨.scalar .null, {}⟩
  | some root =>
    let (d, b) ← (Building.build root).run { graph, known := Array.replicate graph.size none }
    return ⟨d, b.store⟩

end Yaml

end PromptForm
