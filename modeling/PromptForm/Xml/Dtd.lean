import PromptForm.Table
import PromptForm.Xml.Fault
import PromptForm.Xml.Scan
import PromptForm.Xml.Tally

/-!
# Declared entities and attributes

What a document type declares and content uses: entities, and for each element the attributes with
their kinds and defaults. The value of an attribute is made from its pieces: separators become
spaces, references are replaced, and the spaces of a value that is not character data are collapsed.

## Main definitions

* `Entity`, `AttributeDecl`, `Dtd`: the declarations.
* `Dtd.value`: the value that pieces denote.
-/

namespace PromptForm

namespace Xml

inductive Entity where
  | inner (text : Symbols)
  | outer
  | unparsed
  deriving Repr

structure AttributeDecl where
  name : String
  /-- Whether the value is character data, whose spaces are kept. -/
  isCdata : Bool
  default? : Option String
  deriving Repr

structure Dtd where
  entities : Table String Entity := ∅
  attributes : Table String (List AttributeDecl) := ∅
  /-- Whether the document says that it stands alone. -/
  standalone : Bool := false
  /-- Whether declarations may lie outside the document. -/
  hasOuterPart : Bool := false
  /-- Whether declarations still count: those behind a parameter reference may not. -/
  counts : Bool := true
  /-- The number of bytes of a unit of the document. -/
  unitBytes : Nat := 1
  /-- The number of bytes of the document. -/
  size : Nat := 0
  /-- The bytes of the texts of entities that went into defaults. -/
  spent : Nat := 0

namespace Dtd

/-- Whether an entity that is not declared is a fault. -/
def isComplete (d : Dtd) : Bool :=
  !d.hasOuterPart || d.standalone

/-- The character that one of the five predefined entities stands for. -/
def predefined? : String → Option Char
  | "lt" => some '<'
  | "gt" => some '>'
  | "amp" => some '&'
  | "quot" => some '"'
  | "apos" => some '\''
  | _ => none

/-- The attributes declared for an element. -/
def attributesOf (d : Dtd) (element : String) : List AttributeDecl :=
  (d.attributes.get? element).getD []

/-- Declares an attribute of an element. A default counts only where nothing was declared before. -/
def declare (d : Dtd) (element : String) (decl : AttributeDecl) : Dtd :=
  let known := d.attributesOf element
  if decl.default?.isSome && known.any (·.name == decl.name) then d
  else { d with attributes := d.attributes.put element (known ++ [decl]) }

/-- Declares an entity, unless its name is taken. -/
def declareEntity (d : Dtd) (name : String) (entity : Entity) : Dtd :=
  if (predefined? name).isSome || d.entities.contains name then d
  else { d with entities := d.entities.put name entity }

/-- A space at the end of a value in reverse, unless spaces are collapsed and there is one. -/
def addSpace (isCdata : Bool) (reversed : List Char) : List Char :=
  if isCdata then ' ' :: reversed
  else
    match reversed with
    | [] => []
    | ' ' :: _ => reversed
    | _ => ' ' :: reversed

/-- A stop inside the text of an entity lies at the reference to it, when the reference stands in the
document itself. -/
def relocate (mark : Nat) (s : Stop) : Stop := { s with mark := mark }

/-- What was read before the content when a text is left of the document. -/
def tallyBefore (d : Dtd) (rest : Symbols) : Tally :=
  ⟨d.size - d.unitBytes * rest.unitsLeft, d.spent⟩

/-- The number of bytes of a token that is counted. -/
def bytesOf (d : Dtd) (account : Account) (units : Nat) : Nat :=
  match account with
  | .document => d.unitBytes * units
  | _ => units

/-- A value in reverse, and what was read up to its end. -/
structure Expansion where
  reversed : List Char
  tally : Tally

def Expansion.addSpace (isCdata : Bool) (e : Expansion) : Expansion :=
  { e with reversed := Dtd.addSpace isCdata e.reversed }

def Expansion.addChar (c : Char) (e : Expansion) : Expansion :=
  { e with reversed := c :: e.reversed }

/-- Whether a piece goes on in the run of characters that the piece before it belongs to. -/
def continuesRun : Piece → Bool
  | .char c _ => !isSpace c
  | .reference .. => false
  | .broken _ => true

/-- Counts a piece. What was read is judged where a token ends: at the end of a run of characters, and
after everything else. -/
def countPiece (d : Dtd) (account : Account) (around : Nat) (e : Expansion) (piece : Piece)
    (rest : List Piece) : Except Stop Expansion :=
  let units :=
    match piece with
    | .char _ units => units
    | .reference _ _ units => units
    | .broken _ => 0
  let e := { e with tally := e.tally.add account (d.bytesOf account units) }
  let isInside := continuesRun piece && rest.head?.any continuesRun
  if account = .none || isInside || e.tally.isTolerated then .ok e
  else .error ⟨.tooMuchText, around⟩

/-- Appends what pieces denote to a value in reverse. The mark is that of the tag or literal around
the value; faults inside entities lie there. References nest at most `depth` deep. -/
def appendPieces (d : Dtd) (isCdata : Bool) (around : Nat) :
    (depth : Nat) → (opened : List String) → (inDocument : Bool) → Account → Expansion →
      List Piece → Except Stop Expansion
  | _, _, _, _, e, [] => .ok e
  | 0, _, _, _, _, _ :: _ => .error ⟨.recursiveReference, around⟩
  | depth + 1, opened, inDocument, account, e, piece :: rest => do
    let e ← d.countPiece account around e piece rest
    let place (mark : Nat) := if inDocument then mark else around
    let continue_ (e : Expansion) :=
      appendPieces d isCdata around (depth + 1) opened inDocument account e rest
    match piece with
    | .broken mark => .error ⟨.notWellFormed, place mark⟩
    | .char c _ => continue_ (if isSpace c then e.addSpace isCdata else e.addChar c)
    | .reference (.character none) mark _ => .error ⟨.badCharacterNumber, place mark⟩
    | .reference (.character (some c)) _ _ =>
      continue_ (if c = ' ' then e.addSpace isCdata else e.addChar c)
    | .reference (.entity n) mark _ =>
      match predefined? n with
      | some c => continue_ { e.addChar c with tally := e.tally.add .entity 1 }
      | none =>
        match d.entities.get? n with
        | none => if d.isComplete then .error ⟨.undefinedEntity, around⟩ else continue_ e
        | some entity =>
          if opened.contains n then .error ⟨.recursiveReference, place mark⟩
          else
            match entity with
            | .unparsed => .error ⟨.binaryEntityReference, place mark⟩
            | .outer => .error ⟨.externalEntityInAttribute, place mark⟩
            | .inner text =>
              let e ← appendPieces d isCdata around depth (n :: opened) false .entity e (pieces text)
              appendPieces d isCdata around (depth + 1) opened inDocument account e rest
  termination_by depth _ _ _ _ ps => (depth, ps.length)

/-- The value that pieces denote, within the texts of the entities in `opened`, and what was read up
to its end; the mark is that of the tag or literal around it. -/
def value (d : Dtd) (opened : List String) (account : Account) (tally : Tally) (isCdata : Bool)
    (around : Nat) (ps : List Piece) : Except Stop (String × Tally) := do
  let depth := d.entities.size + 2
  let e ← appendPieces d isCdata around depth opened true account ⟨[], tally⟩ ps
  let reversed :=
    match e.reversed with
    | ' ' :: rest => if isCdata then e.reversed else rest
    | _ => e.reversed
  return (String.ofList reversed.reverse, e.tally)

end Dtd

end Xml

end PromptForm
