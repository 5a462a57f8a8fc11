import PromptForm.Xml.Content
import PromptForm.Xml.Encoding
import PromptForm.Xml.Prolog

/-!
# Reading documents

A document is decoded, its declaration is read, the encoding named there takes effect, and then
prolog, element and epilog follow. A text that is characters already keeps its encoding whatever the
declaration says. What the declaration says about the encoding is believed even where the document
cannot have been in that encoding so far.

## Main definitions

* `Declaration.parse`: the declaration of a document.
* `Source`: a document as text or as bytes.
* `Document.read`: the element that a document denotes, or why it is refused.
-/

namespace PromptForm

namespace Xml

structure Declaration where
  encoding? : Option (String × Nat) := none
  standalone : Bool := false

namespace Declaration

/-- A part of a declaration: a name and a quoted value, with their marks. -/
structure Part where
  name : String
  nameMark : Nat
  value : String
  valueMark : Nat

/-- Symbols of the values in a declaration. -/
def isValuePart (s : Symbol) : Bool :=
  s.char.isAlphanum || s.is '.' || s.is '-' || s.is '_'

/-- Symbols of the names in a declaration. -/
def isNamePart (s : Symbol) : Bool :=
  s.char.toNat < 0x80 && !s.is '=' && !s.isSpace

/-- The next part of a declaration, if there is one. The text runs to the end of the declaration,
behind which `after` symbols follow; the error is the mark of what is out of place. -/
def part (after : Nat) (s : Symbols) : Except Nat (Option Part × Symbols) :=
  let mark (s : Symbols) := if s.isEmpty then after else s.mark
  if s.isEmpty then .ok (none, [])
  else if !(s.head?.any Symbol.isSpace) then .error (mark s)
  else
    let start : Symbols := s.skipSpace
    if start.isEmpty then .ok (none, [])
    else
      let behind : Symbols := start.dropWhile isNamePart
      match behind.skipSpace with
      | [] => .error after
      | sign :: value =>
        if !sign.is '=' then .error sign.left
        else if behind.mark = start.mark then .error (mark start)
        else
          match Symbols.skipSpace value with
          | [] => .error after
          | quote :: value =>
            if !(quote.is '"' || quote.is '\'') then .error quote.left
            else
              match value.dropWhile isValuePart with
              | [] => .error after
              | c :: rest =>
                if c.is quote.char then
                  .ok (some ⟨(start.before behind).text, mark start,
                    (Symbols.before value (c :: rest)).text, mark value⟩, rest)
                else .error c.left

/-- The declaration in a text from `<?xml` to `?>`, behind which `after` symbols follow. -/
def parse (after : Nat) (text : Symbols) : Except Stop Declaration :=
  let body : Symbols := (text.drop 5).take (text.length - 7)
  let after := after + 2
  let bad (mark : Nat) : Except Stop Declaration := .error ⟨.badDeclaration, mark⟩
  let ending (d : Declaration) (rest : Symbols) : Except Stop Declaration :=
    match rest.skipSpace with
    | [] => .ok d
    | s :: _ => bad s.left
  let standalone (d : Declaration) (p : Part) (rest : Symbols) : Except Stop Declaration :=
    if p.name ≠ "standalone" then bad p.nameMark
    else if p.value = "yes" then ending { d with standalone := true } rest
    else if p.value = "no" then ending d rest
    else bad p.valueMark
  let encoding (p : Part) (rest : Symbols) : Except Stop Declaration :=
    if p.name = "encoding" then
      if (p.value.toList.head?.map Char.isAlpha).getD false then
        let d : Declaration := { encoding? := some (p.value, p.valueMark) }
        match part after rest with
        | .error mark => bad mark
        | .ok (none, _) => .ok d
        | .ok (some q, rest) => standalone d q rest
      else bad p.valueMark
    else standalone {} p rest
  match part after body with
  | .error mark => bad mark
  | .ok (none, _) => bad (after + body.length)
  | .ok (some p, rest) =>
    if p.name ≠ "version" then bad p.nameMark
    else
      match part after rest with
      | .error mark => bad mark
      | .ok (none, _) => .ok {}
      | .ok (some q, rest) => encoding q rest

end Declaration

inductive Source where
  | text (s : String)
  | bytes (bs : List UInt8)

inductive Refusal where
  | fault (f : Fault)
  | unknownEncoding (name : String)
  /-- It names an encoding of several bytes a character. -/
  | multibyteEncoding (name : String)
  /-- It names an encoding in which bytes beyond ASCII cannot be decoded. -/
  | undecodableBytes (name : String)
  | emptyEncoding (name : String)
  deriving DecidableEq, Repr

namespace Source

def toBytes : Source → List UInt8
  | text s => s.toUTF8.toList
  | bytes bs => bs

/-- Whether the encoding was fixed before the document was opened. -/
def isFixed : Source → Bool
  | text _ => true
  | bytes _ => false

end Source

namespace Document

/-- What the name of an encoding means for a document whose layout is known: the layout itself, or
another charset for what follows. -/
def charsetNamed (layout : Layout) (name : String) (mark : Nat) :
    Except (Stop ⊕ Refusal) (Option Charset) :=
  let isWide :=
    match layout with
    | .utf16 _ _ => true
    | _ => false
  let incorrect : Except (Stop ⊕ Refusal) (Option Charset) :=
    .error (.inl ⟨.incorrectEncoding, mark⟩)
  let narrow (charset : Option Charset) : Except (Stop ⊕ Refusal) (Option Charset) :=
    if isWide then incorrect else .ok charset
  let refuse (r : Refusal) : Except (Stop ⊕ Refusal) (Option Charset) := .error (.inr r)
  match String.ofList (name.toList.map Char.toLower) with
  | "utf-8" => narrow none
  | "iso-8859-1" => narrow (some .latin)
  | "us-ascii" => narrow (some .ascii)
  | "utf-16" => if isWide then .ok none else incorrect
  | "utf-16le" =>
    match layout with
    | .utf16 .little _ => .ok none
    | _ => incorrect
  | "utf-16be" =>
    match layout with
    | .utf16 .big _ => .ok none
    | _ => incorrect
  | _ =>
    match Charset.find? name with
    | none => refuse (.unknownEncoding name)
    | some .multibyte => refuse (.multibyteEncoding name)
    | some .domainNames => refuse (.undecodableBytes name)
    | some .empty => refuse (.emptyEncoding name)
    | some .unusable => .error (.inl ⟨.unknownEncoding, mark⟩)
    | some charset => .ok (some charset)

/-- A document whose declaration has taken effect: all its symbols, those behind the declaration,
and whether it stands alone. -/
structure Started where
  whole : Symbols
  body : Symbols
  standalone : Bool

/-- Reads the declaration of a decoded document, and decodes again what is behind it when it names
another encoding. From then on places are counted as if the whole document were in that encoding, in
which every byte is a symbol. -/
def start (source : Source) (layout : Layout) (whole : Symbols) :
    Except (Stop ⊕ Refusal) Started := do
  let text : Symbols := if layout.isMarked then whole.drop 1 else whole
  let undeclared : Started := ⟨whole, text, false⟩
  match text with
  | a :: b :: rest =>
    if !(a.is '<' && b.is '?') then return undeclared
    match instruction rest with
    | .found true body =>
      let declaration ← (Declaration.parse body.mark (text.before body)).mapError .inl
      match source.isFixed, declaration.encoding? with
      | false, some (name, mark) =>
        match ← charsetNamed layout name mark with
        | none => return ⟨whole, body, declaration.standalone⟩
        | some charset =>
          let consumed := layout.byteLength (whole.before body)
          let again := charset.decode source.toBytes
          return ⟨again, again.drop consumed, declaration.standalone⟩
      | _, _ => return ⟨whole, body, declaration.standalone⟩
    | _ => return undeclared
  | _ => return undeclared

/-- The element in the body of a document. -/
def element (layout : Layout) (started : Started) : Except Stop Element := do
  let dtd : Dtd :=
    { standalone := started.standalone
      unitBytes := layout.unitBytes
      size := layout.unitBytes * started.whole.unitsLeft }
  let (dtd, rest) ← Prolog.prolog dtd started.body
  let (root, rest, tally) ← content dtd rest
  -- values that were counted twice make the document count as longer than it is
  let size := tally.direct + dtd.unitBytes * rest.unitsLeft
  Prolog.epilog { dtd with size, spent := tally.indirect } (rest.length + 1) rest
  return root

/-- The element that a document denotes, or why the document is refused. -/
def read (source : Source) : Except Refusal Element :=
  let bytes := source.toBytes
  match Layout.detect bytes with
  | .broken => .error (.fault ⟨.unclosedToken, ⟨1, 0⟩⟩)
  | layout =>
    let whole := layout.decode bytes
    match start source layout whole with
    | .error (.inl s) => .error (.fault (s.toFault whole))
    | .error (.inr r) => .error r
    | .ok started =>
      (element layout started).mapError fun s => .fault (s.toFault started.whole)

end Document

end Xml

end PromptForm
