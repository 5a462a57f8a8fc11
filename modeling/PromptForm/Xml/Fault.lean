import PromptForm.Xml.Symbol

/-!
# Faults of documents

A document that is not well formed is refused with a cause and a position. Lines count from one and
columns from zero, in characters; a carriage return with the line feed after it is one line break.

## Main definitions

* `Position`: a line and a column; `Position.after` is the position behind a text.
* `Cause`: what is wrong, with its wording in `Cause.message`.
* `Fault`: a cause at a position, with its wording in `Fault.message`.
-/

namespace PromptForm

namespace Xml

structure Position where
  line : Nat
  column : Nat
  deriving DecidableEq, Repr

/-- Where the text leads from a position; `afterReturn` tells whether a carriage return came just
before. A stray byte takes no place. -/
def Position.advance (p : Position) (afterReturn : Bool) : Symbols → Position
  | [] => p
  | s :: rest =>
    if s.is '\r' then advance ⟨p.line + 1, 0⟩ true rest
    else if s.is '\n' then
      if afterReturn then advance p false rest else advance ⟨p.line + 1, 0⟩ false rest
    else if s.form = .stray then advance p false rest
    else advance ⟨p.line, p.column + 1⟩ false rest

/-- The position behind a text that begins a document. -/
def Position.after (s : Symbols) : Position :=
  advance ⟨1, 0⟩ false s

inductive Cause where
  | syntaxFault
  | noElement
  | notWellFormed
  | unclosedToken
  | partialCharacter
  | mismatchedTag
  | duplicateAttribute
  | junkAfterElement
  | undefinedEntity
  | undefinedReference (reference : String)
  | recursiveReference
  | asynchronousEntity
  | badCharacterNumber
  | binaryEntityReference
  | externalEntityInAttribute
  | misplacedDeclaration
  | badDeclaration
  | unknownEncoding
  | incorrectEncoding
  | unclosedCdata
  | illegalParameterReference
  | illegalPublicId
  | tooMuchText
  | unboundPrefix
  | undeclaredPrefix
  | reservedXml
  | reservedXmlns
  | reservedNamespace
  deriving DecidableEq, Repr

def Cause.message : Cause → String
  | syntaxFault => "syntax error"
  | noElement => "no element found"
  | notWellFormed => "not well-formed (invalid token)"
  | unclosedToken => "unclosed token"
  | partialCharacter => "partial character"
  | mismatchedTag => "mismatched tag"
  | duplicateAttribute => "duplicate attribute"
  | junkAfterElement => "junk after document element"
  | undefinedEntity => "undefined entity"
  | undefinedReference reference => "undefined entity " ++ reference
  | recursiveReference => "recursive entity reference"
  | asynchronousEntity => "asynchronous entity"
  | badCharacterNumber => "reference to invalid character number"
  | binaryEntityReference => "reference to binary entity"
  | externalEntityInAttribute => "reference to external entity in attribute"
  | misplacedDeclaration => "XML or text declaration not at start of entity"
  | badDeclaration => "XML declaration not well-formed"
  | unknownEncoding => "unknown encoding"
  | incorrectEncoding => "encoding specified in XML declaration is incorrect"
  | unclosedCdata => "unclosed CDATA section"
  | illegalParameterReference => "illegal parameter entity reference"
  | illegalPublicId => "illegal character(s) in public id"
  | tooMuchText => "limit on input amplification factor (from DTD and entities) breached"
  | unboundPrefix => "unbound prefix"
  | undeclaredPrefix => "must not undeclare prefix"
  | reservedXml =>
    "reserved prefix (xml) must not be undeclared or bound to another namespace name"
  | reservedXmlns => "reserved prefix (xmlns) must not be declared or undeclared"
  | reservedNamespace => "prefix must not be bound to one of the reserved namespace names"

structure Fault where
  cause : Cause
  position : Position
  deriving DecidableEq, Repr

/-- The wording of a fault: its cause and its position. -/
def Fault.message (f : Fault) : String :=
  f.cause.message ++ ": line " ++ toString f.position.line ++ ", column " ++
    toString f.position.column

/-- A cause at a mark: the number of symbols from the place to the end of the document. -/
structure Stop where
  cause : Cause
  mark : Nat
  deriving DecidableEq, Repr

/-- The fault that a stop is in a document. -/
def Stop.toFault (document : Symbols) (s : Stop) : Fault :=
  ⟨s.cause, Position.after (document.take (document.mark - s.mark))⟩

end Xml

end PromptForm
