import PromptForm.Xml.Document
import PromptForm.Xml.Path
import PromptForm.Yaml.Stop

/-!
# Faults

Why an operation has no result. Two faults are part of the contract and carry a text of their own: a
document that is not well formed, and a file that is not there. The others say what else can go
wrong, one constructor for each cause.

## Main definitions

* `DocumentFault`, `AssetFault`: the faults with a text.
* `LocaleFault`: why a locale file cannot be read.
* `Issue`: one field that does not have the shape it should have.
* `Fault`: all faults.
-/

namespace PromptForm

structure DocumentFault where
  source : String
  reason : String
  line? : Option Int
  column? : Option Int
  deriving DecidableEq, Repr

namespace DocumentFault

/-- The place of the fault in words, empty without a line. -/
def location (f : DocumentFault) : String :=
  match f.line?, f.column? with
  | none, _ => ""
  | some line, none => " at line " ++ toString line
  | some line, some column => " at line " ++ toString line ++ ", column " ++ toString column

def message (f : DocumentFault) : String :=
  "Invalid schema document '" ++ f.source ++ "'" ++ f.location ++ ": " ++ f.reason

/-- The fault that a document of a name has. -/
def ofXml (source : String) (f : Xml.Fault) : DocumentFault :=
  ⟨source, f.message, some f.position.line, some f.position.column⟩

end DocumentFault

/-- A file that is not there or cannot be used. -/
structure AssetFault where
  path? : Option String
  reason : String
  deriving DecidableEq, Repr

def AssetFault.message (f : AssetFault) : String :=
  match f.path? with
  | none => "No schema available: " ++ f.reason
  | some path => "Cannot load schema '" ++ path ++ "': " ++ f.reason

inductive IssueKind where
  | missing
  | stringType
  | boolType
  | boolParsing
  | intType
  | intParsing
  | intParsingSize
  | intFromFloat
  | finiteNumber
  | listType
  | dictType
  | modelType
  deriving DecidableEq, Repr

/-- The name of what is wrong with a field. -/
def IssueKind.name : IssueKind → String
  | missing => "missing"
  | stringType => "string_type"
  | boolType => "bool_type"
  | boolParsing => "bool_parsing"
  | intType => "int_type"
  | intParsing => "int_parsing"
  | intParsingSize => "int_parsing_size"
  | intFromFloat => "int_from_float"
  | finiteNumber => "finite_number"
  | listType => "list_type"
  | dictType => "dict_type"
  | modelType => "model_type"

/-- A field that does not have the shape it should have. -/
structure Issue where
  location : List String
  kind : IssueKind
  deriving DecidableEq, Repr

inductive LocaleFault where
  | notUtf8
  /-- Its document has no data, or a text in it cannot be written. -/
  | document (stop : Yaml.Stop)
  deriving DecidableEq, Repr

inductive Fault where
  | document (f : DocumentFault)
  | asset (f : AssetFault)
  /-- Fields do not have the shape they should have. -/
  | invalid (issues : List Issue)
  /-- A document names an encoding that is not known. -/
  | unknownEncoding (name : String)
  /-- A document names an encoding of several bytes a character. -/
  | multibyteEncoding (name : String)
  /-- A document names an encoding in which bytes beyond ASCII cannot be decoded. -/
  | undecodableBytes (name : String)
  /-- A document names an encoding that decodes nothing. -/
  | emptyEncoding (name : String)
  /-- The order of a section has too many digits. -/
  | numberTooLong
  | nestedTooDeep
  /-- A value is taken for a sequence and is none. -/
  | notIterable
  | notName
  /-- An item of a submission does not have two parts. -/
  | notPair
  /-- The name of a file is too long to be looked up. -/
  | fileNameTooLong
  /-- A directory on the way to a file may not be searched. -/
  | accessDenied
  /-- It cannot be told what there is at a path. -/
  | lookupFailed
  /-- A text of a form is given under a name that there is not. -/
  | unknownText (name : String)
  /-- A value is taken for a mapping and is none. -/
  | notMapping
  | noElement
  /-- An element is asked for by a text that is no path. -/
  | path (flaw : Xml.Path.Flaw)
  | noReply
  /-- A record is to be written with an indentation that no line can have. -/
  | impossibleIndent
  | locale (cause : LocaleFault)
  | impossibleTime
  /-- A time has no instant in the years that can be written. -/
  | timeOutOfRange
  /-- A record has a time that cannot be written. -/
  | recordNotWritable
  deriving DecidableEq, Repr

def Fault.ofRefusal (source : String) : Xml.Refusal → Fault
  | .fault f => .document (.ofXml source f)
  | .unknownEncoding name => .unknownEncoding name
  | .multibyteEncoding name => .multibyteEncoding name
  | .undecodableBytes name => .undecodableBytes name
  | .emptyEncoding name => .emptyEncoding name

end PromptForm
