import PromptForm.Schema.Document
import PromptForm.Text.Cut

/-!
# Documents in files

A schema document is read from a file whose name ends in `.xml`, in any case of letters. The files
are given as a list of what there is at which place, told by the names on the way to it from the root
directory; directories are there as soon as something is in them. A path is followed name by name,
from the root directory when it begins with a slash and from the start directory otherwise.

## Main definitions

* `Asset.Node`, `Asset.Files`: what there is, and where paths start.
* `Asset.Request`: the file that is asked for.
* `Asset.lookup`: what there is at a path.
* `Asset.read`: the bytes of the file that is asked for.
* `Schema.load`: the schema of the document in it.

## Design notes

A place is told by names that are neither empty nor dots, so the parent of a directory is what is left
without its last name. A link is therefore replaced by what it stands for before the names behind it
are followed: `walk` stops at a link, and `follow` goes on from there. An empty name, as behind the
slash at the end of a path, is followed in every directory, a dot only in one that may be searched.
-/

namespace PromptForm

namespace Asset

/-- What there can be at a place. Things that are neither files nor directories count as nothing. -/
inductive Node where
  | file (bytes : List UInt8)
  | unreadable (reason : String)
  | directory
  /-- A directory that may not be searched. -/
  | closed
  /-- Something of which it cannot be told what it is. -/
  | obscure
  /-- A symbolic link and the path that it stands for. -/
  | link (target : String)
  deriving Repr

abbrev Names := List String

/-- What there is, by the names on the way to it from the root directory, and the directory in which
paths start. -/
structure Files where
  start : Names
  entries : List (Names × Node)

/-- Files that are given by the names on the way from the start directory. -/
instance : Coe (List (Names × Node)) Files where
  coe entries := ⟨["start"], entries.map fun (names, node) => ("start" :: names, node)⟩

/-- The parts of a path between its slashes. -/
def partsOf (path : String) : Names :=
  (Text.splitOn '/' path.toList).map String.ofList

/-- The names of a path that lead somewhere: neither empty ones nor single dots. -/
def namesOf (path : String) : Names :=
  (partsOf path).filter fun name => name != "" && name != "."

/-- The slashes that a path begins with: none, one, or exactly two, more of them counting as one. -/
def rootOf (path : String) : String :=
  match path.toList.takeWhile (· == '/') with
  | [] => ""
  | [_, _] => "//"
  | _ => "/"

/-- A path without the parts that lead nowhere. -/
def tidied (path : String) : String :=
  let root := rootOf path
  let names := root ++ "/".intercalate (namesOf path)
  if names.isEmpty then "." else names

inductive Request where
  | nothing
  | text (path : String)
  | path (path : String)
  deriving DecidableEq, Repr

/-- The path that is asked for, as it is shown. -/
def Request.shown? : Request → Option String
  | nothing => none
  | text s => some s
  | path s => some (tidied s)

/-- The part of a name from its last dot on, unless the dot is the first or the last character. -/
def suffixOf (name : String) : String :=
  let reversed := name.toList.reverse
  let after := reversed.takeWhile (· != '.')
  match reversed.dropWhile (· != '.') with
  | _ :: before =>
    if after.isEmpty || before.isEmpty then ""
    else String.ofList ('.' :: after.reverse)
  | [] => ""

def isXml (path : String) : Bool :=
  (suffixOf ((namesOf path).getLastD "")).toLower == ".xml"

/-- What there is with these names on the way to it: the last entry for them, or a directory when they
are on the way to an entry or to the start directory. -/
def Files.node? (files : Files) (names : Names) : Option Node :=
  match files.entries.reverse.find? fun entry => entry.1 == names with
  | some entry => some entry.2
  | none =>
    if names.isPrefixOf files.start || files.entries.any fun entry => names.isPrefixOf entry.1 then
      some .directory
    else none

/-- The greatest number of bytes of a name. -/
def maxNameBytes : Nat := 255

/-- The greatest number of bytes of a path. -/
def maxPathBytes : Nat := 4095

/-- The greatest number of links on the way to a file. -/
def maxLinks : Nat := 40

/-- Where names lead. -/
inductive Walk where
  | ended (node? : Option Node)
  /-- To a link in a directory, with names behind it. -/
  | linked (target : String) (here rest : Names)

/-- Follows names from a directory to their end or to the first link. -/
def walk (files : Files) (here : Names) : Names → Except Fault Walk
  | [] => .ok (.ended (files.node? here))
  | name :: rest =>
    match files.node? here with
    | some .directory =>
      if name == "" || name == "." then walk files here rest
      else if name == ".." then walk files here.dropLast rest
      else if name.utf8ByteSize > maxNameBytes then .error .fileNameTooLong
      else
        match files.node? (here ++ [name]) with
        | some .obscure => .error .lookupFailed
        | some (.link target) => .ok (.linked target here rest)
        | _ => walk files (here ++ [name]) rest
    | some .closed => if name == "" then walk files here rest else .error .accessDenied
    | _ => .ok (.ended none)

/-- The directory from which a path is followed that is met in a directory. -/
def origin (here : Names) (path : String) : Names :=
  if rootOf path == "" then here else []

/-- Follows names from a directory to what there is at their end, over so many links at most. -/
def follow (files : Files) (links : Nat) (here names : Names) : Except Fault (Option Node) :=
  match walk files here names with
  | .error f => .error f
  | .ok (.ended node?) => .ok node?
  | .ok (.linked target there rest) =>
    match links with
    | 0 => .ok none
    | links + 1 => follow files links (origin there target) (partsOf target ++ rest)

/-- What there is at a path; a null character leads nowhere. -/
def lookup (files : Files) (path : String) : Except Fault (Option Node) :=
  if path.toList.contains '\x00' then .ok none
  else if (tidied path).utf8ByteSize > maxPathBytes then .error .fileNameTooLong
  else follow files maxLinks (origin files.start path) (namesOf path)

/-- The bytes of the file that is asked for. -/
def read (files : Files) (request : Request) : Except Fault (List UInt8) :=
  match request.shown? with
  | none => .error (.asset ⟨none, "no file selected"⟩)
  | some path =>
    if path.isEmpty then .error (.asset ⟨none, "no file selected"⟩)
    else if !isXml path then .error (.asset ⟨some path, "not an XML file"⟩)
    else
      match lookup files path with
      | .error f => .error f
      | .ok (some (.file bytes)) => .ok bytes
      | .ok (some (.unreadable reason)) =>
        .error (.asset ⟨some path, "read failed (" ++ reason ++ ")"⟩)
      | .ok _ => .error (.asset ⟨some path, "file not found"⟩)

end Asset

namespace Schema

/-- The schema of the document in the file that is asked for. -/
def load (files : Asset.Files) (request : Asset.Request) : Traced Schema := do
  let bytes ← Asset.read files request
  let source := request.shown?.getD ""
  let schema ← read (.bytes bytes) source
  Traced.note (.loaded schema.metadata.name source)
  return schema

end Schema

end PromptForm
