import PromptForm.Xml.Dtd
import PromptForm.Xml.Tag

/-!
# Namespaces and start tags

A start tag takes effect in this order: the values of its attributes are made, those that bind a
namespace are taken out, the declared defaults are added, and then the names are expanded in the
bindings now in force. A name in a namespace is expanded to the namespace in braces and the local
name.

## Main definitions

* `Scope`: the bindings in force.
* `Scope.bind`: one more binding.
* `Scope.enter`: what a start tag means.
-/

namespace PromptForm

namespace Xml

def xmlNamespace : String := "http://www.w3.org/XML/1998/namespace"

def xmlnsNamespace : String := "http://www.w3.org/2000/xmlns/"

/-- The bindings in force, the latest first. The empty label is that of names without a label, and
the empty namespace is none. -/
abbrev Scope := List (String × String)

namespace Scope

def initial : Scope := [("xml", xmlNamespace)]

def bind (scope : Scope) (label uri : String) : Except Cause Scope :=
  if uri = "" ∧ label ≠ "" then .error .undeclaredPrefix
  else if label = "xmlns" then .error .reservedXmlns
  else if uri.toList.contains '}' then .error .syntaxFault
  else if label = "xml" ∧ uri ≠ xmlNamespace then .error .reservedXml
  else if label ≠ "xml" ∧ (uri = xmlNamespace ∨ uri = xmlnsNamespace) then
    .error .reservedNamespace
  else .ok ((label, uri) :: scope)

def namespace? (scope : Scope) (label : String) : Option String :=
  match scope.lookup label with
  | some "" => none
  | other => other

def expanded (uri localName : String) : String :=
  "\x7b" ++ uri ++ "\x7d" ++ localName

/-- The label and the local name of a qualified name; the label is empty without a colon. -/
def parts (name : String) : String × String :=
  let chars := name.toList
  match chars.dropWhile (· ≠ ':') with
  | _ :: localName => (String.ofList (chars.takeWhile (· ≠ ':')), String.ofList localName)
  | [] => ("", name)

/-- The label that an attribute binds: the empty one for `xmlns`, none for a common attribute. -/
def bound? (name : String) : Option String :=
  if name = "xmlns" then some ""
  else
    match parts name with
    | ("xmlns", label) => some label
    | _ => none

/-- What a start tag means: an expanded tag, expanded attributes and the bindings inside, and what was
read up to its end. -/
structure Entered where
  tag : String
  attributes : List (String × String)
  scope : Scope
  tally : Tally

/-- The attributes that were taken: their names, the bindings inside, names and values, and what was
read. -/
structure Taken where
  seen : List String
  scope : Scope
  attributes : List (String × String)
  tally : Tally

def stopAt {α : Type} (mark : Nat) (r : Except Cause α) : Except Stop α :=
  r.mapError fun cause => ⟨cause, mark⟩

/-- Takes the written attributes one after the other: their values, and the bindings among them. The
attributes before them were taken already and are in reverse. -/
def readAttributes (d : Dtd) (decls : List AttributeDecl) (opened : List String)
    (account : Account) (around : Nat) : Taken → List RawAttribute → Except Stop Taken
  | taken, [] => .ok { taken with attributes := taken.attributes.reverse }
  | taken, a :: rest =>
    if taken.seen.contains a.name then .error ⟨.duplicateAttribute, a.mark⟩
    else do
      let isCdata := ((decls.find? (·.name == a.name)).map (·.isCdata)).getD true
      let account := if isNormal a.value then .none else account
      let (value, tally) ← d.value opened account taken.tally isCdata around a.value
      let taken := { taken with seen := a.name :: taken.seen, tally }
      match bound? a.name with
      | some label =>
        let scope ← stopAt around (taken.scope.bind label value)
        readAttributes d decls opened account around { taken with scope } rest
      | none =>
        let attributes := (a.name, value) :: taken.attributes
        readAttributes d decls opened account around { taken with attributes } rest

/-- Adds the declared defaults of the attributes that are not written. -/
def addDefaults (around : Nat) (seen : List String) :
    List AttributeDecl → Scope → List (String × String) →
      Except Stop (Scope × List (String × String))
  | [], scope, attributes => .ok (scope, attributes)
  | decl :: rest, scope, attributes =>
    match decl.default? with
    | none => addDefaults around seen rest scope attributes
    | some value =>
      if seen.contains decl.name then addDefaults around seen rest scope attributes
      else
        match bound? decl.name with
        | some label => do
          let scope ← stopAt around (scope.bind label value)
          addDefaults around seen rest scope attributes
        | none => addDefaults around seen rest scope (attributes ++ [(decl.name, value)])

/-- Expands the names of attributes; a name without a label is in no namespace. -/
def expandAttributes (scope : Scope) (around : Nat) :
    List (String × String) → List (String × String) → Except Stop (List (String × String))
  | [], done => .ok done.reverse
  | (name, value) :: rest, done =>
    match parts name with
    | ("", _) => expandAttributes scope around rest ((name, value) :: done)
    | (label, localName) =>
      match scope.namespace? label with
      | none => .error ⟨.unboundPrefix, around⟩
      | some uri =>
        let name := expanded uri localName
        if done.any (·.1 == name) then .error ⟨.duplicateAttribute, around⟩
        else expandAttributes scope around rest ((name, value) :: done)

/-- What a start tag means in the bindings around it. The tag may stand in the texts of the entities
in `opened`. -/
def enter (scope : Scope) (d : Dtd) (opened : List String) (account : Account) (tally : Tally)
    (around : Nat) (name : String) (attributes : List RawAttribute) : Except Stop Entered := do
  let decls := d.attributesOf name
  let taken ← readAttributes d decls opened account around ⟨[], scope, [], tally⟩ attributes
  let (scope, all) ← addDefaults around taken.seen decls taken.scope taken.attributes
  let attributes ← expandAttributes scope around all []
  let (label, localName) := parts name
  match scope.namespace? label with
  | some uri => return ⟨expanded uri localName, attributes, scope, taken.tally⟩
  | none =>
    if label = "" then return ⟨name, attributes, scope, taken.tally⟩
    else .error ⟨.unboundPrefix, around⟩

end Scope

end Xml

end PromptForm
