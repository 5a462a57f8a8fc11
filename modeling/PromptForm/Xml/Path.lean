import PromptForm.Number.Numeral
import PromptForm.Xml.Element

/-!
# Paths to elements

A path leads from an element to others, step by step: to children, to descendants, back to parents,
or past a filter in brackets. Steps are separated by slashes, a double slash leads to all
descendants. A text without any sign of a path is the tag of a child.

## Main definitions

* `Path.Token`: the tokens of a path; `Path.tokens` cuts a text into them.
* `Path.Pattern`, `Path.Filter`, `Path.Step`: what a step looks for.
* `Path.parse`: the steps of a path.
* `Path.Spot`: an element with its place in the tree.
* `Element.at?`: the first element that a path leads to.

## Design notes

Elements are values, so an element alone does not tell where it stands. A spot keeps the way from the
root, which tells two equal elements apart and leads back to the parent.
-/

namespace PromptForm

namespace Xml

namespace Path

open Text

inductive Flaw where
  | malformed
  | strayToken
  | unfinished
  | vastNumber
  deriving DecidableEq, Repr

inductive Token where
  | slash
  | descend
  | here
  | back
  | star
  | filterOpen
  | filterClose
  | parenOpen
  | parenClose
  | call
  | attribute
  | equal
  | unequal
  | quoted (content : String)
  | name (text : String)
  /-- A name with a label before a colon; a path knows no labels. -/
  | labelled
  | blank
  | colon
  deriving DecidableEq, Repr

/-- Whether a character may stand in a name. -/
def isNamePart (c : Char) : Bool :=
  !("/[]()@!=".toList.contains c || isBlank c)

def nameToken (name : List Char) : Token :=
  if name.head? ≠ some '\x7b' ∧ name.contains ':' then .labelled
  else .name (String.ofList name)

/-- The name at the start of a text, and the rest. A namespace in braces belongs to the name when
something follows it. -/
def nameAt (s : List Char) : List Char × List Char :=
  let plain := (s.takeWhile isNamePart, s.dropWhile isNamePart)
  match s with
  | '\x7b' :: inside =>
    let space := inside.takeWhile (· ≠ '\x7d')
    match inside.dropWhile (· ≠ '\x7d') with
    | _ :: after =>
      let name := after.takeWhile isNamePart
      if space.isEmpty || name.isEmpty then plain
      else ('\x7b' :: space ++ '\x7d' :: name, after.dropWhile isNamePart)
    | [] => plain
  | _ => plain

/-- The token that is no sign at the start of a text, and the rest; a character that begins no token
is passed over. -/
def wordAt (s : List Char) : Option Token × List Char :=
  match nameAt s with
  | ([], _) =>
    match s with
    | c :: rest => if isBlank c then (some .blank, rest.dropWhile isBlank) else (none, rest)
    | [] => (none, [])
  | (name, rest) => (some (nameToken name), rest)

/-- A text after its opening quote, up to the same quote, and the rest. -/
def quotedAt? (quote : Char) (s : List Char) : Option (Token × List Char) :=
  match s.dropWhile (· ≠ quote) with
  | _ :: rest => some (.quoted (String.ofList (s.takeWhile (· ≠ quote))), rest)
  | [] => none

/-- The token at the start of a text, and the rest. -/
def tokenAt (s : List Char) : Option Token × List Char :=
  match s with
  | ':' :: ':' :: rest => (some .colon, rest)
  | ':' :: rest => (some .colon, rest)
  | '/' :: '/' :: rest => (some .descend, rest)
  | '/' :: rest => (some .slash, rest)
  | '.' :: '.' :: rest => (some .back, rest)
  | '.' :: rest => (some .here, rest)
  | '(' :: ')' :: rest => (some .call, rest)
  | '(' :: rest => (some .parenOpen, rest)
  | ')' :: rest => (some .parenClose, rest)
  | '!' :: '=' :: rest => (some .unequal, rest)
  | '=' :: rest => (some .equal, rest)
  | '*' :: rest => (some .star, rest)
  | '[' :: rest => (some .filterOpen, rest)
  | ']' :: rest => (some .filterClose, rest)
  | '@' :: rest => (some .attribute, rest)
  | c :: rest =>
    if c = '"' ∨ c = '\'' then
      match quotedAt? c rest with
      | some (token, rest) => (some token, rest)
      | none => wordAt s
    else wordAt s
  | [] => (none, [])

/-- The tokens of a text; with `fuel` at least its length all of it is cut. -/
def tokensFrom : Nat → List Char → List Token
  | 0, _ => []
  | _, [] => []
  | fuel + 1, s =>
    match tokenAt s with
    | (some token, rest) => token :: tokensFrom fuel rest
    | (none, rest) => tokensFrom fuel rest

def tokens (s : List Char) : List Token :=
  tokensFrom s.length s

/-- What the tag of an element is compared with. -/
inductive Pattern where
  | any
  | tag (tag : String)
  | unspaced
  /-- The tags with a local name, in any namespace or none. -/
  | localName (name : String)
  /-- The tags that begin with a namespace in braces. -/
  | inside (space : String)
  deriving DecidableEq, Repr

namespace Pattern

def ofName (name : String) : Pattern :=
  let s := name.toList
  if s = ['\x7b', '*', '\x7d', '*'] then any
  else if s = ['\x7b', '\x7d', '*'] then unspaced
  else if s.take 3 = ['\x7b', '*', '\x7d'] then localName (String.ofList (s.drop 3))
  else if s.reverse.take 2 = ['*', '\x7d'] then inside (String.ofList s.dropLast)
  else if s.take 2 = ['\x7b', '\x7d'] then tag (String.ofList (s.drop 2))
  else tag name

def fits (tagOf : String) : Pattern → Bool
  | any => true
  | tag t => tagOf == t
  | unspaced => tagOf.toList.head? != some '\x7b'
  | localName name => tagOf == name || ('\x7d' :: name.toList).isSuffixOf tagOf.toList
  | inside space => space.toList.isPrefixOf tagOf.toList

end Pattern

/-- What is asked of an element in brackets. -/
inductive Filter where
  | hasAttribute (name : String)
  /-- It has an attribute of which it is asked whether it has a value. -/
  | attributeIs (name value : String) (expected : Bool)
  | hasChild (pattern : Pattern)
  | textIs (value : String) (expected : Bool)
  /-- It has a child of which it is asked whether its text is as given. -/
  | childTextIs (pattern : Pattern) (value : String) (expected : Bool)
  /-- It is the one at a place, from zero, among its siblings of the same tag. -/
  | fromStart (place : Nat)
  /-- It is the one at a place, from one, counted from the last of its siblings of the same tag. -/
  | fromEnd (place : Nat)
  deriving DecidableEq, Repr

inductive Step where
  | here
  | back
  | children (pattern : Pattern)
  | descendants (pattern : Pattern)
  | filter (filter : Filter)
  deriving DecidableEq, Repr

/-- Whether a name is a number: digits, and a minus sign perhaps. -/
def isNumber (name : String) : Bool :=
  let digits :=
    match name.toList with
    | '-' :: rest => rest
    | s => s
  !digits.isEmpty && digits.all fun c => (digitValue? c).isSome

/-- The filter for a place, which is counted from one. -/
def placeFilter (name : String) : Except Flaw Filter :=
  match Numeral.readInt? name.toList with
  | none => .error .vastNumber
  | some n => if n < 1 then .error .malformed else .ok (.fromStart (n - 1).toNat)

/-- The filter for a place before the last one. -/
def offsetFilter (name : String) : Except Flaw Filter :=
  match Numeral.readInt? name.toList with
  | none => .error .malformed
  | some n => if n < 0 then .ok (.fromEnd (1 - n).toNat) else .error .malformed

/-- The filter that tokens in brackets are, blanks apart. -/
def filterOf : List Token → Except Flaw Filter
  | [.attribute, .name key] => .ok (.hasAttribute key)
  | [.attribute, .name key, .equal, .quoted value] => .ok (.attributeIs key value true)
  | [.attribute, .name key, .unequal, .quoted value] => .ok (.attributeIs key value false)
  | [.here, .equal, .quoted value] => .ok (.textIs value true)
  | [.here, .unequal, .quoted value] => .ok (.textIs value false)
  | [.name name] =>
    if isNumber name then placeFilter name else .ok (.hasChild (.ofName name))
  | [.name name, .equal, .quoted value] =>
    if isNumber name then .error .malformed
    else .ok (.childTextIs (.ofName name) value true)
  | [.name name, .unequal, .quoted value] =>
    if isNumber name then .error .malformed
    else .ok (.childTextIs (.ofName name) value false)
  | [.name "last", .call] => .ok (.fromEnd 1)
  | [.name "last", .parenOpen, .parenClose] => .ok (.fromEnd 1)
  | [.name "last", .call, .name offset] => offsetFilter offset
  | _ => .error .malformed

/-- The tokens up to a closing bracket without the blanks among them, and the tokens behind it. -/
def bracketed : List Token → Except Flaw (List Token × List Token)
  | [] => .error .unfinished
  | .filterClose :: rest => .ok ([], rest)
  | .labelled :: _ => .error .malformed
  | .blank :: rest => bracketed rest
  | token :: rest => do
    let (inner, rest) ← bracketed rest
    return (token :: inner, rest)

/-- The step that begins with a token, and the tokens behind it. -/
def stepAt (token : Token) (rest : List Token) : Except Flaw (Step × List Token) :=
  match token with
  | .name name => .ok (.children (.ofName name), rest)
  | .blank => .ok (.children (.tag ""), rest)
  | .star => .ok (.children .any, rest)
  | .here => .ok (.here, rest)
  | .back => .ok (.back, rest)
  | .descend =>
    match rest with
    | .name name :: rest => .ok (.descendants (.ofName name), rest)
    | .blank :: rest => .ok (.descendants (.tag ""), rest)
    | .star :: rest => .ok (.descendants .any, rest)
    | [] => .error .unfinished
    | _ => .error .malformed
  | .filterOpen => do
    let (inner, rest) ← bracketed rest
    return (.filter (← filterOf inner), rest)
  | .labelled => .error .malformed
  | _ => .error .strayToken

/-- The tokens after the slash between two steps. -/
def skipSlash : List Token → List Token
  | .slash :: rest => rest
  | rest => rest

/-- The steps that tokens make up; with `fuel` at least their number all of them are taken. -/
def stepsFrom : Nat → List Token → Except Flaw (List Step)
  | 0, _ => .ok []
  | _, [] => .ok []
  | fuel + 1, token :: rest => do
    let (step, rest) ← stepAt token rest
    return step :: (← stepsFrom fuel (skipSlash rest))

/-- Whether a text is the tag of a child: no sign of a path stands in it outside braces. -/
def isTag (s : List Char) : Bool :=
  let rec noSign (outside : Bool) : List Char → Bool
    | [] => true
    | c :: rest =>
      if c = '\x7b' then noSign false rest
      else if c = '\x7d' then noSign true rest
      else !(outside && "/*[@.".toList.contains c) && noSign outside rest
  match s with
  | '\x7b' :: '\x7d' :: _ :: _ => false
  | '\x7b' :: '*' :: '\x7d' :: _ => false
  | _ => noSign true s

/-- The steps of a path. A slash at its end leads to all children, and none stands at its start. -/
def parse (path : String) : Except Flaw (List Step) :=
  let s := path.toList
  if isTag s then .ok [.children (.tag path)]
  else if s.head? = some '/' then .error .malformed
  else
    let whole := tokens (if s.getLast? = some '/' then s ++ ['*'] else s)
    if whole.isEmpty then .error .unfinished else stepsFrom whole.length whole

/-- An element with its place in the tree. -/
structure Spot where
  element : Element
  /-- The places among siblings on the way from the root, the last one first. -/
  way : List Nat
  /-- The elements around it, the innermost first. -/
  around : List Element

namespace Spot

def root (e : Element) : Spot := ⟨e, [], []⟩

def children (s : Spot) : List Spot :=
  s.element.children.zipIdx.map fun (e, i) => ⟨e, i :: s.way, s.element :: s.around⟩

def parent? (s : Spot) : Option Spot :=
  match s.way, s.around with
  | _ :: way, e :: around => some ⟨e, way, around⟩
  | _, _ => none

mutual

/-- An element and its descendants in document order. -/
def all (way : List Nat) (around : List Element) : Element → List Spot
  | .node tag attributes text children tail =>
    let e := Element.node tag attributes text children tail
    ⟨e, way, around⟩ :: allOf way (e :: around) 0 children

/-- The elements from a place on among siblings, and their descendants. -/
def allOf (way : List Nat) (around : List Element) : Nat → List Element → List Spot
  | _, [] => []
  | i, e :: es => all (i :: way) around e ++ allOf way around (i + 1) es

end

def descendants (s : Spot) : List Spot :=
  allOf s.way (s.element :: s.around) 0 s.element.children

/-- The places of the siblings with the same tag, the element included. -/
def likes (s : Spot) : List Nat :=
  match s.around with
  | [] => []
  | parent :: _ =>
    (parent.children.zipIdx.filter fun (e, _) => e.tag == s.element.tag).map (·.2)

/-- Whether the element is the one at a place among its siblings of the same tag. -/
def standsAt (s : Spot) (place : Nat) : Bool :=
  match s.likes[place]?, s.way.head? with
  | some i, some own => i == own
  | _, _ => false

def meets (s : Spot) : Filter → Bool
  | .hasAttribute name => (s.element.attribute? name).isSome
  | .attributeIs name value expected =>
    match s.element.attribute? name with
    | some v => (v == value) == expected
    | none => false
  | .hasChild pattern => s.element.children.any fun e => pattern.fits e.tag
  | .textIs value expected => (s.element.innerText == value) == expected
  | .childTextIs pattern value expected =>
    s.element.children.any fun e => pattern.fits e.tag && (e.innerText == value) == expected
  | .fromStart place => s.standsAt place
  | .fromEnd place => place ≤ s.likes.length && s.standsAt (s.likes.length - place)

end Spot

/-- Where a step leads from several spots. Nobody is the parent twice. -/
def Step.targets (spots : List Spot) : Step → List Spot
  | here => spots
  | back => (spots.filterMap Spot.parent?).eraseDupsBy fun a b => a.way == b.way
  | children pattern => (spots.flatMap Spot.children).filter fun s => pattern.fits s.element.tag
  | descendants pattern =>
    (spots.flatMap Spot.descendants).filter fun s => pattern.fits s.element.tag
  | filter f => spots.filter fun s => s.meets f

/-- Where steps lead from an element, one after the other. -/
def follow (e : Element) (steps : List Step) : List Spot :=
  steps.foldl Step.targets [.root e]

end Path

/-- The first element that a path leads to. -/
def Element.at? (e : Element) (path : String) : Except Path.Flaw (Option Element) := do
  return ((Path.follow e (← Path.parse path)).head?).map (·.element)

/-- The children at their places are the children. -/
theorem Path.Spot.map_element_children (s : Path.Spot) :
    s.children.map (·.element) = s.element.children := by
  simp [Path.Spot.children, Function.comp_def]

/-- A text without any sign of a path leads to the first child of that tag. -/
theorem Element.at?_of_isTag {e : Element} {path : String}
    (h : Path.isTag path.toList = true) : e.at? path = .ok (e.child? path) := by
  have hp : Path.parse path = .ok [.children (.tag path)] := by simp [Path.parse, h]
  have hc : e.child? path =
      ((Path.Spot.root e).children.find? fun s => s.element.tag == path).map (·.element) := by
    rw [Element.child?, show e.children = (Path.Spot.root e).element.children from rfl,
      ← Path.Spot.map_element_children, List.find?_map]
    rfl
  simp [Element.at?, hp, hc, Path.follow, Path.Step.targets, Path.Pattern.fits, bind,
    Except.bind, pure, Except.pure, List.head?_filter]

end Xml

end PromptForm
