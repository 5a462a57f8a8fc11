/-!
# Elements

The tree that a document denotes. An element holds its text up to the first child, its children, and
each child the text that follows it, its tail. Comments and instructions leave no trace. A tag or an
attribute name in a namespace is written with the namespace in braces before it.

## Main definitions

* `Element`: an element with its attributes, texts and children.
* `Element.all`: the element and its descendants in document order.
* `Element.innerText`: the text of an element and its descendants.
* `Element.child?`, `Element.descendant?`: the first child or descendant with a tag.

## Design notes

Every search is a search in `Element.all` or in the list of children, so that what is found is
always the first match in document order.
-/

namespace PromptForm

namespace Xml

inductive Element where
  /-- An element with the text before its first child and the text after its end. -/
  | node (tag : String) (attributes : List (String × String)) (text : String)
      (children : List Element) (tail : String)
  deriving Repr, Inhabited

namespace Element

def tag : Element → String
  | node tag _ _ _ _ => tag

def attributes : Element → List (String × String)
  | node _ attributes _ _ _ => attributes

def text : Element → String
  | node _ _ text _ _ => text

def children : Element → List Element
  | node _ _ _ children _ => children

/-- The text that follows the element in its parent. -/
def tail : Element → String
  | node _ _ _ _ tail => tail

def withTail (tail : String) : Element → Element
  | node tag attributes text children _ => node tag attributes text children tail

def attribute? (e : Element) (name : String) : Option String :=
  e.attributes.lookup name

mutual

/-- The element and its descendants in document order. -/
def all : Element → List Element
  | node tag attributes text children tail =>
    node tag attributes text children tail :: allOf children

/-- The elements and their descendants in document order. -/
def allOf : List Element → List Element
  | [] => []
  | e :: es => all e ++ allOf es

end

mutual

/-- The text of an element and its descendants, its own tail apart. -/
def innerText : Element → String
  | node _ _ text children _ => text ++ textOf children

/-- The texts of elements, each with its tail. -/
def textOf : List Element → String
  | [] => ""
  | node tag attributes text children tail :: es =>
    innerText (node tag attributes text children tail) ++ tail ++ textOf es

end

/-- The descendants of an element in document order. -/
def descendants (e : Element) : List Element :=
  allOf e.children

/-- The elements with a tag, among the element and its descendants, in document order. -/
def withTag (e : Element) (tag : String) : List Element :=
  e.all.filter (·.tag == tag)

def child? (e : Element) (tag : String) : Option Element :=
  e.children.find? (·.tag == tag)

def descendant? (e : Element) (tag : String) : Option Element :=
  e.descendants.find? (·.tag == tag)

/-- The element itself or its first descendant with a tag. -/
def find? (e : Element) (tag : String) : Option Element :=
  e.all.find? (·.tag == tag)

/-- The text of the first child with a tag, empty when there is none. -/
def childText (e : Element) (tag : String) : String :=
  match e.child? tag with
  | some child => child.innerText
  | none => ""

@[simp] theorem allOf_nil : allOf [] = [] := by simp [allOf]

@[simp] theorem allOf_cons (e : Element) (es : List Element) :
    allOf (e :: es) = e.all ++ allOf es := by simp [allOf]

theorem all_eq (e : Element) : e.all = e :: allOf e.children := by
  cases e
  simp [all, children]

/-- The elements of a list of trees are those of each tree in turn. -/
theorem allOf_eq_flatMap (es : List Element) : allOf es = es.flatMap all := by
  induction es with
  | nil => simp
  | cons e es ih => simp [ih]

/-- A search from the element takes the element itself before its descendants. -/
theorem find?_eq (e : Element) (tag : String) :
    e.find? tag = if e.tag == tag then some e else e.descendant? tag := by
  rw [find?, all_eq, descendant?, descendants, List.find?_cons]
  cases e.tag == tag <;> rfl

end Element

end Xml

end PromptForm
