import PromptForm.Yaml.Point
import PromptForm.Yaml.Tag

/-!
# The graph of a document

A node of a document may stand in several places, even inside itself, since an alias means the node
that has the anchor. So the nodes of a document are kept in a graph, where each has an address, and a
collection holds the addresses of its parts.

## Main definitions

* `Node`: the nodes.
* `Graph`: the nodes by their addresses; `Graph.add` and `Graph.put` write nodes, `Graph.get` reads
  them.
-/

namespace PromptForm

namespace Yaml

abbrev Address := Nat

inductive Node where
  | scalar (tag : Tag) (text : List Point)
  | sequence (tag : Tag) (items : List Address)
  | mapping (tag : Tag) (entries : List (Address × Address))
  deriving Repr

namespace Node

def empty : Node := .scalar .null []

instance : Inhabited Node := ⟨empty⟩

def tag : Node → Tag
  | scalar tag _ | sequence tag _ | mapping tag _ => tag

def withTag (tag : Tag) : Node → Node
  | scalar _ text => scalar tag text
  | sequence _ items => sequence tag items
  | mapping _ entries => mapping tag entries

@[simp] theorem tag_withTag (t : Tag) (n : Node) : (n.withTag t).tag = t := by
  cases n <;> rfl

end Node

structure Graph where
  nodes : Array Node := #[]

namespace Graph

def size (g : Graph) : Nat := g.nodes.size

def get (g : Graph) (address : Address) : Node :=
  g.nodes.getD address Node.empty

/-- The address of a new node, and the graph with it. -/
def add (g : Graph) (n : Node) : Address × Graph :=
  (g.size, ⟨g.nodes.push n⟩)

/-- The graph with another node at an address. -/
def put (g : Graph) (address : Address) (n : Node) : Graph :=
  ⟨g.nodes.setIfInBounds address n⟩

def tagAt (g : Graph) (address : Address) : Tag :=
  (g.get address).tag

@[simp] theorem get_add (g : Graph) (n : Node) : (g.add n).2.get (g.add n).1 = n := by
  simp [add, get, size]

/-- The nodes that were there before stay as they are when one is added. -/
theorem get_add_of_lt {g : Graph} {address : Address} (h : address < g.size) (n : Node) :
    (g.add n).2.get address = g.get address := by
  have hne : address < g.nodes.size := h
  simp [add, get, Array.getD, hne, Nat.lt_succ_of_lt hne, Array.getElem_push_lt hne]

/-- The node that is put at an address is found there. -/
theorem get_put_self {g : Graph} {address : Address} (h : address < g.size) (n : Node) :
    (g.put address n).get address = n := by
  have hlt : address < g.nodes.size := h
  simp [put, get, Array.getD, hlt]

@[simp] theorem size_put (g : Graph) (address : Address) (n : Node) :
    (g.put address n).size = g.size := by
  simp [put, size]

end Graph

end Yaml

end PromptForm
