import PromptForm.Proofs.Schema.Canonical

/-!
# Documents made of documents

Trees can be put into an element that a schema does not ask for. What is looked for is then looked for in
the trees in turn, and what is collected is collected from all of them: the metadata, the template and the
layout are those of the first tree that has them, and the variables are those of all trees, a repeated name
with its last definition in its first place. One tree in such an element is read as it is without it.

## Main definitions

* `Schema.soughtTags`: the tags that a schema is read from.
* `Xml.Element.holds`: a tree has an element with a tag.
* `Schema.statedFirst`: what the first tree with an element of a tag states.

## Main results

* `Schema.ofElement_node`: the schema of an element that holds trees.
* `Schema.ofElement_composes`: the same, and that an element around one tree changes nothing.
-/

namespace PromptForm

open Xml (Element)

namespace Xml.Element

/-- Whether the tree has an element with a tag, itself or a descendant. -/
def holds (e : Element) (tag : String) : Bool :=
  e.all.any (·.tag == tag)

theorem holds_eq_isSome (e : Element) (tag : String) : e.holds tag = (e.find? tag).isSome := by
  rw [holds, find?, Bool.eq_iff_iff, List.any_eq_true, List.find?_isSome]

section Node

variable {tag sought : String} (hne : tag ≠ sought) (attributes : List (String × String))
  (text : String) (children : List Element) (tail : String)

include hne

/-- An element that is not looked for only has what its children have. -/
theorem withTag_node_of_ne :
    (node tag attributes text children tail).withTag sought = children.flatMap (·.withTag sought) := by
  rw [withTag_node, if_neg (by simpa using hne), List.nil_append]

theorem find?_node_of_ne :
    (node tag attributes text children tail).find? sought = children.findSome? (·.find? sought) := by
  rw [find?_eq_head?, withTag_node_of_ne hne, List.head?_flatMap]
  simp only [find?_eq_head?]

end Node

end Xml.Element

namespace Schema

/-- The tags of the elements that a schema is read from, wherever they stand. -/
def soughtTags : List String := ["metadata", "prompt_template", "ui_configuration", "variable"]

variable {α β : Type} {tag sought : String} {attributes : List (String × String)} {text : String}
  {children : List Element} {tail : String} {schemas : List Schema}

/-- What the schema of the first tree with an element of a tag states, the schemas standing beside the
trees; a default when no tree has one. -/
def statedFirst (sought : String) (part : Schema → α) (default : α) (children : List Element)
    (schemas : List Schema) : α :=
  (((children.zip schemas).find? fun pair => pair.1.holds sought).map fun pair => part pair.2).getD default

theorem statedFirst_cons (sought : String) (part : Schema → α) (default : α) (child : Element)
    (children : List Element) (schema : Schema) (schemas : List Schema) :
    statedFirst sought part default (child :: children) (schema :: schemas) =
      if child.holds sought then part schema else statedFirst sought part default children schemas := by
  rw [statedFirst, List.zip_cons_cons, List.find?_cons]
  cases child.holds sought <;> rfl

theorem statedFirst_map (f : α → β) (sought : String) (part : Schema → α) (default : α)
    (children : List Element) (schemas : List Schema) :
    statedFirst sought (fun schema => f (part schema)) (f default) children schemas =
      f (statedFirst sought part default children schemas) := by
  rw [statedFirst, statedFirst]
  cases (children.zip schemas).find? fun pair => pair.1.holds sought <;> rfl

/-- What is read from the first element with a tag is what is read from the first tree that has one. -/
theorem eq_statedFirst {read : Element → α} {part : Schema → α} {default : α}
    (hread : ∀ e e' : Element, e.find? sought = e'.find? sought → read e = read e')
    (hdefault : ∀ e : Element, e.find? sought = none → read e = default)
    (hne : tag ≠ sought) (h : List.Forall₂ (fun child schema => read child = part schema) children schemas) :
    read (.node tag attributes text children tail) =
      statedFirst sought part default children schemas := by
  induction h with
  | nil => exact hdefault _ (Element.find?_node_of_ne hne ..)
  | @cons child schema children schemas hchild _ ih =>
    rw [statedFirst_cons, Element.holds_eq_isSome]
    cases hfind : child.find? sought with
    | none =>
      -- the search goes on as if the tree were not there
      have hrest : (Element.node tag attributes text (child :: children) tail).find? sought =
          (Element.node tag attributes text children tail).find? sought := by
        rw [Element.find?_node_of_ne hne, Element.find?_node_of_ne hne, List.findSome?_cons, hfind]
      rw [hread _ _ hrest, ih]
      rfl
    | some e =>
      have hfirst : (Element.node tag attributes text (child :: children) tail).find? sought =
          child.find? sought := by
        rw [Element.find?_node_of_ne hne, List.findSome?_cons, hfind]
      rw [hread _ _ hfirst, hchild]
      rfl

/-! ### The parts of a schema -/

theorem metadata_congr {e e' : Element} (h : e.find? "metadata" = e'.find? "metadata") :
    Metadata.ofElement e = Metadata.ofElement e' := by
  rw [Metadata.ofElement, Metadata.ofElement, h]

theorem template_congr {e e' : Element} (h : e.find? "prompt_template" = e'.find? "prompt_template") :
    templateOf e = templateOf e' := by
  rw [templateOf, templateOf, h]

theorem layout_congr {e e' : Element} (h : e.find? "ui_configuration" = e'.find? "ui_configuration") :
    Layout.ofElement e = Layout.ofElement e' := by
  rw [Layout.ofElement, Layout.ofElement, h]

/-- The variables of several trees are their tables put over one another. -/
theorem tableOf_node (hne : tag ≠ "variable")
    (h : List.Forall₂ (fun child schema => Variable.tableOf child = schema.definitions) children schemas) :
    Variable.tableOf (.node tag attributes text children tail) =
      Table.overlaid (schemas.map Schema.definitions) := by
  have hpairs : (Variable.namedElements (.node tag attributes text children tail)).map
      (fun e => (Variable.nameOf e, Variable.ofElement e)) =
      children.flatMap fun child =>
        (Variable.namedElements child).map fun e => (Variable.nameOf e, Variable.ofElement e) := by
    rw [Variable.namedElements, Variable.elements, Element.withTag_node_of_ne hne, List.filter_flatMap,
      List.map_flatMap]
    rfl
  have htables : children.map Variable.tableOf = schemas.map Schema.definitions := by
    rwa [← List.forall₂_eq_eq_eq, List.forall₂_map_left_iff, List.forall₂_map_right_iff]
  rw [Variable.tableOf, hpairs, Table.ofPairs_flatMap, ← htables]
  rfl

/-- The schema of an element that is not looked for and holds trees with schemas. -/
theorem ofElement_node (htag : tag ∉ soughtTags)
    (h : List.Forall₂ (fun child schema => (ofElement child).result = .ok schema) children schemas) :
    (ofElement (.node tag attributes text children tail)).result = .ok {
      metadata := statedFirst "metadata" Schema.metadata {} children schemas
      template := statedFirst "prompt_template" Schema.template "" children schemas
      definitions := Table.overlaid (schemas.map Schema.definitions)
      layout? := statedFirst "ui_configuration" Schema.layout? none children schemas } := by
  simp only [soughtTags, List.mem_cons, List.not_mem_nil, or_false, not_or] at htag
  obtain ⟨hmetadata, htemplate, hlayout, hvariable⟩ := htag
  -- what is read from each tree is part of its schema
  have hparts : List.Forall₂ (fun child schema => Layout.ofElement child = .ok schema.layout? ∧
      Metadata.ofElement child = schema.metadata ∧ templateOf child = schema.template ∧
      Variable.tableOf child = schema.definitions) children schemas := by
    refine h.imp fun child schema hchild => ?_
    rw [result_ofElement, map_eq_ok_iff] at hchild
    obtain ⟨layout?, hread, rfl⟩ := hchild
    exact ⟨hread, rfl, rfl, rfl⟩
  rw [result_ofElement,
    eq_statedFirst (fun _ _ => layout_congr) (fun _ => Layout.ofElement_eq_of_find?_eq_none) hlayout
      (hparts.imp fun _ _ hp => hp.1),
    eq_statedFirst (fun _ _ => metadata_congr) (fun e he => by rw [Metadata.ofElement, he]) hmetadata
      (hparts.imp fun _ _ hp => hp.2.1),
    eq_statedFirst (fun _ _ => template_congr) (fun e he => by rw [templateOf, he]) htemplate
      (hparts.imp fun _ _ hp => hp.2.2.1),
    tableOf_node hvariable (hparts.imp fun _ _ hp => hp.2.2.2), statedFirst_map Except.ok]
  rfl

/-- An element that is not looked for, around one tree, is read as the tree, with the same events. -/
theorem ofElement_around (htag : tag ∉ soughtTags) (document : Element) :
    ofElement (.node tag attributes text [document] tail) = ofElement document := by
  simp only [soughtTags, List.mem_cons, List.not_mem_nil, or_false, not_or] at htag
  obtain ⟨hmetadata, htemplate, hlayout, hvariable⟩ := htag
  have hfind : ∀ {sought : String}, tag ≠ sought →
      (Element.node tag attributes text [document] tail).find? sought = document.find? sought := by
    intro sought hne
    rw [Element.find?_node_of_ne hne, List.findSome?_cons, List.findSome?_nil]
    cases document.find? sought <;> rfl
  have hvariables : Variable.elements (.node tag attributes text [document] tail) =
      Variable.elements document := by
    rw [Variable.elements, Element.withTag_node_of_ne hvariable, List.flatMap_singleton]
    rfl
  rw [ofElement, ofElement, layout_congr (hfind hlayout), metadata_congr (hfind hmetadata),
    template_congr (hfind htemplate), Variable.eventsOf, Variable.eventsOf, Variable.tableOf,
    Variable.tableOf, Variable.namedElements, Variable.namedElements, hvariables]

/-- Of several definitions of a name the last one counts, and the names stand where they come first. -/
theorem overlaid_definitions
    (h : List.Forall₂ (fun child schema => (ofElement child).result = .ok schema) children schemas) :
    (Table.overlaid (schemas.map Schema.definitions)).keys =
        (schemas.flatMap fun schema => schema.definitions.keys).eraseDups ∧
      ∀ name, (Table.overlaid (schemas.map Schema.definitions)).get? name =
        schemas.reverse.findSome? fun schema => schema.definitions.get? name := by
  have hnodup : ∀ t ∈ schemas.map Schema.definitions, t.keys.Nodup := by
    refine List.forall_mem_map.2 fun schema hschema => ?_
    obtain ⟨child, -, hchild⟩ := exists_mem_of_forall₂ h hschema
    exact (readable_of_ofElement hchild).keyed.nodup
  refine ⟨?_, fun name => ?_⟩
  · rw [Table.keys_overlaid hnodup, List.flatMap_map]
  · rw [Table.get?_overlaid hnodup, ← List.map_reverse, List.findSome?_map]
    rfl

/-- **Documents compose.** Trees that have schemas can be put into an element with a tag that a schema does
not ask for, whatever its attributes and its texts. The element then has a schema, of which the metadata,
the template and the layout are those of the first tree with an element for it, and nothing when there is
none; the variables are those of each tree put over those of the trees before it, so that a name has its
last definition, in the place where it comes first. An element around one tree changes nothing, whether the
tree has a schema or not. -/
theorem ofElement_composes (htag : tag ∉ soughtTags) (attributes : List (String × String))
    (text tail : String) :
    (∀ children schemas,
      List.Forall₂ (fun child schema => (ofElement child).result = .ok schema) children schemas →
      ∃ definitions,
        (ofElement (.node tag attributes text children tail)).result = .ok {
          metadata := statedFirst "metadata" Schema.metadata {} children schemas
          template := statedFirst "prompt_template" Schema.template "" children schemas
          definitions
          layout? := statedFirst "ui_configuration" Schema.layout? none children schemas } ∧
        definitions = Table.overlaid (schemas.map Schema.definitions) ∧
        definitions.keys = (schemas.flatMap fun schema => schema.definitions.keys).eraseDups ∧
        ∀ name, definitions.get? name =
          schemas.reverse.findSome? fun schema => schema.definitions.get? name) ∧
      ∀ document, ofElement (.node tag attributes text [document] tail) = ofElement document := by
  refine ⟨fun children schemas h => ⟨_, ofElement_node htag h, rfl, ?_⟩, ofElement_around htag⟩
  exact overlaid_definitions h

/-- Two trees with a variable each of the name `a`; only the second one has a template. -/
def halves : List Element :=
  [.branch "half" [
      .branch "metadata" [.leaf "name" "First"],
      .node "variable" [("name", "a")] "" [.leaf "label" "old"] "",
      .node "variable" [("name", "b")] "" [] ""],
    .branch "half" [
      .leaf "prompt_template" " {{a}} ",
      .branch "metadata" [.leaf "name" "Second"],
      .node "variable" [("name", "c")] "" [] "",
      .node "variable" [("name", "a")] "" [.leaf "label" "new"] ""]]

def halfSchemas : List Schema :=
  halves.filterMap fun half => (ofElement half).result.toOption

/-- The halves make a schema with the metadata of the first one, the template of the second one, and the
variables of both. -/
theorem ofElement_composes_halves :
    "whole" ∉ soughtTags ∧
      List.Forall₂ (fun child schema => (ofElement child).result = .ok schema) halves halfSchemas ∧
      ∃ schema, (ofElement (.node "whole" [] "before" halves "after")).result = .ok schema ∧
        schema.metadata.name = "First" ∧ schema.template = "\x7b\x7ba\x7d\x7d" ∧ schema.layout? = none ∧
        schema.definitions.keys = ["a", "b", "c"] ∧
        (schema.definitions.get? "a").map Variable.label = some "new" := by
  have htag : "whole" ∉ soughtTags := by decide
  have hschemas : List.Forall₂ (fun child schema => (ofElement child).result = .ok schema)
      halves halfSchemas := .cons rfl (.cons rfl .nil)
  obtain ⟨definitions, hresult, rfl, -⟩ :=
    (ofElement_composes htag [] "before" "after").1 halves halfSchemas hschemas
  exact ⟨htag, hschemas, _, hresult, by decide +kernel⟩

end Schema

end PromptForm
