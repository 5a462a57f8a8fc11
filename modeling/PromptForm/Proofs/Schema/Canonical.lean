import PromptForm.Proofs.Schema.Readable

/-!
# The document of a schema

Every schema has a document: the tree in which each of its parts stands in its place, and what is
missing is left out. Reading the document of a readable schema gives the schema back, with all its
variables and captions in their order. So nothing that a schema holds is lost by reading, and the
readable schemas are exactly those that come of reading some tree.

## Main definitions

* `Schema.toElement`: the document of a schema.

## Main results

* `Schema.ofElement_toElement`: reading the document of a readable schema.
* `Schema.ofElement_toElement_of_ofElement`: a schema that was read is read again from its document.
-/

namespace PromptForm

open Xml (Element)

/-! ### Searching trees -/

namespace Xml.Element

def leaf (tag s : String) : Element := node tag [] s [] ""

def branch (tag : String) (children : List Element) : Element := node tag [] "" children ""

@[simp] theorem tag_leaf (tag s : String) : (leaf tag s).tag = tag := rfl

@[simp] theorem tag_branch (tag : String) (children : List Element) :
    (branch tag children).tag = tag := rfl

@[simp] theorem children_branch (tag : String) (children : List Element) :
    (branch tag children).children = children := rfl

@[simp] theorem children_node (tag : String) (attributes : List (String × String)) (text : String)
    (children : List Element) (tail : String) :
    (node tag attributes text children tail).children = children := rfl

/-- An element that holds a text, when there is one. -/
def leaf? (tag : String) (s? : Option String) : List Element := (s?.map (leaf tag)).toList

theorem withTag_node (tag : String) (attributes : List (String × String)) (text : String)
    (children : List Element) (tail sought : String) :
    (node tag attributes text children tail).withTag sought =
      (if tag == sought then [node tag attributes text children tail] else []) ++
        children.flatMap (·.withTag sought) := by
  rw [withTag, all_eq, allOf_eq_flatMap, List.filter_cons, List.filter_flatMap]
  change (if tag == sought then _ :: children.flatMap (·.withTag sought)
    else children.flatMap (·.withTag sought)) = _
  split <;> rfl

@[simp] theorem withTag_leaf (tag s sought : String) :
    (leaf tag s).withTag sought = if tag == sought then [leaf tag s] else [] := by
  rw [leaf, withTag_node, List.flatMap_nil, List.append_nil]

@[simp] theorem withTag_branch (tag : String) (children : List Element) (sought : String) :
    (branch tag children).withTag sought =
      (if tag == sought then [branch tag children] else []) ++
        children.flatMap (·.withTag sought) :=
  withTag_node ..

@[simp] theorem flatMap_withTag_leaf? (tag : String) (s? : Option String) (sought : String) :
    (leaf? tag s?).flatMap (·.withTag sought) = if tag == sought then leaf? tag s? else [] := by
  cases s? <;> simp [leaf?]

theorem find?_eq_head? (e : Element) (sought : String) : e.find? sought = (e.withTag sought).head? := by
  rw [find?, withTag, List.head?_filter]

theorem filter_descendants (e : Element) (sought : String) :
    e.descendants.filter (·.tag == sought) = e.children.flatMap (·.withTag sought) := by
  rw [descendants, allOf_eq_flatMap, List.filter_flatMap]
  rfl

theorem descendant?_eq_head? (e : Element) (sought : String) :
    e.descendant? sought = (e.children.flatMap (·.withTag sought)).head? := by
  rw [descendant?, ← filter_descendants, List.head?_filter]

@[simp] theorem innerText_leaf (tag s : String) : (leaf tag s).innerText = s := by
  simp [leaf, innerText, textOf]

/-- The text of the child with a tag, when the children before it have other tags. -/
theorem childText_eq (e : Element) (sought : String) :
    e.childText sought = ((e.children.find? (·.tag == sought)).map innerText).getD "" := by
  rw [childText, child?]
  cases e.children.find? (·.tag == sought) <;> rfl

theorem flatMap_withTag_map {α : Type} {f : α → Element} {tag sought : String}
    (h : ∀ a, (f a).withTag sought = if tag == sought then [f a] else []) (as : List α) :
    (as.map f).flatMap (·.withTag sought) = if tag == sought then as.map f else [] := by
  simp only [List.flatMap_map, h]
  split
  · rw [List.map_eq_flatMap]
  · simp

@[simp] theorem find?_leaf? (tag : String) (s? : Option String) (sought : String) :
    (leaf? tag s?).find? (·.tag == sought) = if tag == sought then s?.map (leaf tag) else none := by
  cases s? with
  | none => simp [leaf?]
  | some s => by_cases h : tag == sought <;> simp [leaf?, leaf, Element.tag, h]

end Xml.Element

/-! ### The document -/

def flagText (b : Bool) : String := if b then "true" else "false"

/-- The element of what a document says about itself. -/
def Metadata.toElement (m : Metadata) : Element :=
  .branch "metadata" [
    .leaf "name" m.name,
    .leaf "description" m.description,
    .leaf "version" m.version,
    .branch "tags" (m.tags.map (.leaf "tag"))]

def Choice.toElement (o : Choice) : Element :=
  .node "option" [("value", o.value)] o.label [] ""

/-- The element of bounds on the length of a text. -/
def LengthRules.toElement (r : LengthRules) : Element :=
  .branch "validation" [.leaf "min_length" r.minLength, .leaf "max_length" r.maxLength]

def Variable.tickToElement (tick : Int × String) : Element :=
  .node "label" [("value", toString tick.1)] tick.2 [] ""

/-- The element of a variable. A bound that is missing has no element, and neither have missing
bounds on the length. -/
def Variable.toElement (v : Variable) : Element :=
  .node "variable" [("name", v.name), ("required", flagText v.required)] ""
    ([.leaf "type" v.kind.tag, .leaf "label" v.label, .leaf "placeholder" v.placeholder,
        .leaf "default" v.default] ++
      Element.leaf? "min" v.min? ++ Element.leaf? "max" v.max? ++ Element.leaf? "step" v.step? ++
      [.branch "options" (v.options.map Choice.toElement),
        .branch "labels" (v.ticks.entries.map tickToElement)] ++
      (v.rules?.map LengthRules.toElement).toList) ""

/-- The element of a section; the names of its fields stand between commas. -/
def Section.toElement (s : Section) : Element :=
  .node "section"
    [("name", s.name), ("order", toString s.order), ("collapsible", flagText s.collapsible)] ""
    [.leaf "fields" (String.ofList (Text.joinWith [','] (s.fields.map String.toList)))] ""

def Layout.toElement (l : Layout) : Element :=
  .branch "ui_configuration"
    ([.leaf "theme" l.theme, .leaf "layout" l.arrangement] ++ l.sections.map Section.toElement)

/-- The document of a schema: a `metaprompt` with the metadata, the template, the variables in order,
and the layout when there is one. -/
def Schema.toElement (schema : Schema) : Element :=
  .branch "metaprompt"
    ([schema.metadata.toElement, .leaf "prompt_template" schema.template,
        .branch "variables" (schema.definitions.values.map Variable.toElement)] ++
      (schema.layout?.map Layout.toElement).toList)

/-! ### Reading the parts of a document -/

@[simp] theorem flagText_beq_true (b : Bool) : (some (flagText b) == some "true") = b := by
  cases b <;> rfl

namespace Choice

@[simp] theorem withTag_toElement (o : Choice) (sought : String) :
    o.toElement.withTag sought = if "option" == sought then [o.toElement] else [] := by
  rw [toElement, Element.withTag_node, List.flatMap_nil, List.append_nil]

theorem ofElement_toElement {o : Choice} (h : o.value = "" → o.label = "") :
    ofElement o.toElement = o := by
  have htext : o.toElement.innerText = o.label := Element.innerText_leaf "option" o.label
  have hvalue : o.toElement.attribute? "value" = some o.value := rfl
  rw [ofElement, htext, hvalue, Option.getD_some, nonemptyOr]
  obtain ⟨value, label⟩ := o
  by_cases hv : value = ""
  · -- an empty value falls back to the text, which is empty too
    obtain rfl : label = "" := h hv
    simp [hv]
  · simp [hv]

end Choice

namespace LengthRules

@[simp] theorem withTag_toElement (r : LengthRules) (sought : String) :
    r.toElement.withTag sought =
      (if "validation" == sought then [r.toElement] else []) ++
        ((if "min_length" == sought then [.leaf "min_length" r.minLength] else []) ++
          if "max_length" == sought then [.leaf "max_length" r.maxLength] else []) := by
  simp [toElement]

@[simp] theorem find?_toElement (r? : Option LengthRules) (sought : String) :
    (r?.map toElement).toList.find? (·.tag == sought) =
      if "validation" == sought then r?.map toElement else none := by
  cases r? with
  | none => simp
  | some r => by_cases h : "validation" == sought <;> simp [toElement, h]

theorem ofElement_toElement (r : LengthRules) : ofElement r.toElement = r := by
  simp [ofElement, toElement, Element.childText_eq]

end LengthRules

namespace Metadata

@[simp] theorem flatMap_withTag_tags (m : Metadata) (sought : String) :
    (m.tags.map (Element.leaf "tag")).flatMap (·.withTag sought) =
      if "tag" == sought then m.tags.map (Element.leaf "tag") else [] :=
  Element.flatMap_withTag_map (fun s => Element.withTag_leaf "tag" s sought) m.tags

theorem ofElement_toElement (m : Metadata) :
    { name := m.toElement.childText "name"
      description := m.toElement.childText "description"
      version := m.toElement.childText "version"
      tags := (m.toElement.withTag "tag").map Element.innerText } = m := by
  simp [toElement, Element.childText_eq, Function.comp_def]

end Metadata

@[simp] theorem Kind.ofTag_tag (k : Kind) : Kind.ofTag (nonemptyOr k.tag "text") = k := by
  cases k <;> decide +kernel

namespace Variable

@[simp] theorem withTag_tickToElement (tick : Int × String) (sought : String) :
    (tickToElement tick).withTag sought = if "label" == sought then [tickToElement tick] else [] := by
  rw [tickToElement, Element.withTag_node, List.flatMap_nil, List.append_nil]

@[simp] theorem flatMap_withTag_options (v : Variable) (sought : String) :
    (v.options.map Choice.toElement).flatMap (·.withTag sought) =
      if "option" == sought then v.options.map Choice.toElement else [] :=
  Element.flatMap_withTag_map (fun o => Choice.withTag_toElement o sought) v.options

@[simp] theorem flatMap_withTag_ticks (v : Variable) (sought : String) :
    (v.ticks.entries.map tickToElement).flatMap (·.withTag sought) =
      if "label" == sought then v.ticks.entries.map tickToElement else [] :=
  Element.flatMap_withTag_map (fun tick => withTag_tickToElement tick sought) v.ticks.entries

theorem withTag_variable (v : Variable) :
    v.toElement.withTag "variable" = if "variable" == "variable" then [v.toElement] else [] := by
  cases hrules : v.rules? <;> simp [toElement, Element.withTag_node, hrules]

theorem withTag_layout (v : Variable) :
    v.toElement.withTag "ui_configuration" =
      if "variable" == "ui_configuration" then [v.toElement] else [] := by
  cases hrules : v.rules? <;> simp [toElement, Element.withTag_node, hrules]

theorem nameOf_toElement (v : Variable) : nameOf v.toElement = v.name := rfl

/-- The captions are found again at their positions, in order. -/
theorem ticksOf_toElement {v : Variable} (hv : v.Readable) : ticksOf v.toElement = v.ticks := by
  have hfilter : (v.ticks.entries.map tickToElement).filter (·.tag == "label") =
      v.ticks.entries.map tickToElement := by
    refine List.filter_eq_self.2 fun e he => ?_
    obtain ⟨tick, -, rfl⟩ := List.mem_map.1 he
    rfl
  have helements : tickElements v.toElement = v.ticks.entries.map tickToElement := by
    -- there is one `labels`, and all that stands in it are captions
    rw [tickElements, Element.filter_descendants]
    cases hrules : v.rules? <;> simp [toElement, hrules, hfilter]
  have hticks : (v.ticks.entries.map tickToElement).filterMap tick? = v.ticks.entries := by
    rw [List.filterMap_map]
    refine (List.filterMap_congr fun tick htick => ?_).trans List.filterMap_some
    have hposition := hv.inRange_ticks tick.1 (List.mem_map_of_mem htick)
    have htext : (tickToElement tick).innerText = tick.2 := Element.innerText_leaf "label" tick.2
    have hvalue : (tickToElement tick).attribute? "value" = some (toString tick.1) := rfl
    simp only [Function.comp_apply, tick?, tickPosition?, hvalue, Option.bind_some,
      Numeral.readInt?_toString hposition, htext, Option.map_some]
  rw [ticksOf, helements, hticks]
  exact Table.ofPairs_of_nodup hv.nodup_ticks

theorem rules_toElement (v : Variable) :
    (v.toElement.descendant? "validation").map LengthRules.ofElement = v.rules? := by
  rw [Element.descendant?_eq_head?]
  cases hrules : v.rules? with
  | none => simp [toElement, hrules]
  | some r => simp [toElement, hrules, LengthRules.ofElement_toElement]

theorem options_toElement {v : Variable} (hv : v.Readable) :
    (v.toElement.withTag "option").map Choice.ofElement = v.options := by
  have helements : v.toElement.withTag "option" = v.options.map Choice.toElement := by
    cases hrules : v.rules? <;> simp [toElement, Element.withTag_node, hrules]
  rw [helements, List.map_map]
  refine (List.map_congr_left fun o ho => ?_).trans (List.map_id _)
  exact Choice.ofElement_toElement (hv.options o ho)

theorem childText_toElement (v : Variable) :
    v.toElement.childText "type" = v.kind.tag ∧ v.toElement.childText "label" = v.label ∧
      v.toElement.childText "placeholder" = v.placeholder ∧
      v.toElement.childText "default" = v.default ∧ v.toElement.childText "min" = v.min?.getD "" ∧
      v.toElement.childText "max" = v.max?.getD "" ∧ v.toElement.childText "step" = v.step?.getD "" := by
  simp [toElement, Element.childText_eq, Function.comp_def]

theorem nonempty?_getD {s? : Option String} (h : s? ≠ some "") : nonempty? (s?.getD "") = s? := by
  cases s? with
  | none => rfl
  | some s =>
    have hs : s ≠ "" := fun he => h (congrArg some he)
    simp [nonempty?, hs]

/-- A readable variable is read from its element. -/
theorem ofElement_toElement {v : Variable} (hv : v.Readable) : ofElement v.toElement = v := by
  obtain ⟨htype, hlabel, hplaceholder, hdefault, hmin, hmax, hstep⟩ := childText_toElement v
  have hrequired : v.toElement.attribute? "required" = some (flagText v.required) := rfl
  have hcaption : nonemptyOr v.label v.name = v.label := by
    simp [nonemptyOr, hv.label]
  rw [ofElement, htype, hlabel, hplaceholder, hdefault, hmin, hmax, hstep, hrequired,
    nameOf_toElement, ticksOf_toElement hv, rules_toElement, options_toElement hv, hcaption,
    Kind.ofTag_tag, flagText_beq_true, nonempty?_getD hv.min, nonempty?_getD hv.max,
    nonempty?_getD hv.step]

end Variable

/-! ### Reading the layout of a document -/

namespace Section

/-- Names that are trimmed, not empty and without commas are read between commas. -/
theorem fieldNames_joinWith {names : List String}
    (h : ∀ name ∈ names, name ≠ "" ∧ Text.Trimmed name.toList ∧ ',' ∉ name.toList) :
    fieldNames (String.ofList (Text.joinWith [','] (names.map String.toList))) = names := by
  rw [fieldNames, String.toList_ofList]
  by_cases hnames : names = []
  · subst hnames
    decide +kernel
  · have hcomma : ∀ part ∈ names.map String.toList, ',' ∉ part := by
      intro part hpart
      obtain ⟨name, hname, rfl⟩ := List.mem_map.1 hpart
      exact (h name hname).2.2
    have htrim : (names.map String.toList).map (fun part => String.ofList (Text.trim part)) =
        names := by
      rw [List.map_map]
      refine (List.map_congr_left fun name hname => ?_).trans (List.map_id _)
      rw [Function.comp_apply, Text.trim_eq_self_iff.2 (h name hname).2.1, String.ofList_toList,
        id_eq]
    rw [Text.splitOn_joinWith (by simpa using hnames) hcomma, htrim, List.filter_eq_self]
    intro name hname
    simpa using (h name hname).1

/-- A readable section is read from its element. -/
theorem ofElement_toElement {s : Section} (hs : s.Readable) : ofElement s.toElement = .ok s := by
  have hname : s.toElement.attribute? "name" = some s.name := rfl
  have horder : s.toElement.attribute? "order" = some (toString s.order) := rfl
  have hcollapsible : s.toElement.attribute? "collapsible" = some (flagText s.collapsible) := rfl
  have hfields : fieldNames (s.toElement.childText "fields") = s.fields := by
    have htext : s.toElement.childText "fields" =
        String.ofList (Text.joinWith [','] (s.fields.map String.toList)) := by
      simp [toElement, Element.childText_eq]
    rw [htext, fieldNames_joinWith hs.fields]
  rw [ofElement, hname, horder, hcollapsible, hfields, Option.getD_some, orderOf_toString hs.order,
    flagText_beq_true]
  rfl

theorem flatMap_withTag_toElement (sections : List Section) {sought : String}
    (h : "fields" ≠ sought) :
    (sections.map toElement).flatMap (·.withTag sought) =
      if "section" == sought then sections.map toElement else [] := by
  refine Element.flatMap_withTag_map (fun s => ?_) sections
  simp [toElement, Element.withTag_node, h]

end Section

namespace Layout

/-- A readable layout is read from any tree in which its element comes first. -/
theorem ofElement_toElement {root : Element} {l : Layout} (hl : l.Readable)
    (hroot : root.find? "ui_configuration" = some l.toElement) :
    ofElement root = .ok (some l) := by
  have htheme : l.toElement.childText "theme" = l.theme := by
    simp [toElement, Element.childText_eq]
  have harrangement : l.toElement.childText "layout" = l.arrangement := by
    simp [toElement, Element.childText_eq]
  have helements : l.toElement.withTag "section" = l.sections.map Section.toElement := by
    simp [toElement, Section.flatMap_withTag_toElement]
  have hsections : (l.sections.map Section.toElement).mapM Section.ofElement = .ok l.sections := by
    rw [mapM_eq_ok_iff, List.forall₂_map_left_iff, List.forall₂_same]
    exact fun s hs => Section.ofElement_toElement (hl.sections s hs)
  have htheme' : nonemptyOr l.theme "default" = l.theme := by simp [nonemptyOr, hl.theme]
  have harrangement' : nonemptyOr l.arrangement "vertical" = l.arrangement := by
    simp [nonemptyOr, hl.arrangement]
  rw [ofElement, hroot]
  simp only [helements, hsections, htheme, harrangement, htheme', harrangement']
  rfl

end Layout

/-! ### Reading a document -/

namespace Schema

variable {schema : Schema}

theorem find?_metadata (schema : Schema) :
    schema.toElement.find? "metadata" = some schema.metadata.toElement := by
  simp [toElement, Element.find?_eq_head?, Metadata.toElement]

theorem find?_template (schema : Schema) :
    schema.toElement.find? "prompt_template" = some (.leaf "prompt_template" schema.template) := by
  simp [toElement, Element.find?_eq_head?, Metadata.toElement]

theorem withTag_variable (schema : Schema) :
    schema.toElement.withTag "variable" = schema.definitions.values.map Variable.toElement := by
  have hvariables := Element.flatMap_withTag_map Variable.withTag_variable schema.definitions.values
  cases hlayout : schema.layout? with
  | none => simp [toElement, hlayout, Metadata.toElement, hvariables]
  | some l =>
    simp [toElement, hlayout, Metadata.toElement, hvariables, Layout.toElement,
      Section.flatMap_withTag_toElement]

theorem find?_layout (schema : Schema) :
    schema.toElement.find? "ui_configuration" = schema.layout?.map Layout.toElement := by
  have hvariables := Element.flatMap_withTag_map Variable.withTag_layout schema.definitions.values
  cases hlayout : schema.layout? with
  | none => simp [toElement, Element.find?_eq_head?, hlayout, Metadata.toElement, hvariables]
  | some l =>
    simp [toElement, Element.find?_eq_head?, hlayout, Metadata.toElement, hvariables,
      Layout.toElement]

/-- The variables are found again under their names, in order. -/
theorem tableOf_toElement (hschema : schema.Readable) :
    Variable.tableOf schema.toElement = schema.definitions := by
  have hnamed : Variable.namedElements schema.toElement =
      schema.definitions.values.map Variable.toElement := by
    -- no variable is passed over, since each has a name
    rw [Variable.namedElements, Variable.elements, withTag_variable, List.filter_eq_self]
    intro e he
    obtain ⟨v, hv, rfl⟩ := List.mem_map.1 he
    rw [Variable.nameOf_toElement]
    simpa using (hschema.definitions v hv).name
  have hpairs : (schema.definitions.values.map Variable.toElement).map
      (fun e => (Variable.nameOf e, Variable.ofElement e)) = schema.definitions.entries := by
    rw [Table.values, List.map_map, List.map_map]
    refine (List.map_congr_left fun entry hentry => ?_).trans (List.map_id _)
    have hv := hschema.definitions entry.2 (List.mem_map_of_mem hentry)
    simp only [Function.comp_apply, Variable.nameOf_toElement, Variable.ofElement_toElement hv,
      hschema.keyed.name_eq entry hentry, id_eq]
  rw [Variable.tableOf, hnamed, hpairs]
  exact Table.ofPairs_of_nodup hschema.keyed.nodup

/-- **A readable schema is read from its document.** -/
theorem ofElement_toElement (hschema : schema.Readable) :
    (ofElement schema.toElement).result = .ok schema := by
  have hmetadata : Metadata.ofElement schema.toElement = schema.metadata := by
    rw [Metadata.ofElement, find?_metadata]
    exact Metadata.ofElement_toElement schema.metadata
  have htemplate : templateOf schema.toElement = schema.template := by
    rw [templateOf, find?_template]
    simp only [Element.innerText_leaf]
    rw [Text.trimmed, Text.trim_eq_self_iff.2 hschema.template, String.ofList_toList]
  have hlayout : Layout.ofElement schema.toElement = .ok schema.layout? := by
    have hfind := find?_layout schema
    cases hl : schema.layout? with
    | none =>
      rw [hl] at hfind
      rw [Layout.ofElement, hfind]
      rfl
    | some l =>
      rw [hl] at hfind
      exact Layout.ofElement_toElement (hschema.layout l hl) hfind
  rw [ofElement, hmetadata, htemplate, hlayout, tableOf_toElement hschema]
  rfl

/-- **Reading loses nothing.** A schema that was read of any tree is read again from its document,
with its variables and captions in their order. -/
theorem ofElement_toElement_of_ofElement {root : Element}
    (h : (ofElement root).result = .ok schema) : (ofElement schema.toElement).result = .ok schema :=
  ofElement_toElement (readable_of_ofElement h)

/-- The readable schemas are those that can be read of some tree. -/
theorem readable_iff : schema.Readable ↔ ∃ root, (ofElement root).result = .ok schema :=
  ⟨fun h => ⟨schema.toElement, ofElement_toElement h⟩, fun ⟨_, h⟩ => readable_of_ofElement h⟩

/-- A tree in an order of its own, with a variable that stands twice and one without a name. -/
def sketch : Element :=
  .branch "sketch" [
    .branch "ui_configuration" [
      .node "section"
        [("name", "Main"), ("order", " +07th"), ("collapsible", "true")] "" [
          .leaf "fields" " tone,, size "] "",
      .leaf "theme" " dark ",
      .leaf "section" "no fields"],
    .leaf "prompt_template" "\n  A \x7b\x7btone\x7d\x7d letter.\n",
    .node "variable" [("name", "tone"), ("required", "yes")] "" [.leaf "type" " radio "] "",
    .node "variable" [("name", "size")] "" [
      .leaf "type" "range",
      .leaf "min" "",
      .leaf "max" " 10 ",
      .leaf "step" "2",
      .branch "labels" [
        .node "label" [("value", "1_0")] "large" [] "",
        .node "label" [("value", "-2")] "small" [] "",
        .node "label" [("value", "ten")] "huge" [] ""]] "",
    .node "variable" [] "" [] "",
    .node "variable" [("name", "note"), ("required", "true")] "" [
      .branch "validation" [.leaf "max_length" "80 letters", .leaf "min_length" "2"],
      .leaf "placeholder" " any\n",
      .leaf "default" "none",
      .leaf "label" "A note"] "",
    .node "variable" [("name", "tone")] "" [
      .leaf "type" "select",
      .leaf "option" "kind",
      .node "option" [("value", "s")] "strict" [] ""] "",
    .branch "metadata" [
      .branch "tags" [.leaf "tag" "letter", .leaf "tag" "", .leaf "tag" " draft "],
      .leaf "version" "2",
      .leaf "name" "Letter",
      .leaf "description" "Short\nletters"]]

def sketched : Schema where
  metadata := ⟨"Letter", "Short\nletters", "2", ["letter", "", " draft "]⟩
  template := "A \x7b\x7btone\x7d\x7d letter."
  definitions := ⟨[
    ("tone", {
      name := "tone", kind := .select, label := "tone"
      options := [⟨"kind", "kind"⟩, ⟨"s", "strict"⟩] }),
    ("size", {
      name := "size", kind := .range, label := "size", max? := some " 10 ", step? := some "2"
      ticks := ⟨[(10, "large"), (-2, "small")]⟩ }),
    ("note", {
      name := "note", required := true, label := "A note", placeholder := " any\n"
      default := "none", rules? := some ⟨"2", "80 letters"⟩ })]⟩
  layout? := some {
    theme := " dark "
    sections := [
      { name := "Main", order := 7, collapsible := true, fields := ["tone", "size"] }, {}] }

/-- The tree is read, and so is the document of what was read. -/
theorem ofElement_toElement_sketched :
    (ofElement sketch).result = .ok sketched ∧ (ofElement sketched.toElement).result = .ok sketched := by
  have hread : (ofElement sketch).result = .ok sketched := by decide +kernel
  exact ⟨hread, ofElement_toElement_of_ofElement hread⟩

end Schema

end PromptForm
