import PromptForm.Proofs.Schema.Readable

/-!
# What a schema has where its document has nothing

A document may leave out any part of a schema and may write any part badly. What each part of a schema
is then, and what it is when the document states it, is said here by relations between elements and the
parts that are read off them: a part that is missing has its default, a text that is empty falls back,
and a caption without a position is passed over with an event. One thing alone is a fault: a section
whose order has too many digits.

## Main definitions

* `FallsBack`, `Part`, `Stated`: a text with a fallback, a part that may be missing, and both together.
* `Metadata.Describes`, `Variable.Describes`, `Section.Describes`, `Layout.Describes`,
  `Schema.Describes`: a part of a schema is what an element says.
* `Layout.Unreadable`: a tree with a section whose order has too many digits.

## Main results

* `Schema.ofElement_describes`: which trees have a schema, what it is, and what is recorded.
-/

namespace PromptForm

open List (Forall₂)
open Xml (Element)

/-! ### Parts that may be missing -/

/-- The value of a text, or a fallback when the text is empty. -/
inductive FallsBack {α : Type} (read : String → α) (fallback : α) (s : String) : α → Prop
  | stated (h : s ≠ "") : FallsBack read fallback s (read s)
  | empty (h : s = "") : FallsBack read fallback s fallback

/-- What the first element with a tag means, or a default when there is no such element. -/
inductive Part {α : Type} (candidates : List Element) (tag : String) (Means : Element → α → Prop)
    (default : α) : α → Prop
  | found {e : Element} {a : α} (first : candidates.find? (·.tag == tag) = some e) (h : Means e a) :
      Part candidates tag Means default a
  | missing (h : ∀ e ∈ candidates, e.tag ≠ tag) : Part candidates tag Means default default

/-- The value of the text of a child, or a default when there is no such child or it is empty. -/
def Stated {α : Type} (e : Element) (tag : String) (read : String → α) (default : α) : α → Prop :=
  Part e.children tag (fun child => FallsBack read default child.innerText) default

section Parts

variable {α : Type} {tag : String}

theorem forall_tag_ne_of_find? {candidates : List Element}
    (h : candidates.find? (·.tag == tag) = none) : ∀ e ∈ candidates, e.tag ≠ tag :=
  fun e he htag => List.find?_eq_none.1 h e he (beq_iff_eq.2 htag)

/-- Something made of the first element with a tag, if there is one, is a part that may be missing. -/
theorem part_map_find? {candidates : List Element} {Means : Element → α → Prop} {make : Element → α}
    (h : ∀ e, Means e (make e)) :
    Part candidates tag (fun e a? => ∃ a, a? = some a ∧ Means e a) none
      ((candidates.find? (·.tag == tag)).map make) := by
  cases hfind : candidates.find? (·.tag == tag) with
  | some e => exact .found hfind ⟨make e, rfl, h e⟩
  | none => exact .missing (forall_tag_ne_of_find? hfind)

theorem fallsBack_nonemptyOr (s other : String) : FallsBack id other s (nonemptyOr s other) := by
  rw [nonemptyOr]
  split
  · next h => exact .empty (String.isEmpty_iff.1 h)
  · next h => exact .stated fun hs => h (String.isEmpty_iff.2 hs)

theorem fallsBack_nonempty? (s : String) : FallsBack some none s (nonempty? s) := by
  rw [nonempty?]
  split
  · next h => exact .empty (String.isEmpty_iff.1 h)
  · next h => exact .stated fun hs => h (String.isEmpty_iff.2 hs)

theorem fallsBack_self (s : String) : FallsBack id "" s s := by
  by_cases h : s = ""
  · subst h
    exact .empty rfl
  · exact .stated h

/-- A text with a fallback is stated by a child; the text of a missing child is empty and falls back. -/
theorem stated_of_fallsBack {read : String → α} {default : α} {value : String → α}
    (h : ∀ s, FallsBack read default s (value s)) (e : Element) (tag : String) :
    Stated e tag read default (value (e.childText tag)) := by
  rw [Element.childText]
  cases hchild : e.child? tag with
  | some child => exact .found hchild (h child.innerText)
  | none =>
    have hempty : default = value "" := by
      generalize hvalue : value "" = fallen
      have hfall := h ""
      rw [hvalue] at hfall
      cases hfall with
      | stated hne => exact absurd rfl hne
      | empty => rfl
    simp only [← hempty]
    exact .missing (forall_tag_ne_of_find? hchild)

theorem stated_childText (e : Element) (tag : String) : Stated e tag id "" (e.childText tag) :=
  stated_of_fallsBack fallsBack_self e tag

theorem stated_nonemptyOr (e : Element) (tag other : String) :
    Stated e tag id other (nonemptyOr (e.childText tag) other) :=
  stated_of_fallsBack (fallsBack_nonemptyOr · other) e tag

theorem stated_nonempty? (e : Element) (tag : String) :
    Stated e tag some none (nonempty? (e.childText tag)) :=
  stated_of_fallsBack fallsBack_nonempty? e tag

end Parts

/-! ### Metadata and the template -/

/-- What an element says about its document. -/
structure Metadata.Describes (e : Element) (m : Metadata) : Prop where
  name : Stated e "name" id "" m.name
  description : Stated e "description" id "" m.description
  version : Stated e "version" id "" m.version
  tags : m.tags = (e.withTag "tag").map Element.innerText

theorem Metadata.describes_ofElement (root : Element) :
    Part root.all "metadata" Metadata.Describes {} (Metadata.ofElement root) := by
  rw [ofElement]
  cases hfind : root.find? "metadata" with
  | some e =>
    exact .found hfind ⟨stated_childText e "name", stated_childText e "description",
      stated_childText e "version", rfl⟩
  | none => exact .missing (forall_tag_ne_of_find? hfind)

theorem part_templateOf (root : Element) :
    Part root.all "prompt_template" (fun e s => s = Text.trimmed e.innerText) "" (templateOf root) := by
  rw [templateOf]
  cases hfind : root.find? "prompt_template" with
  | some e => exact .found hfind rfl
  | none => exact .missing (forall_tag_ne_of_find? hfind)

/-! ### Variables -/

/-- The kind with a tag, blanks around it aside; without such a kind, a text. -/
inductive Kind.Named (s : String) : Kind → Prop
  | tag {k : Kind} (h : k.tag = Text.trimmed s) : Kind.Named s k
  | unknown (h : ∀ k : Kind, k.tag ≠ Text.trimmed s) : Kind.Named s .text

theorem Kind.mem_all (k : Kind) : k ∈ all := by
  cases k <;> decide

theorem Kind.named_ofTag (s : String) : Kind.Named s (ofTag s) := by
  rw [ofTag]
  cases hfind : all.find? (·.tag == Text.trimmed s) with
  | some k => exact .tag (by simpa using List.find?_some hfind)
  | none =>
    refine .unknown fun k hk => ?_
    exact List.find?_eq_none.1 hfind k k.mem_all (beq_iff_eq.2 hk)

/-- A choice as an element states it. -/
structure Choice.Describes (e : Element) (c : Choice) : Prop where
  value : FallsBack id e.innerText ((e.attribute? "value").getD "") c.value
  label : c.label = e.innerText

/-- The bounds that an element states. -/
structure LengthRules.Describes (e : Element) (r : LengthRules) : Prop where
  minLength : Stated e "min_length" id "" r.minLength
  maxLength : Stated e "max_length" id "" r.maxLength

theorem LengthRules.describes_ofElement (e : Element) : (LengthRules.ofElement e).Describes e :=
  ⟨stated_childText e "min_length", stated_childText e "max_length"⟩

theorem Choice.describes_ofElement (e : Element) : (Choice.ofElement e).Describes e :=
  ⟨fallsBack_nonemptyOr _ _, rfl⟩

namespace Variable

/-- A variable as an element states it. Of several captions at one position the last one counts, and a
caption without a position does not. -/
structure Describes (e : Element) (v : Variable) : Prop where
  name : v.name = nameOf e
  kind : ∃ tag, Stated e "type" id "text" tag ∧ Kind.Named tag v.kind
  required : v.required = true ↔ e.attribute? "required" = some "true"
  label : Stated e "label" id v.name v.label
  placeholder : Stated e "placeholder" id "" v.placeholder
  default : Stated e "default" id "" v.default
  min : Stated e "min" some none v.min?
  max : Stated e "max" some none v.max?
  step : Stated e "step" some none v.step?
  options : Forall₂ Choice.Describes (e.withTag "option") v.options
  ticks : ∀ position, v.ticks.get? position =
    ((tickElements e).filter (tickPosition? · == some position)).getLast?.map Element.innerText
  rules : Part e.descendants "validation" (fun d r? => ∃ r, r? = some r ∧ LengthRules.Describes d r)
    none v.rules?

theorem filter_filterMap_tick? (ticks : List Element) (position : Int) :
    (ticks.filterMap tick?).filter (fun tick => tick.1 == position) =
      (ticks.filter (tickPosition? · == some position)).map fun e => (position, e.innerText) := by
  induction ticks with
  | nil => rfl
  | cons e ticks ih =>
    cases hposition : tickPosition? e with
    | none => simp [tick?, hposition, ih]
    | some other =>
      by_cases hsame : other = position
      · simp [tick?, hposition, hsame, ih]
      · simp [tick?, hposition, hsame, ih]

theorem get?_ticksOf (e : Element) (position : Int) :
    (ticksOf e).get? position =
      ((tickElements e).filter (tickPosition? · == some position)).getLast?.map
        Element.innerText := by
  rw [ticksOf, Table.get?_ofPairs, filter_filterMap_tick?, List.getLast?_map, Option.map_map]
  rfl

theorem describes_ofElement (e : Element) : (ofElement e).Describes e where
  name := rfl
  kind := by
    -- the field is made explicit first, as the search for a tag should not be evaluated here
    simp only [ofElement]
    exact ⟨_, stated_nonemptyOr e "type" "text", Kind.named_ofTag _⟩
  required := by simp [ofElement]
  label := stated_nonemptyOr e "label" (nameOf e)
  placeholder := stated_childText e "placeholder"
  default := stated_childText e "default"
  min := stated_nonempty? e "min"
  max := stated_nonempty? e "max"
  step := stated_nonempty? e "step"
  options := by
    rw [ofElement, List.forall₂_map_right_iff, List.forall₂_same]
    exact fun o _ => Choice.describes_ofElement o
  ticks := get?_ticksOf e
  rules := part_map_find? LengthRules.describes_ofElement

/-- A name leads to the variable that the last element with that name describes. -/
theorem get?_tableOf (root : Element) {name : String} (hname : name ≠ "") :
    (tableOf root).get? name =
      ((elements root).filter (nameOf · == name)).getLast?.map ofElement := by
  -- a nameless element has not the name that is looked for
  have hnamed : (namedElements root).filter (nameOf · == name) =
      (elements root).filter (nameOf · == name) := by
    rw [namedElements, List.filter_filter]
    refine List.filter_congr fun e _ => ?_
    by_cases he : nameOf e = name
    · simp [he, hname]
    · simp [he]
  rw [tableOf, Table.get?_ofPairs, List.filter_map, List.getLast?_map, Option.map_map, ← hnamed]
  rfl

theorem rel_get?_tableOf (root : Element) {name : String} (hname : name ≠ "") :
    Option.Rel Describes ((elements root).filter (nameOf · == name)).getLast?
      ((tableOf root).get? name) := by
  rw [get?_tableOf root hname]
  cases ((elements root).filter (nameOf · == name)).getLast? with
  | none => exact .none
  | some e => exact .some (describes_ofElement e)

theorem get?_tableOf_empty (root : Element) : (tableOf root).get? "" = none := by
  rw [Table.get?_eq_none_iff (Table.exact_of_lawful "")]
  intro h
  obtain ⟨entry, hentry, hname⟩ := List.mem_map.1 h
  obtain ⟨e, hne, rfl⟩ := exists_of_mem_tableOf hentry
  exact hne hname

/-- The events of a skipped part of an element: of the variable itself, or of captions of it. -/
def skipped (e : Element) : List Event :=
  if nameOf e = "" then [.unnamedVariable] else tickEvents (nameOf e) e

/-- Whatever is skipped is recorded, in the order of the document; the other records are no warnings. -/
theorem warnings_eventsFrom (seen : List String) (es : List Element) :
    (eventsFrom seen es).filter (·.level == .warning) = es.flatMap skipped := by
  induction es generalizing seen with
  | nil => rfl
  | cons e es ih =>
    rw [eventsFrom, List.flatMap_cons, skipped]
    split
    · rw [List.filter_cons_of_pos (by rfl), ih]
      rfl
    · next hname =>
      -- a repeated name is recorded as well, but below the level of a warning
      have hrepeated : ∀ b : Bool,
          (if b then [Event.repeatedVariable (nameOf e)] else []).filter (·.level == .warning) = [] := by
        intro b
        cases b <;> rfl
      have hticks : (tickEvents (nameOf e) e).filter (·.level == .warning) = tickEvents (nameOf e) e := by
        rw [List.filter_eq_self]
        intro event hevent
        obtain ⟨tick, -, rfl⟩ := List.mem_map.1 hevent
        rfl
      rw [List.filter_append, List.filter_append, hrepeated, hticks, ih]
      rfl

end Variable

/-! ### The layout -/

namespace Section

/-- A section as an element describes it. -/
structure Describes (e : Element) (s : Section) : Prop where
  name : s.name = (e.attribute? "name").getD ""
  order : Orders ((e.attribute? "order").getD "").toList s.order
  collapsible : s.collapsible = true ↔ e.attribute? "collapsible" = some "true"
  fields : ∃ text parts, Stated e "fields" id "" text ∧ text.toList = Text.joinWith [','] parts ∧
    (∀ part ∈ parts, ',' ∉ part) ∧
    s.fields = (parts.map fun part => String.ofList (Text.trim part)).filter (· != "")

/-- The order of the section has too many digits. -/
def Unreadable (e : Element) : Prop :=
  Overlong ((e.attribute? "order").getD "").toList

theorem describes_of_ofElement {e : Element} {s : Section} (h : ofElement e = .ok s) :
    s.Describes e := by
  rw [ofElement_eq, map_eq_ok_iff] at h
  obtain ⟨order, horder, rfl⟩ := h
  refine ⟨rfl, (orderOf_eq_ok_iff.1 horder).2, by simp, e.childText "fields",
    Text.splitOn ',' (e.childText "fields").toList, stated_childText e "fields", ?_, ?_, rfl⟩
  · exact (Text.joinWith_splitOn ',' _).symm
  · exact fun part => Text.not_mem_of_mem_splitOn

theorem exists_ofElement_iff {e : Element} : (∃ s, ofElement e = .ok s) ↔ ¬Unreadable e := by
  simp only [ofElement_eq, map_eq_ok_iff]
  constructor
  · rintro ⟨s, order, horder, -⟩
    exact (orderOf_eq_ok_iff.1 horder).1
  · intro h
    obtain ⟨order, horder⟩ := exists_orders ((e.attribute? "order").getD "").toList
    exact ⟨_, order, orderOf_eq_ok_iff.2 ⟨h, horder⟩, rfl⟩

theorem eq_numberTooLong_of_ofElement {e : Element} {fault : Fault} (h : ofElement e = .error fault) :
    fault = .numberTooLong := by
  rw [ofElement_eq, map_eq_error_iff] at h
  exact (orderOf_eq_error_iff.1 h).2

end Section

namespace Layout

/-- A layout as an element describes it. -/
structure Describes (e : Element) (l : Layout) : Prop where
  theme : Stated e "theme" id "default" l.theme
  arrangement : Stated e "layout" id "vertical" l.arrangement
  sections : Forall₂ Section.Describes (e.withTag "section") l.sections

/-- The tree has a layout with a section whose order has too many digits. -/
def Unreadable (root : Element) : Prop :=
  ∃ e, root.find? "ui_configuration" = some e ∧ ∃ s ∈ e.withTag "section", Section.Unreadable s

/-- A layout that is read is the one that the tree describes, and none when it describes none. -/
theorem describes_of_ofElement {root : Element} {layout? : Option Layout}
    (h : ofElement root = .ok layout?) :
    Part root.all "ui_configuration" (fun e l? => ∃ l, l? = some l ∧ Describes e l) none
      layout? := by
  cases hfind : root.find? "ui_configuration" with
  | none =>
    obtain rfl := Except.ok.inj ((ofElement_eq_of_find?_eq_none hfind).symm.trans h)
    exact .missing (forall_tag_ne_of_find? hfind)
  | some e =>
    rw [ofElement_eq_of_find? hfind, map_eq_ok_iff] at h
    obtain ⟨sections, hsections, rfl⟩ := h
    refine .found hfind ⟨_, rfl, stated_nonemptyOr e "theme" "default",
      stated_nonemptyOr e "layout" "vertical", ?_⟩
    exact (mapM_eq_ok_iff.1 hsections).imp fun _ _ => Section.describes_of_ofElement

theorem exists_ofElement_iff {root : Element} :
    (∃ layout?, ofElement root = .ok layout?) ↔ ¬Unreadable root := by
  cases hfind : root.find? "ui_configuration" with
  | none =>
    refine iff_of_true ⟨none, ofElement_eq_of_find?_eq_none hfind⟩ ?_
    rintro ⟨e, he, -⟩
    cases hfind.symm.trans he
  | some e =>
    simp only [ofElement_eq_of_find? hfind, map_eq_ok_iff, mapM_eq_ok_iff]
    -- the sections are read one by one, so that each of them has an order or none is read
    constructor
    · rintro ⟨_, sections, hsections, -⟩ ⟨e', he', s, hs, hlong⟩
      obtain rfl := Option.some.inj (hfind.symm.trans he')
      obtain ⟨found, -, hfound⟩ := exists_mem_of_forall₂ hsections.flip hs
      exact Section.exists_ofElement_iff.1 ⟨found, hfound⟩ hlong
    · intro h
      have hreadable : ∀ s ∈ e.withTag "section", ∃ found, Section.ofElement s = .ok found :=
        fun s hs => Section.exists_ofElement_iff.2 fun hlong => h ⟨e, hfind, s, hs, hlong⟩
      obtain ⟨sections, hsections⟩ := exists_forall₂ hreadable
      exact ⟨_, sections, hsections, rfl⟩

theorem eq_numberTooLong_of_ofElement {root : Element} {fault : Fault}
    (h : ofElement root = .error fault) : fault = .numberTooLong := by
  cases hfind : root.find? "ui_configuration" with
  | none => cases (ofElement_eq_of_find?_eq_none hfind).symm.trans h
  | some e =>
    rw [ofElement_eq_of_find? hfind, map_eq_error_iff] at h
    obtain ⟨s, -, hstop⟩ := exists_of_mapM_eq_error h
    exact Section.eq_numberTooLong_of_ofElement hstop

end Layout

/-! ### Schemas -/

namespace Schema

/-- A schema as a tree describes it. Of several variables of one name the last one counts, and a variable
without a name does not. -/
structure Describes (root : Element) (schema : Schema) : Prop where
  metadata : Part root.all "metadata" Metadata.Describes {} schema.metadata
  template : Part root.all "prompt_template" (fun e s => s = Text.trimmed e.innerText) ""
    schema.template
  definitions : ∀ name, name ≠ "" →
    Option.Rel Variable.Describes
      ((Variable.elements root).filter (Variable.nameOf · == name)).getLast?
      (schema.definitions.get? name)
  unnamed : schema.definitions.get? "" = none
  layout : Part root.all "ui_configuration" (fun e l? => ∃ l, l? = some l ∧ Layout.Describes e l) none
    schema.layout?

theorem exists_ofElement_iff {root : Element} :
    (∃ schema, (ofElement root).result = .ok schema) ↔ ¬Layout.Unreadable root := by
  rw [← Layout.exists_ofElement_iff]
  simp only [result_ofElement, map_eq_ok_iff]
  constructor
  · rintro ⟨_, layout?, hlayout, -⟩
    exact ⟨layout?, hlayout⟩
  · rintro ⟨layout?, hlayout⟩
    exact ⟨_, layout?, hlayout, rfl⟩

theorem eq_numberTooLong_of_ofElement {root : Element} {fault : Fault}
    (h : (ofElement root).result = .error fault) : fault = .numberTooLong := by
  rw [result_ofElement, map_eq_error_iff] at h
  exact Layout.eq_numberTooLong_of_ofElement h

theorem describes_of_ofElement {root : Element} {schema : Schema}
    (h : (ofElement root).result = .ok schema) : schema.Describes root := by
  rw [result_ofElement, map_eq_ok_iff] at h
  obtain ⟨layout?, hlayout, rfl⟩ := h
  exact {
    metadata := Metadata.describes_ofElement root
    template := part_templateOf root
    definitions := fun name hname => Variable.rel_get?_tableOf root hname
    unnamed := Variable.get?_tableOf_empty root
    layout := Layout.describes_of_ofElement hlayout }

/-- **What a tree says.** A tree has a schema unless a section of its layout has an order of too many
digits, which is the only fault. The schema has what the tree describes, and a default for whatever
the tree leaves out or does not state well. The warnings say in the order of the document what was
skipped: variables without a name, and captions without a position. -/
theorem ofElement_describes (root : Element) :
    ((∃ schema, (ofElement root).result = .ok schema) ↔ ¬Layout.Unreadable root) ∧
      (∀ fault, (ofElement root).result = .error fault → fault = .numberTooLong) ∧
      (∀ schema, (ofElement root).result = .ok schema → schema.Describes root) ∧
      (ofElement root).events.filter (·.level == .warning) =
        (Variable.elements root).flatMap Variable.skipped :=
  ⟨exists_ofElement_iff, fun _ => eq_numberTooLong_of_ofElement, fun _ => describes_of_ofElement,
    Variable.warnings_eventsFrom [] _⟩

/-- A tree of one section, whose order is a number of ones. -/
def ofOnes (n : Nat) : Element :=
  .node "survey" [] "" [.node "ui_configuration" [] ""
    [.node "section" [("order", String.ofList (List.replicate n '1'))] "" [] ""] ""] ""

theorem unreadable_ofOnes {n : Nat} (h : Numeral.maxDigits < n) : Layout.Unreadable (ofOnes n) := by
  have hne : List.replicate n '1' ≠ [] := by
    rw [Ne, List.replicate_eq_nil_iff]
    omega
  have hleads : Section.Leads (List.replicate n '1') false (List.replicate n '1') :=
    Section.leads_append .none hne fun c hc => List.eq_of_mem_replicate hc ▸ rfl
  have horder : Section.Overlong (String.ofList (List.replicate n '1')).toList := by
    rw [String.toList_ofList]
    exact ⟨false, _, hleads, by rwa [List.length_replicate]⟩
  exact ⟨_, rfl, _, List.mem_cons_self, horder⟩

/-- One digit more than a number may have is a fault. -/
theorem ofElement_ofOnes : (ofElement (ofOnes 4301)).result = .error .numberTooLong := by
  have hlong : Layout.Unreadable (ofOnes 4301) := unreadable_ofOnes (by decide)
  cases hresult : (ofElement (ofOnes 4301)).result with
  | ok schema => exact absurd hlong (exists_ofElement_iff.1 ⟨schema, hresult⟩)
  | error fault => rw [eq_numberTooLong_of_ofElement hresult]

end Schema

end PromptForm
