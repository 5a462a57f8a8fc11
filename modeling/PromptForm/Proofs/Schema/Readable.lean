import PromptForm.Proofs.Number.Decimal
import PromptForm.Proofs.Table
import PromptForm.Proofs.Text.Split
import PromptForm.Proofs.Traced

/-!
# What a schema that was read is like

Reading a document falls back, trims, splits and parses, and each of these steps leaves a trace on
its result: a label is never empty, a template is trimmed, the name of a field has no comma. A schema
with all of these traces is called readable, and every schema that is read is readable, whatever the
tree that it was read from.

## Main definitions

* `Schema.Keyed`: the variables of a schema stand under their own names, each once.
* `Variable.Readable`, `Section.Readable`, `Layout.Readable`, `Schema.Readable`: the traces of
  reading.

## Main results

* `Schema.readable_of_ofElement`: what is read is readable.
-/

namespace PromptForm

open Xml (Element)

/-- The variables stand under their own names, each once. -/
structure Schema.Keyed (schema : Schema) : Prop where
  nodup : schema.definitions.keys.Nodup
  name_eq : ∀ entry ∈ schema.definitions.entries, entry.2.name = entry.1

/-- A variable as reading leaves it: what falls back is not empty, and the captions stand at different
positions in range. -/
structure Variable.Readable (v : Variable) : Prop where
  name : v.name ≠ ""
  label : v.label ≠ ""
  min : v.min? ≠ some ""
  max : v.max? ≠ some ""
  step : v.step? ≠ some ""
  options : ∀ o ∈ v.options, o.value = "" → o.label = ""
  nodup_ticks : v.ticks.keys.Nodup
  inRange_ticks : ∀ position ∈ v.ticks.keys, Numeral.InRange position

/-- A section as reading leaves it: its order is in range, and the names of its fields are trimmed and
hold no comma. -/
structure Section.Readable (s : Section) : Prop where
  order : Numeral.InRange s.order
  fields : ∀ name ∈ s.fields, name ≠ "" ∧ Text.Trimmed name.toList ∧ ',' ∉ name.toList

/-- A layout as reading leaves it: the theme and the arrangement fell back when they were empty. -/
structure Layout.Readable (l : Layout) : Prop where
  theme : l.theme ≠ ""
  arrangement : l.arrangement ≠ ""
  sections : ∀ s ∈ l.sections, s.Readable

/-- A schema as reading leaves it: the template is trimmed, and the variables stand under their names. -/
structure Schema.Readable (schema : Schema) : Prop where
  template : Text.Trimmed schema.template.toList
  keyed : schema.Keyed
  definitions : ∀ v ∈ schema.definitions.values, v.Readable
  layout : ∀ l ∈ schema.layout?, l.Readable

namespace Schema

theorem Keyed.get?_name {schema : Schema} (hkeyed : schema.Keyed) {v : Variable}
    (h : v ∈ schema.definitions.values) :
    schema.definitions.get? v.name = some v := by
  obtain ⟨⟨name, v⟩, hentry, rfl⟩ := List.mem_map.1 h
  rw [hkeyed.name_eq _ hentry]
  exact (Table.get?_eq_some_iff (Table.exact_of_lawful name) hkeyed.nodup).2 hentry

theorem Keyed.eq_of_name_eq {schema : Schema} (hkeyed : schema.Keyed) {v v' : Variable}
    (h : v ∈ schema.definitions.values) (h' : v' ∈ schema.definitions.values)
    (hname : v'.name = v.name) : v' = v := by
  have hget := hkeyed.get?_name h'
  rw [hname, hkeyed.get?_name h] at hget
  exact (Option.some.inj hget).symm

end Schema

/-! ### Fallbacks -/

theorem nonemptyOr_ne_empty {s other : String} (h : other ≠ "") : nonemptyOr s other ≠ "" := by
  rw [nonemptyOr]
  split
  · exact h
  · next hs => simpa using hs

theorem nonempty?_ne_some_empty (s : String) : nonempty? s ≠ some "" := by
  by_cases h : s = "" <;> simp [nonempty?, h]

theorem eq_empty_of_nonemptyOr {s other : String} (h : nonemptyOr s other = "") : other = "" := by
  by_contra hne
  exact nonemptyOr_ne_empty hne h

/-! ### Variables -/

namespace Variable

/-- Captions stand at positions that can be read. -/
theorem inRange_of_mem_ticksOf {e : Element} {position : Int} (h : position ∈ (ticksOf e).keys) :
    Numeral.InRange position := by
  obtain ⟨entry, hentry, rfl⟩ := List.mem_map.1 h
  obtain ⟨tick, -, htick⟩ := List.mem_filterMap.1 (Table.mem_of_mem_ofPairs hentry)
  obtain ⟨position, hposition, rfl⟩ := Option.map_eq_some_iff.1 htick
  obtain ⟨s, -, hs⟩ := Option.bind_eq_some_iff.1 hposition
  exact Numeral.inRange_of_readInt? hs

theorem readable_ofElement {e : Element} (hname : nameOf e ≠ "") : (ofElement e).Readable where
  name := hname
  label := nonemptyOr_ne_empty hname
  min := nonempty?_ne_some_empty _
  max := nonempty?_ne_some_empty _
  step := nonempty?_ne_some_empty _
  options := by
    intro o ho
    obtain ⟨option, -, rfl⟩ := List.mem_map.1 ho
    exact eq_empty_of_nonemptyOr
  nodup_ticks := Table.nodup_keys_ofPairs _
  inRange_ticks _ := inRange_of_mem_ticksOf

/-- The entries of the table of a tree are variables under their names. -/
theorem exists_of_mem_tableOf {root : Element} {entry : String × Variable}
    (h : entry ∈ (tableOf root).entries) :
    ∃ e, nameOf e ≠ "" ∧ entry = (nameOf e, ofElement e) := by
  obtain ⟨e, he, rfl⟩ := List.mem_map.1 (Table.mem_of_mem_ofPairs h)
  exact ⟨e, by simpa using (List.mem_filter.1 he).2, rfl⟩

end Variable

/-! ### The layout -/

namespace Section

/-- The names between commas are trimmed, and neither empty nor do they hold a comma. -/
theorem readable_of_mem_fieldNames {s name : String} (h : name ∈ fieldNames s) :
    name ≠ "" ∧ Text.Trimmed name.toList ∧ ',' ∉ name.toList := by
  obtain ⟨hmem, hne⟩ := List.mem_filter.1 h
  obtain ⟨part, hpart, rfl⟩ := List.mem_map.1 hmem
  rw [String.toList_ofList]
  refine ⟨by simpa using hne, Text.trimmed_trim part, fun hcomma => ?_⟩
  -- a part between commas has none, and trimming adds none
  exact Text.not_mem_of_mem_splitOn hpart ((Text.trim_infix part).subset hcomma)

/-- Reading a section is reading its order; the rest is there in any case. -/
theorem ofElement_eq (e : Element) :
    ofElement e = (orderOf ((e.attribute? "order").getD "")).map fun order =>
      { name := (e.attribute? "name").getD "", order
        collapsible := e.attribute? "collapsible" == some "true"
        fields := fieldNames (e.childText "fields") } := by
  rw [ofElement]
  cases orderOf ((e.attribute? "order").getD "") <;> rfl

theorem readable_of_ofElement {e : Element} {s : Section} (h : ofElement e = .ok s) :
    s.Readable := by
  rw [ofElement_eq, map_eq_ok_iff] at h
  obtain ⟨order, horder, rfl⟩ := h
  exact ⟨inRange_of_orderOf horder, fun name => readable_of_mem_fieldNames⟩

end Section

namespace Layout

/-- Reading a layout is reading the sections of the first element of a layout. -/
theorem ofElement_eq_of_find? {root e : Element} (h : root.find? "ui_configuration" = some e) :
    ofElement root = ((e.withTag "section").mapM Section.ofElement).map fun sections =>
      some {
        theme := nonemptyOr (e.childText "theme") "default"
        arrangement := nonemptyOr (e.childText "layout") "vertical"
        sections } := by
  rw [ofElement, h]
  cases hsections : (e.withTag "section").mapM Section.ofElement with
  | error fault =>
    simp only [hsections]
    rfl
  | ok sections =>
    simp only [hsections]
    rfl

theorem ofElement_eq_of_find?_eq_none {root : Element} (h : root.find? "ui_configuration" = none) :
    ofElement root = .ok none := by
  rw [ofElement, h]

theorem readable_of_ofElement {root : Element} {l : Layout} (h : ofElement root = .ok (some l)) :
    l.Readable := by
  cases hfind : root.find? "ui_configuration" with
  | none => cases (ofElement_eq_of_find?_eq_none hfind).symm.trans h
  | some e =>
    rw [ofElement_eq_of_find? hfind, map_eq_ok_iff] at h
    obtain ⟨sections, hsections, hl⟩ := h
    obtain rfl := Option.some.inj hl
    refine ⟨nonemptyOr_ne_empty (by decide), nonemptyOr_ne_empty (by decide), fun s hs => ?_⟩
    obtain ⟨element, -, helement⟩ := exists_mem_of_forall₂ (mapM_eq_ok_iff.1 hsections) hs
    exact Section.readable_of_ofElement helement

end Layout

/-! ### Schemas -/

namespace Schema

/-- Reading a schema is reading its layout; the rest is there in any case. -/
theorem result_ofElement (root : Element) :
    (ofElement root).result = (Layout.ofElement root).map fun layout? =>
      { metadata := Metadata.ofElement root
        template := templateOf root
        definitions := Variable.tableOf root
        layout? } := by
  rw [ofElement]
  cases Layout.ofElement root <;> rfl

/-- **What is read is readable**, whatever the tree. -/
theorem readable_of_ofElement {root : Element} {schema : Schema}
    (h : (ofElement root).result = .ok schema) : schema.Readable := by
  rw [result_ofElement, map_eq_ok_iff] at h
  obtain ⟨layout?, hlayout, rfl⟩ := h
  refine ⟨?_, ⟨Table.nodup_keys_ofPairs _, ?_⟩, ?_, ?_⟩
  · rw [templateOf]
    split
    · rw [Text.toList_trimmed]
      exact Text.trimmed_trim _
    · exact ⟨by simp, by simp⟩
  · intro entry hentry
    obtain ⟨e, -, rfl⟩ := Variable.exists_of_mem_tableOf hentry
    rfl
  · intro v hv
    obtain ⟨entry, hentry, rfl⟩ := List.mem_map.1 hv
    obtain ⟨e, hname, rfl⟩ := Variable.exists_of_mem_tableOf hentry
    exact Variable.readable_ofElement hname
  · rintro l rfl
    exact Layout.readable_of_ofElement hlayout

end Schema

end PromptForm
