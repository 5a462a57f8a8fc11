import PromptForm.Proofs.Form.Faults

/-!
# How a form is put together

The sections of a layout become the groups of a form, one for one: by ascending order, and in the order of
the document where the orders are equal. A group shows the variables that its section lists, as often as
they are listed, and nothing else; a name that no variable has leaves one event behind. Without sections
there is one group, which shows every variable once. What can keep a form from being put together is a
single default alone, so that a form is lost but never changed by it.

## Main definitions

* `Schema.sections`: the sections that a schema has in its document.
* `Section.Arranged`: sections in the order in which they are shown.
* `Schema.Asks`: a variable that a form is to show.
* `Schema.dropped`: the events of the names of a section that no variable has.

## Main results

* `Form.ofSchema_assembles`: which schemas have a form, and what is in it.
-/

namespace PromptForm

open List (Forall₂)

/-! ### The order of sections -/

/-- Sections by ascending order, those of one order as they stand in another list. -/
structure Section.Arranged (sections ordered : List Section) : Prop where
  perm : ordered.Perm sections
  ascending : ordered.Pairwise fun s t => s.order ≤ t.order
  stable : ∀ n, ordered.filter (·.order == n) = sections.filter (·.order == n)

theorem Layout.arranged_ordered (l : Layout) : Section.Arranged l.sections l.ordered := by
  have htrans : ∀ s t u : Section, decide (s.order ≤ t.order) = true → decide (t.order ≤ u.order) = true →
      decide (s.order ≤ u.order) = true := by
    simp only [decide_eq_true_eq]
    exact fun _ _ _ => Int.le_trans
  have htotal : ∀ s t : Section, (decide (s.order ≤ t.order) || decide (t.order ≤ s.order)) = true := by
    simp only [Bool.or_eq_true, decide_eq_true_eq]
    exact fun _ _ => Int.le_total _ _
  have hperm : l.ordered.Perm l.sections := List.mergeSort_perm ..
  refine ⟨hperm, (List.pairwise_mergeSort htrans htotal _).imp of_decide_eq_true, fun n => ?_⟩
  -- the sections of one order are sorted as they stand, and what is sorted keeps its order
  have hsorted : (l.sections.filter (·.order == n)).Pairwise fun s t => decide (s.order ≤ t.order) = true := by
    refine List.pairwise_of_forall_mem_list fun s hs t ht => ?_
    have hs := beq_iff_eq.1 (List.mem_filter.1 hs).2
    have ht := beq_iff_eq.1 (List.mem_filter.1 ht).2
    exact decide_eq_true (Int.le_of_eq (hs.trans ht.symm))
  have hsub : (l.sections.filter (·.order == n)).Sublist l.ordered :=
    List.sublist_mergeSort htrans htotal hsorted List.filter_sublist
  have hsub' := hsub.filter (·.order == n)
  rw [List.filter_filter] at hsub'
  simp only [Bool.and_self] at hsub'
  exact (hsub'.eq_of_length (hperm.filter _).length_eq.symm).symm

/-! ### What a schema asks for -/

namespace Schema

/-- The sections of a schema in the order of the document, none without a layout. -/
def sections (schema : Schema) : List Section :=
  (schema.layout?.map Layout.sections).getD []

/-- A form is to show a variable that a section lists, and, without sections, every variable. -/
inductive Asks (schema : Schema) : Variable → Prop
  | listed {s : Section} {name : String} {v : Variable} (hs : s ∈ schema.sections)
    (hname : name ∈ s.fields) (hv : schema.definitions.get? name = some v) : Asks schema v
  | declared {v : Variable} (hnone : schema.sections = []) (hv : v ∈ schema.definitions.values) :
    Asks schema v

/-- The events of the names that a section lists and no variable has, one for each. -/
def dropped (schema : Schema) (s : Section) : List Event :=
  (s.fields.filter fun name => (schema.definitions.get? name).isNone).map (.unknownField s.name)

theorem level_of_mem_dropped {schema : Schema} {s : Section} {event : Event}
    (h : event ∈ schema.dropped s) : event.level = .debug := by
  obtain ⟨name, -, rfl⟩ := List.mem_map.1 h
  rfl

/-- Either a schema has no sections, and one group is made, or a group is made for each section in order. -/
theorem sections_cases (texts : Texts) (schema : Schema) :
    (schema.sections = [] ∧ schema.plans = [schema.plainPlan] ∧
        Form.groupsOf texts schema = Traced.all [Form.plainGroup texts schema]) ∨
      (schema.sections ≠ [] ∧ ∃ ordered, Section.Arranged schema.sections ordered ∧
        schema.plans = ordered.map schema.planOf ∧
        Form.groupsOf texts schema = Traced.all (ordered.map (Form.groupOf texts schema))) := by
  rw [sections, plans, Form.groupsOf]
  cases schema.layout? with
  | none => exact .inl ⟨rfl, rfl, rfl⟩
  | some layout =>
    by_cases hempty : layout.sections.isEmpty
    · exact .inl ⟨List.isEmpty_iff.1 hempty, if_pos hempty, if_pos hempty⟩
    · exact .inr ⟨fun hnil => hempty (List.isEmpty_iff.2 hnil), layout.ordered, layout.arranged_ordered,
        if_neg hempty, if_neg hempty⟩

theorem mem_shown_iff {schema : Schema} {v : Variable} : v ∈ schema.shown ↔ schema.Asks v := by
  rw [shown]
  rcases schema.sections_cases {} with ⟨hnone, hplans, -⟩ | ⟨hsome, ordered, harranged, hplans, -⟩
  · rw [hplans, List.flatMap_singleton]
    constructor
    · exact .declared hnone
    · intro h
      cases h with
      | listed hs => rw [hnone] at hs; cases hs
      | declared _ hv => exact hv
  · rw [hplans, List.flatMap_map, List.mem_flatMap]
    constructor
    · rintro ⟨s, hs, hv⟩
      obtain ⟨name, hname, hv⟩ := List.mem_filterMap.1 hv
      exact .listed (harranged.perm.mem_iff.1 hs) hname hv
    · intro h
      cases h with
      | listed hs hname hv =>
        exact ⟨_, harranged.perm.mem_iff.2 hs, List.mem_filterMap.2 ⟨_, hname, hv⟩⟩
      | declared hnone => exact absurd hnone hsome

end Schema

/-! ### The events of names that lead nowhere -/

/-- Whether the event tells of a name that a section lists and no variable has. -/
def Event.isUnknownField : Event → Bool
  | unknownField _ _ => true
  | _ => false

section Events

variable {texts : Texts} {schema : Schema}

/-- Making the widget of a variable leaves no such event. -/
theorem Field.filter_events_ofVariable (texts : Texts) (v : Variable) :
    (ofVariable texts v).events.filter (·.isUnknownField) = [] := by
  have hevents : (ofVariable texts v).events = Widget.eventsOf v := rfl
  rw [hevents, Widget.eventsOf]
  split
  · rw [defaultEvents]
    split
    · rfl
    · split <;> rfl
  · rfl

theorem Field.filter_events_ofName? (s : Section) (name : String) :
    (ofName? texts schema s name).events.filter (·.isUnknownField) =
      if (schema.definitions.get? name).isNone then [.unknownField s.name name] else [] := by
  rw [ofName?]
  cases schema.definitions.get? name with
  | none => rfl
  | some v => exact (congrArg _ (Traced.events_map _ _)).trans (filter_events_ofVariable texts v)

namespace Form

theorem filter_events_groupOf {s : Section} {g : Group} (h : (groupOf texts schema s).result = .ok g) :
    (groupOf texts schema s).events.filter (·.isUnknownField) = schema.dropped s := by
  obtain ⟨fields, hfields, -⟩ := Traced.result_bind_eq_ok_iff.1 h
  rw [groupOf, Traced.events_bind_of_ok hfields, Traced.events_all hfields, Traced.events_pure,
    List.append_nil, List.flatMap_map, List.filter_flatMap, Schema.dropped]
  simp only [Field.filter_events_ofName?]
  induction s.fields with
  | nil => rfl
  | cons name names ih =>
    rw [List.flatMap_cons, ih, List.filter_cons]
    split <;> rfl

theorem filter_events_plainGroup {g : Group} (h : (plainGroup texts schema).result = .ok g) :
    (plainGroup texts schema).events.filter (·.isUnknownField) = [] := by
  obtain ⟨fields, hfields, -⟩ := Traced.result_bind_eq_ok_iff.1 h
  rw [plainGroup, Traced.events_bind_of_ok hfields, Traced.events_all hfields, Traced.events_pure,
    List.append_nil, List.flatMap_map, List.filter_flatMap]
  simp [Field.filter_events_ofVariable]

theorem events_ofSchema {groups : List Group} (h : (groupsOf texts schema).result = .ok groups) :
    (ofSchema texts schema).events = (groupsOf texts schema).events := by
  rw [ofSchema, Traced.events_bind_of_ok h, Traced.events_pure, List.append_nil]

/-- Several groups leave the events of each of them. -/
theorem filter_events_all {ι : Type} {group : ι → Traced Group} {dropped : ι → List Event} {is : List ι}
    {groups : List Group} (h : (Traced.all (is.map group)).result = .ok groups)
    (hgroup : ∀ i g, (group i).result = .ok g → (group i).events.filter (·.isUnknownField) = dropped i) :
    (Traced.all (is.map group)).events.filter (·.isUnknownField) = is.flatMap dropped := by
  have hgroups := Traced.result_all_eq_ok_iff.1 h
  rw [List.forall₂_map_left_iff] at hgroups
  rw [Traced.events_all h, List.flatMap_map, List.filter_flatMap]
  refine List.flatMap_congr fun i hi => ?_
  obtain ⟨g, -, hg⟩ := exists_mem_of_forall₂ hgroups.flip hi
  exact hgroup i g hg

end Form

end Events

/-! ### Forms -/

namespace Form

variable {texts : Texts} {schema : Schema}

theorem exists_ofSchema_iff_asks :
    (∃ form, (ofSchema texts schema).result = .ok form) ↔
      ∀ v, schema.Asks v → v.kind = .checkboxGroup → ¬Json.TooDeep v.default := by
  simp only [exists_ofSchema_iff, Schema.mem_shown_iff, Field.exists_shows_iff]

/-- The groups of a form of sections follow the sections in their order. -/
theorem assembles_sections {form : Form} (h : (ofSchema texts schema).result = .ok form)
    (hsections : schema.sections ≠ []) :
    ∃ ordered, Section.Arranged schema.sections ordered ∧
      Forall₂ (fun s g => Group.Follows texts (schema.planOf s) g) ordered form.groups ∧
      (ofSchema texts schema).events.filter (·.isUnknownField) = ordered.flatMap schema.dropped := by
  have hfollows := forall₂_follows_of_ofSchema h
  obtain ⟨groups, hgroups, -⟩ := Traced.result_bind_eq_ok_iff.1 h
  rcases schema.sections_cases texts with ⟨hnone, -⟩ | ⟨-, ordered, harranged, hplans, heq⟩
  · exact absurd hnone hsections
  · refine ⟨ordered, harranged, ?_, ?_⟩
    · rwa [hplans, List.forall₂_map_left_iff] at hfollows
    · rw [events_ofSchema hgroups, heq]
      exact filter_events_all (heq ▸ hgroups) fun s g => filter_events_groupOf

/-- Without sections the one group of a form follows the variables. -/
theorem assembles_plain {form : Form} (h : (ofSchema texts schema).result = .ok form)
    (hsections : schema.sections = []) :
    ∃ g, form.groups = [g] ∧ Group.Follows texts schema.plainPlan g ∧
      (ofSchema texts schema).events.filter (·.isUnknownField) = [] := by
  have hfollows := forall₂_follows_of_ofSchema h
  obtain ⟨groups, hgroups, -⟩ := Traced.result_bind_eq_ok_iff.1 h
  rcases schema.sections_cases texts with ⟨-, hplans, heq⟩ | ⟨hsome, -⟩
  · rw [hplans, List.forall₂_cons_left_iff] at hfollows
    obtain ⟨g, rest, hg, hrest, hform⟩ := hfollows
    cases hrest
    refine ⟨g, hform, hg, ?_⟩
    have hone : (Traced.all ([()].map fun _ => plainGroup texts schema)).result = .ok groups :=
      heq ▸ hgroups
    rw [events_ofSchema hgroups, heq]
    exact filter_events_all hone fun _ g => filter_events_plainGroup
  · exact absurd hsections hsome

/-- **Assembly neither loses nor invents fields.** A schema has a form exactly when no group of boxes that
it asks for has a default that is nested too deep. The groups of a form with sections are the sections by
ascending order, those of one order as in the document, each with its name and whether it collapses; the
fields of a group show, in the listed order and as often as they are listed, the variables that the section
lists, and every other listed name leaves just one debug event of the section and the name. Without
sections there is one group without a name, which does not collapse and shows every variable in the order
of their declarations. The fields of a form are those of its groups, one after the other. -/
theorem ofSchema_assembles (texts : Texts) (schema : Schema) :
    ((∃ form, (ofSchema texts schema).result = .ok form) ↔
        ∀ v, schema.Asks v → v.kind = .checkboxGroup → ¬Json.TooDeep v.default) ∧
      (∀ s, ∀ event ∈ schema.dropped s, event.level = .debug) ∧
      ∀ form, (ofSchema texts schema).result = .ok form →
        form.fields = (form.groups.map (·.fields)).flatten ∧
        (schema.sections ≠ [] → ∃ ordered, Section.Arranged schema.sections ordered ∧
          Forall₂ (fun s g => g.name? = some s.name ∧ g.collapsible = s.collapsible ∧
            Forall₂ (Field.Shows texts) (s.fields.filterMap schema.definitions.get?) g.fields)
            ordered form.groups ∧
          (ofSchema texts schema).events.filter (·.isUnknownField) = ordered.flatMap schema.dropped) ∧
        (schema.sections = [] → ∃ fields, form.groups = [⟨none, fields, false⟩] ∧
          Forall₂ (Field.Shows texts) schema.definitions.values fields ∧
          (ofSchema texts schema).events.filter (·.isUnknownField) = []) := by
  refine ⟨exists_ofSchema_iff_asks, fun s event => Schema.level_of_mem_dropped, fun form h =>
    ⟨List.flatMap_def, fun hsections => ?_, fun hsections => ?_⟩⟩
  · obtain ⟨ordered, harranged, hfollows, hevents⟩ := assembles_sections h hsections
    exact ⟨ordered, harranged, hfollows.imp fun s g hg => ⟨hg.name?_eq, hg.collapsible_eq, hg.fields⟩,
      hevents⟩
  · obtain ⟨⟨name?, fields, collapsible⟩, hgroups, hg, hevents⟩ := assembles_plain h hsections
    obtain ⟨rfl, hfields, rfl⟩ := hg
    exact ⟨fields, hgroups, hfields, hevents⟩

/-- A schema of one section with one group of boxes, whose default is nested. -/
def deepSection (n : Nat) : Schema :=
  { deepSurvey n with layout? := some { sections := [{ name := "Main", fields := ["a"] }] } }

theorem not_exists_deepSection {n : Nat} (h : Json.TooDeep (nest n)) :
    ¬∃ form, (ofSchema texts (deepSection n)).result = .ok form := by
  intro hform
  have hasks : (deepSection n).Asks { name := "a", kind := .checkboxGroup, default := nest n } :=
    .listed List.mem_cons_self List.mem_cons_self rfl
  exact exists_ofSchema_iff_asks.1 hform _ hasks rfl h

/-- The name in the section is that of a variable, and yet there is no form. -/
theorem ofSchema_deepSection :
    (deepSection 9000).sections = [{ name := "Main", fields := ["a"] }] ∧
      (deepSection 9000).definitions.keys = ["a"] ∧
      (ofSchema {} (deepSection 9000)).result = .error .nestedTooDeep := by
  refine ⟨rfl, rfl, ?_⟩
  have hdeep : Json.TooDeep (nest 9000) := Json.read_of_openings (by decide) _
  have hno : ¬∃ form, (ofSchema {} (deepSection 9000)).result = .ok form := not_exists_deepSection hdeep
  cases hresult : (ofSchema {} (deepSection 9000)).result with
  | ok form => exact absurd ⟨form, hresult⟩ hno
  | error e => rw [failsOnly_ofSchema _ _ e hresult]

end Form

end PromptForm
