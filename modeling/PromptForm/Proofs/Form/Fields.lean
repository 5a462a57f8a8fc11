import PromptForm.Form.Render
import PromptForm.Proofs.Traced

/-!
# The fields of a form

Which variables a form shows, and in which groups, is settled by the schema alone: a plan. Making the
widgets follows the plan group by group and field by field; it fails only when a widget of one of the
planned variables cannot be made.

## Main definitions

* `Form.Plan`, `Schema.plans`: a group of variables, and the groups that a schema asks for.
* `Field.Shows`, `Group.Follows`: a field shows a variable, and a group follows a plan.
-/

namespace PromptForm

open List (Forall₂)

/-- A group of variables that a form is to show. -/
structure Form.Plan where
  name? : Option String
  contents : List Variable
  collapsible : Bool

namespace Schema

/-- The plan of a section: the variables that it names and that there are. -/
def planOf (schema : Schema) (s : Section) : Form.Plan :=
  { name? := some s.name
    contents := s.fields.filterMap schema.definitions.get?
    collapsible := s.collapsible }

/-- The plan without sections: all variables. -/
def plainPlan (schema : Schema) : Form.Plan :=
  { name? := none, contents := schema.definitions.values, collapsible := false }

/-- The groups that the layout of a schema asks for; without sections, one group of all variables. -/
def plans (schema : Schema) : List Form.Plan :=
  match schema.layout? with
  | some layout =>
    if layout.sections.isEmpty then [schema.plainPlan] else layout.ordered.map schema.planOf
  | none => [schema.plainPlan]

/-- The variables that a form shows, in order. -/
def shown (schema : Schema) : List Variable :=
  schema.plans.flatMap (·.contents)

end Schema

/-- The field is the one made of the variable. -/
def Field.Shows (texts : Texts) (v : Variable) (f : Field) : Prop :=
  (Field.ofVariable texts v).result = .ok f

/-- The group has the planned heading, and its fields show the planned variables in order. -/
structure Group.Follows (texts : Texts) (plan : Form.Plan) (g : Group) : Prop where
  name?_eq : g.name? = plan.name?
  fields : Forall₂ (Field.Shows texts) plan.contents g.fields
  collapsible_eq : g.collapsible = plan.collapsible

/-! ### Fields -/

namespace Field

variable {texts : Texts} {v : Variable} {f : Field}

/-- A field shows a variable when it has its name, its label and a widget made of it. -/
theorem shows_iff :
    Shows texts v f ↔
      f.name = v.name ∧ f.label = v.displayLabel ∧ Widget.ofVariable texts v = .ok f.widget := by
  obtain ⟨name, label, widget⟩ := f
  rw [Shows, ofVariable]
  simp only [map_eq_ok_iff, mk.injEq]
  constructor
  · rintro ⟨w, hw, rfl, rfl, rfl⟩
    exact ⟨rfl, rfl, hw⟩
  · rintro ⟨rfl, rfl, hw⟩
    exact ⟨widget, hw, rfl, rfl, rfl⟩

/-- A name of a section leads to the field of its variable, or to nothing. -/
theorem result_ofName?_eq_ok_iff {schema : Schema} {s : Section} {name : String}
    {found : Option Field} :
    (ofName? texts schema s name).result = .ok found ↔
      match schema.definitions.get? name with
      | some v => ∃ f, Shows texts v f ∧ some f = found
      | none => none = found := by
  rw [ofName?]
  cases schema.definitions.get? name with
  | none =>
    simp only [Traced.result_bind_eq_ok_iff, Traced.result_pure, Except.ok.injEq]
    exact ⟨fun ⟨_, _, h⟩ => h, fun h => ⟨(), rfl, h⟩⟩
  | some v => exact Traced.result_map_eq_ok_iff

/-- The names of a section lead to fields that show the variables among them. -/
theorem forall₂_ofName? {schema : Schema} {s : Section} {names : List String}
    {fields : List Field} :
    (∃ found, Forall₂ (fun name f? => (ofName? texts schema s name).result = .ok f?) names found ∧
        found.filterMap id = fields) ↔
      Forall₂ (Shows texts) (names.filterMap schema.definitions.get?) fields := by
  simp only [result_ofName?_eq_ok_iff]
  induction names generalizing fields with
  | nil =>
    constructor
    · rintro ⟨found, hfound, rfl⟩
      cases hfound
      exact .nil
    · intro h
      cases h
      exact ⟨[], .nil, rfl⟩
  | cons name names ih =>
    simp only [List.forall₂_cons_left_iff, List.filterMap_cons]
    -- a name without a variable gives no field and leaves the list of fields alone
    cases schema.definitions.get? name with
    | none =>
      simp only [← ih]
      constructor
      · rintro ⟨_, ⟨_, found, rfl, hfound, rfl⟩, rfl⟩
        exact ⟨found, hfound, rfl⟩
      · rintro ⟨found, hfound, rfl⟩
        exact ⟨none :: found, ⟨none, found, rfl, hfound, rfl⟩, rfl⟩
    | some v =>
      simp only [List.forall₂_cons_left_iff, ← ih]
      constructor
      · rintro ⟨_, ⟨_, found, ⟨f, hf, rfl⟩, hfound, rfl⟩, rfl⟩
        exact ⟨f, found.filterMap id, hf, ⟨found, hfound, rfl⟩, rfl⟩
      · rintro ⟨f, _, hf, ⟨found, hfound, rfl⟩, rfl⟩
        exact ⟨some f :: found, ⟨some f, found, ⟨f, hf, rfl⟩, hfound, rfl⟩, rfl⟩

end Field

/-! ### Groups and forms -/

namespace Form

variable {texts : Texts} {schema : Schema}

/-- Making the group of a section is following its plan. -/
theorem result_groupOf_eq_ok_iff {s : Section} {g : Group} :
    (groupOf texts schema s).result = .ok g ↔ Group.Follows texts (schema.planOf s) g := by
  rw [groupOf, Traced.result_bind_eq_ok_iff]
  constructor
  · rintro ⟨found, hfound, hg⟩
    obtain rfl := Except.ok.inj hg
    rw [Traced.result_all_eq_ok_iff, List.forall₂_map_left_iff] at hfound
    exact ⟨rfl, Field.forall₂_ofName?.1 ⟨found, hfound, rfl⟩, rfl⟩
  · rintro ⟨hname, hfields, hcollapsible⟩
    obtain ⟨found, hfound, hfields⟩ := Field.forall₂_ofName?.2 hfields
    refine ⟨found, ?_, ?_⟩
    · rw [Traced.result_all_eq_ok_iff, List.forall₂_map_left_iff]
      exact hfound
    · obtain ⟨name?, fields, collapsible⟩ := g
      change Except.ok _ = _
      rw [hfields]
      simp only [Schema.planOf] at hname hcollapsible
      rw [hname, hcollapsible]

/-- Making the group of all variables is following the plan without sections. -/
theorem result_plainGroup_eq_ok_iff {g : Group} :
    (plainGroup texts schema).result = .ok g ↔ Group.Follows texts schema.plainPlan g := by
  rw [plainGroup, Traced.result_bind_eq_ok_iff]
  constructor
  · rintro ⟨fields, hfields, hg⟩
    obtain rfl := Except.ok.inj hg
    rw [Traced.result_all_eq_ok_iff, List.forall₂_map_left_iff] at hfields
    exact ⟨rfl, hfields, rfl⟩
  · rintro ⟨hname, hfields, hcollapsible⟩
    refine ⟨g.fields, ?_, ?_⟩
    · rw [Traced.result_all_eq_ok_iff, List.forall₂_map_left_iff]
      exact hfields
    · obtain ⟨name?, fields, collapsible⟩ := g
      change Except.ok _ = _
      simp only [Schema.plainPlan] at hname hcollapsible
      rw [hname, hcollapsible]

/-- Making the groups of a form is following the plans of its schema. -/
theorem result_groupsOf_eq_ok_iff {groups : List Group} :
    (groupsOf texts schema).result = .ok groups ↔
      Forall₂ (Group.Follows texts) schema.plans groups := by
  have hplain : (Traced.all [plainGroup texts schema]).result = .ok groups ↔
      Forall₂ (Group.Follows texts) [schema.plainPlan] groups := by
    rw [Traced.result_all_eq_ok_iff]
    simp only [List.forall₂_cons_left_iff, List.forall₂_nil_left_iff, result_plainGroup_eq_ok_iff]
  rw [groupsOf, Schema.plans]
  cases schema.layout? with
  | none => exact hplain
  | some layout =>
    by_cases hempty : layout.sections.isEmpty
    · simp only [if_pos hempty]
      exact hplain
    · simp only [if_neg hempty]
      rw [Traced.result_all_eq_ok_iff, List.forall₂_map_left_iff, List.forall₂_map_left_iff]
      simp only [result_groupOf_eq_ok_iff]

/-- A form has the groups that its schema asks for. -/
theorem forall₂_follows_of_ofSchema {form : Form} (h : (ofSchema texts schema).result = .ok form) :
    Forall₂ (Group.Follows texts) schema.plans form.groups := by
  obtain ⟨groups, hgroups, hform⟩ := Traced.result_bind_eq_ok_iff.1 h
  obtain rfl := Except.ok.inj hform
  exact result_groupsOf_eq_ok_iff.1 hgroups

/-- The fields of a form show the variables that its schema shows, in order. -/
theorem forall₂_shows_of_ofSchema {form : Form} (h : (ofSchema texts schema).result = .ok form) :
    Forall₂ (Field.Shows texts) schema.shown form.fields := by
  have hgroups := forall₂_follows_of_ofSchema h
  rw [Schema.shown, fields]
  generalize schema.plans = plans, form.groups = groups at hgroups
  induction hgroups with
  | nil => exact .nil
  | cons hgroup _ ih => exact List.rel_append hgroup.fields ih

/-- A schema has a form when each variable that it shows has a field. -/
theorem exists_ofSchema (h : ∀ v ∈ schema.shown, ∃ f, Field.Shows texts v f) :
    ∃ form, (ofSchema texts schema).result = .ok form := by
  have hplans : ∀ plan ∈ schema.plans, ∃ g, Group.Follows texts plan g := by
    intro plan hplan
    obtain ⟨fields, hfields⟩ := exists_forall₂ fun v hv =>
      h v (List.mem_flatMap.2 ⟨plan, hplan, hv⟩)
    exact ⟨⟨plan.name?, fields, plan.collapsible⟩, rfl, hfields, rfl⟩
  obtain ⟨groups, hgroups⟩ := exists_forall₂ hplans
  exact ⟨_, Traced.result_bind_eq_ok_iff.2 ⟨groups, result_groupsOf_eq_ok_iff.2 hgroups, rfl⟩⟩

end Form

end PromptForm
