import PromptForm.Proofs.Form.Untouched
import PromptForm.Proofs.Json.Depth
import PromptForm.Proofs.Submission.Reflection

/-!
# What stops a form

A default that cannot be read as a list of texts names nothing and does no harm, with one exception:
a default that is nested too deep is a fault, and so is every form that shows a group of boxes with
such a default. Nothing else stops a form.

## Main definitions

* `Json.TooDeep`: the reader stops in a text for its depth.
* `Json.Lists`: a text is a list in JSON that has another text among its items.
* `Field.Checks`: a field has the boxes checked that the default of its variable lists.

## Main results

* `Form.ofSchema_stops`: which schemas have a form, and what the defaults of groups of boxes name.
-/

namespace PromptForm

open List (Forall₂)

namespace Json

/-- The reader stops in a text for its depth. -/
def TooDeep (s : String) : Prop := read s = .error .tooDeep

/-- The text is a list in JSON, and `x` is one of its items. -/
def Lists (s x : String) : Prop := ∃ trees, read s = .ok (.list trees) ∧ .text x ∈ trees

theorem read_empty : read "" = .error .malformed := rfl

theorem not_lists_of_error {s x : String} {stop : Stop} (h : read s = .error stop) : ¬Lists s x := by
  rintro ⟨trees, htrees, -⟩
  rw [h] at htrees
  cases htrees

end Json

/-! ### The default of a group of boxes -/

theorem mem_textsAmong {trees : List Json.Tree} {x : String} :
    x ∈ textsAmong trees ↔ Json.Tree.text x ∈ trees := by
  rw [textsAmong, List.mem_filterMap]
  constructor
  · rintro ⟨tree, htree, htext⟩
    split at htext
    · obtain rfl := Option.some.inj htext
      exact htree
    · cases htext
  · intro h
    exact ⟨.text x, h, rfl⟩

theorem decodeDefault_of_tooDeep {s : String} (h : Json.TooDeep s) :
    decodeDefault s = .error .nestedTooDeep := by
  have hne : ¬s.isEmpty = true := by
    intro hempty
    obtain rfl := String.isEmpty_iff.1 hempty
    cases Json.read_empty.symm.trans h
  rw [decodeDefault, if_neg hne, h]

/-- A default that is not nested too deep names the texts of its list, each once, and nothing when it is
no list. -/
theorem exists_decodeDefault {s : String} (h : ¬Json.TooDeep s) :
    ∃ values, decodeDefault s = .ok values ∧ values.Nodup ∧ ∀ x, x ∈ values ↔ Json.Lists s x := by
  have hnone : ∀ {stop}, Json.read s = .error stop → ∀ x, x ∈ [] ↔ Json.Lists s x := fun hstop x =>
    iff_of_false List.not_mem_nil (Json.not_lists_of_error hstop)
  rw [decodeDefault]
  by_cases hempty : s.isEmpty
  · obtain rfl := String.isEmpty_iff.1 hempty
    exact ⟨[], rfl, .nil, hnone Json.read_empty⟩
  · rw [if_neg hempty]
    -- only a list names something, and only its texts
    cases hread : Json.read s with
    | error stop =>
      cases stop with
      | malformed => exact ⟨[], rfl, .nil, hnone hread⟩
      | tooDeep => exact absurd hread h
    | ok tree =>
      cases tree with
      | list trees =>
        refine ⟨_, rfl, FormData.nodup_eraseDups _, fun x => ?_⟩
        rw [List.mem_eraseDups, mem_textsAmong]
        constructor
        · exact fun hx => ⟨trees, hread, hx⟩
        · rintro ⟨_, htrees, hx⟩
          rw [hread] at htrees
          cases htrees
          exact hx
      | _ =>
        refine ⟨[], rfl, .nil, fun x => iff_of_false List.not_mem_nil ?_⟩
        rintro ⟨trees, htrees, -⟩
        rw [hread] at htrees
        cases htrees

/-- The default of a group of boxes is a fault exactly when it is nested too deep. -/
theorem exists_decodeDefault_iff {s : String} :
    (∃ values, decodeDefault s = .ok values) ↔ ¬Json.TooDeep s := by
  constructor
  · rintro ⟨values, hvalues⟩ hdeep
    rw [decodeDefault_of_tooDeep hdeep] at hvalues
    cases hvalues
  · intro h
    obtain ⟨values, hvalues, -⟩ := exists_decodeDefault h
    exact ⟨values, hvalues⟩

theorem eq_nestedTooDeep_of_decodeDefault {s : String} {e : Fault} (h : decodeDefault s = .error e) :
    e = .nestedTooDeep := by
  by_cases hdeep : Json.TooDeep s
  · rw [decodeDefault_of_tooDeep hdeep] at h
    exact (Except.error.inj h).symm
  · obtain ⟨values, hvalues, -⟩ := exists_decodeDefault hdeep
    rw [hvalues] at h
    cases h

/-! ### Widgets and fields -/

section Parts

variable {texts : Texts} {v : Variable}

theorem Widget.exists_ofVariable_iff :
    (∃ w, ofVariable texts v = .ok w) ↔ (v.kind = .checkboxGroup → ¬Json.TooDeep v.default) := by
  constructor
  · rintro ⟨w, hw⟩ hkind
    obtain ⟨defaults, hdefaults, -⟩ := ofVariable_checkboxGroup hkind hw
    exact exists_decodeDefault_iff.1 ⟨defaults, hdefaults⟩
  · intro h
    exact exists_ofVariable fun hkind => exists_decodeDefault_iff.2 (h hkind)

theorem Widget.eq_nestedTooDeep_of_ofVariable {e : Fault} (h : ofVariable texts v = .error e) :
    e = .nestedTooDeep := by
  obtain ⟨name, kind⟩ := v
  cases kind with
  | checkboxGroup => exact eq_nestedTooDeep_of_decodeDefault (map_eq_error_iff.1 h)
  | _ => cases h

theorem Field.exists_shows_iff :
    (∃ f, Shows texts v f) ↔ (v.kind = .checkboxGroup → ¬Json.TooDeep v.default) := by
  rw [← Widget.exists_ofVariable_iff]
  constructor
  · rintro ⟨f, hf⟩
    exact ⟨f.widget, (shows_iff.1 hf).2.2⟩
  · rintro ⟨w, hw⟩
    exact ⟨⟨v.name, v.displayLabel, w⟩, shows_iff.2 ⟨rfl, rfl, hw⟩⟩

/-- The field bears the name of the variable; and if that is a group of boxes, it has one box for each
choice, and those are checked whose values the default lists. -/
structure Field.Checks (v : Variable) (f : Field) : Prop where
  name : f.name = v.name
  boxes : v.kind = .checkboxGroup → ∃ items, f.widget = .checkboxGroup v.name items ∧
    items.map (·.value) = v.options.map (·.value) ∧
    ∀ item ∈ items, item.checked = true ↔ Json.Lists v.default item.value

/-- Boxes are checked as a default says that was decoded. -/
theorem Widget.checked_iff_of_mem_boxItems {defaults : List String} {item : ToggleItem}
    (hdefaults : decodeDefault v.default = .ok defaults) (h : item ∈ boxItems defaults v) :
    item.checked = true ↔ Json.Lists v.default item.value := by
  have hdeep : ¬Json.TooDeep v.default := exists_decodeDefault_iff.1 ⟨defaults, hdefaults⟩
  obtain ⟨values, hvalues, -, hlists⟩ := exists_decodeDefault hdeep
  obtain rfl := Except.ok.inj (hdefaults.symm.trans hvalues)
  obtain ⟨o, -, rfl⟩ := List.mem_map.1 h
  rw [← hlists]
  exact List.contains_iff_mem

theorem Field.Shows.checks {f : Field} (h : Shows texts v f) : Checks v f := by
  obtain ⟨hname, -, hwidget⟩ := shows_iff.1 h
  refine ⟨hname, fun hkind => ?_⟩
  obtain ⟨defaults, hdefaults, hboxes⟩ := Widget.ofVariable_checkboxGroup hkind hwidget
  refine ⟨_, hboxes, ?_, fun item => Widget.checked_iff_of_mem_boxItems hdefaults⟩
  rw [Widget.boxItems, List.map_map]
  rfl

theorem Field.failsOnly_ofVariable (texts : Texts) (v : Variable) :
    (ofVariable texts v).FailsOnly (· = .nestedTooDeep) :=
  fun _ h => Widget.eq_nestedTooDeep_of_ofVariable (map_eq_error_iff.1 h)

theorem Field.failsOnly_ofName? (texts : Texts) (schema : Schema) (s : Section) (name : String) :
    (ofName? texts schema s name).FailsOnly (· = .nestedTooDeep) := by
  rw [ofName?]
  split
  · exact (failsOnly_ofVariable texts _).map some
  · intro e h
    cases h

end Parts

/-! ### Forms -/

namespace Form

variable {texts : Texts} {schema : Schema}

theorem failsOnly_groupOf (texts : Texts) (schema : Schema) (s : Section) :
    (groupOf texts schema s).FailsOnly (· = .nestedTooDeep) := by
  refine .bind (.all fun t ht => ?_) fun fields => .pure _
  obtain ⟨name, -, rfl⟩ := List.mem_map.1 ht
  exact Field.failsOnly_ofName? texts schema s name

theorem failsOnly_plainGroup (texts : Texts) (schema : Schema) :
    (plainGroup texts schema).FailsOnly (· = .nestedTooDeep) := by
  refine .bind (.all fun t ht => ?_) fun fields => .pure _
  obtain ⟨v, -, rfl⟩ := List.mem_map.1 ht
  exact Field.failsOnly_ofVariable texts v

theorem failsOnly_groupsOf (texts : Texts) (schema : Schema) :
    (groupsOf texts schema).FailsOnly (· = .nestedTooDeep) := by
  have hplain : (Traced.all [plainGroup texts schema]).FailsOnly (· = .nestedTooDeep) :=
    .all (by simpa using failsOnly_plainGroup texts schema)
  rw [groupsOf]
  split
  · split
    · exact hplain
    · refine .all fun t ht => ?_
      obtain ⟨s, -, rfl⟩ := List.mem_map.1 ht
      exact failsOnly_groupOf texts schema s
  · exact hplain

theorem failsOnly_ofSchema (texts : Texts) (schema : Schema) :
    (ofSchema texts schema).FailsOnly (· = .nestedTooDeep) :=
  (failsOnly_groupsOf texts schema).bind fun _ => .pure _

/-- A schema has a form exactly when each variable that it shows has a field. -/
theorem exists_ofSchema_iff :
    (∃ form, (ofSchema texts schema).result = .ok form) ↔
      ∀ v ∈ schema.shown, ∃ f, Field.Shows texts v f := by
  constructor
  · rintro ⟨form, hform⟩ v hv
    obtain ⟨f, -, hf⟩ := exists_mem_of_forall₂ (forall₂_shows_of_ofSchema hform).flip hv
    exact ⟨f, hf⟩
  · exact exists_ofSchema

/-- **What stops a form.** A schema has a form exactly when no group of boxes that it shows has a default
that is nested too deep, and such a default is the only fault. To be nested too deep takes more opening
brackets than may be open at a time, and that many at the start are enough. Any other default names
the texts of its list, each once, and nothing when it is no list; and a form has the boxes checked that
the defaults name. -/
theorem ofSchema_stops (texts : Texts) (schema : Schema) :
    ((∃ form, (ofSchema texts schema).result = .ok form) ↔
        ∀ v ∈ schema.shown, v.kind = .checkboxGroup → ¬Json.TooDeep v.default) ∧
      (∀ e, (ofSchema texts schema).result = .error e → e = .nestedTooDeep) ∧
      (∀ form, (ofSchema texts schema).result = .ok form →
        Forall₂ Field.Checks schema.shown form.fields) ∧
      (∀ s, Json.TooDeep s →
        decodeDefault s = .error .nestedTooDeep ∧ Json.maxDepth < Json.openings s.toList) ∧
      (∀ n rest, Json.maxDepth < n →
        Json.TooDeep (String.ofList (List.replicate n '[' ++ rest))) ∧
      ∀ s, ¬Json.TooDeep s →
        ∃ values, decodeDefault s = .ok values ∧ values.Nodup ∧
          ∀ x, x ∈ values ↔ Json.Lists s x := by
  refine ⟨?_, failsOnly_ofSchema texts schema, fun form h => ?_, fun s h => ?_, fun n rest h => ?_,
    fun s h => ?_⟩
  · simp only [exists_ofSchema_iff, Field.exists_shows_iff]
  · exact (forall₂_shows_of_ofSchema h).imp fun _ _ => Field.Shows.checks
  · exact ⟨decodeDefault_of_tooDeep h, Json.lt_openings_of_read h⟩
  · exact Json.read_of_openings h rest
  · exact exists_decodeDefault h

/-- A list in a list, and so on. -/
def nest (n : Nat) : String := String.ofList (List.replicate n '[' ++ List.replicate n ']')

/-- A schema of one group of boxes, with a default that is a list of no texts. -/
def deepSurvey (n : Nat) : Schema where
  definitions := ⟨[("a", { name := "a", kind := .checkboxGroup, default := nest n })]⟩

/-- Nine thousand lists, one in the other, are no default. -/
theorem ofSchema_deepSurvey :
    (ofSchema {} (deepSurvey 9000)).result = .error .nestedTooDeep ∧
      decodeDefault (nest 9000) = .error .nestedTooDeep := by
  have hdeep : Json.TooDeep (nest 9000) := Json.read_of_openings (by decide) _
  have hshown : ∃ v ∈ (deepSurvey 9000).shown, v.kind = .checkboxGroup ∧ v.default = nest 9000 :=
    ⟨_, List.mem_cons_self, rfl, rfl⟩
  have hno : ¬∃ form, (ofSchema {} (deepSurvey 9000)).result = .ok form := by
    rw [exists_ofSchema_iff]
    intro h
    obtain ⟨v, hv, hkind, hdefault⟩ := hshown
    exact Field.exists_shows_iff.1 (h v hv) hkind (hdefault ▸ hdeep)
  refine ⟨?_, decodeDefault_of_tooDeep hdeep⟩
  cases hresult : (ofSchema {} (deepSurvey 9000)).result with
  | ok form => exact absurd ⟨form, hresult⟩ hno
  | error e => rw [failsOnly_ofSchema _ _ e hresult]

end Form

end PromptForm
