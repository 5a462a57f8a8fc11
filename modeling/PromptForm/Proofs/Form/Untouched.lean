import PromptForm.Proofs.Form.Fields
import PromptForm.Proofs.Schema.Readable
import PromptForm.Proofs.Submission.Collect

/-!
# Submitting a form untouched

A form that is submitted as it was made gives every variable what its definition declares. How often
the form shows a variable matters only to how the value is kept: a variable that is not shown submits
nothing, and one that is shown several times submits its value as often.

## Main definitions

* `Form.occurrences`: how often a form shows a name.
* `Variable.Untouched`: what a variable gets from a form that nobody touched.

## Main results

* `Form.collect_initialSubmission`: an untouched form gives the declared values.
-/

namespace PromptForm

/-- How many fields of a form have a name. -/
def Form.occurrences (form : Form) (name : String) : Nat :=
  form.fields.countP (·.name == name)

/-- What is kept of a text that is submitted a number of times. -/
def FormData.repeated (x : String) : Nat → Option Value
  | 0 => none
  | 1 => some (.text x)
  | n => some (.list (List.replicate n (.text x)))

namespace Variable

/-- Whether one of the choices is the default. -/
def offersDefault (v : Variable) : Bool :=
  v.options.any (·.value == v.default)

/-- The text that the widget of a variable submits at the start; boxes have none. -/
def startText? (v : Variable) : Option String :=
  match v.kind with
  | .text | .number | .textarea => some v.default
  | .range => some (([v.default, v.min?.getD ""].find? (· != "")).getD "0")
  | .select =>
    if v.offersDefault then some v.default
    else if v.required then some ((v.options.head?.map (·.value)).getD "")
    else some ""
  | .radio => if v.offersDefault then some v.default else none
  | .checkbox | .checkboxGroup => none

/-- The choices that a list of values names, by their values in the order of the choices. -/
def chosen (v : Variable) (values : List String) : List String :=
  (v.options.filter fun o => values.contains o.value).map (·.value)

/-- What a variable gets from an untouched form that shows it a number of times. -/
def Untouched (v : Variable) (times : Nat) (kept? : Option Value) : Prop :=
  match v.kind with
  | .checkbox => kept? = some (.bool (v.default == "true" && decide (0 < times)))
  | .checkboxGroup =>
    ∃ defaults, decodeDefault v.default = .ok defaults ∧
      kept? = some (.list (if times = 0 then [] else (v.chosen defaults).map .text))
  | _ => kept? = v.startText?.bind fun x => FormData.repeated x times

end Variable

/-! ### What a widget submits at the start -/

@[simp] theorem getD_nonempty? (s : String) : (nonempty? s).getD "" = s := by
  by_cases h : s = "" <;> simp [nonempty?, h]

/-- The first choice that is the default, by its value. -/
theorem Variable.map_value_find?_default (v : Variable) :
    (v.options.find? (·.value == v.default)).map (·.value) =
      if v.offersDefault then some v.default else none := by
  cases hfind : v.options.find? (·.value == v.default) with
  | some o =>
    have hvalue : o.value = v.default := by simpa using List.find?_some hfind
    have hoffers : v.offersDefault = true :=
      List.any_eq_true.2 ⟨o, List.mem_of_find?_eq_some hfind, by simp [hvalue]⟩
    rw [if_pos hoffers, ← hvalue]
    rfl
  | none =>
    have hoffers : v.offersDefault = false := by
      rw [List.find?_eq_none] at hfind
      simpa [offersDefault] using hfind
    rw [hoffers]
    rfl

namespace Widget

variable {texts : Texts} {v : Variable} {w : Widget}

/-- A variable has a widget, unless it is a group of boxes whose default cannot be read. -/
theorem exists_ofVariable
    (h : v.kind = .checkboxGroup → ∃ defaults, decodeDefault v.default = .ok defaults) :
    ∃ w, ofVariable texts v = .ok w := by
  obtain ⟨name, kind⟩ := v
  cases kind with
  | checkboxGroup =>
    obtain ⟨defaults, hdefaults⟩ := h rfl
    exact ⟨_, congrArg (Except.map _) hdefaults⟩
  | _ => exact ⟨_, rfl⟩

/-- The widget of a group of boxes is made of the values that its default names. -/
theorem ofVariable_checkboxGroup (hkind : v.kind = .checkboxGroup)
    (h : ofVariable texts v = .ok w) :
    ∃ defaults, decodeDefault v.default = .ok defaults ∧
      w = checkboxGroup v.name (boxItems defaults v) := by
  rw [ofVariable, hkind] at h
  obtain ⟨defaults, hdefaults, rfl⟩ := map_eq_ok_iff.1 h
  exact ⟨defaults, hdefaults, rfl⟩

/-- A widget submits under the name of its variable. -/
theorem name_ofVariable (h : ofVariable texts v = .ok w) : w.name = v.name := by
  by_cases hgroup : v.kind = .checkboxGroup
  · obtain ⟨defaults, -, rfl⟩ := ofVariable_checkboxGroup hgroup h
    rfl
  · obtain ⟨name, kind⟩ := v
    cases kind with
    | checkboxGroup => exact absurd rfl hgroup
    | _ =>
      obtain rfl := Except.ok.inj h
      rfl

/-- A group of boxes submits the choices that its default names. -/
theorem initialValues_checkboxGroup (hkind : v.kind = .checkboxGroup)
    (h : ofVariable texts v = .ok w) :
    ∃ defaults, decodeDefault v.default = .ok defaults ∧ w.initialValues = v.chosen defaults := by
  obtain ⟨defaults, hdefaults, rfl⟩ := ofVariable_checkboxGroup hkind h
  refine ⟨defaults, hdefaults, ?_⟩
  simp [initialValues, checkedValues, boxItems, Variable.chosen, List.filter_map, Function.comp_def]

/-- A box submits something when its default is exactly `true`. -/
theorem initialValues_checkbox (hkind : v.kind = .checkbox) (h : ofVariable texts v = .ok w) :
    w.initialValues = if v.default == "true" then [checkedText] else [] := by
  rw [ofVariable, hkind] at h
  obtain rfl := Except.ok.inj h
  rfl

/-- The checked button of a group is the default when that is a choice. -/
theorem checkedValue?_radioItems :
    checkedValue? (radioItems v) = if v.offersDefault then some v.default else none := by
  rw [checkedValue?, radioItems, List.find?_map, Option.map_map]
  exact v.map_value_find?_default

theorem selectedValue_eq (items : List SelectItem) :
    selectedValue items = ((items.find? (·.selected)).map (·.value)).getD
      ((items.head?.map (·.value)).getD "") := by
  rw [selectedValue]
  cases items.find? (·.selected) with
  | none => rfl
  | some item => rfl

/-- A selection is at the default when that is a choice, and else at its first entry. -/
theorem selectedValue_selectItems :
    selectedValue (selectItems texts v) =
      if v.offersDefault then v.default
      else if v.required then (v.options.head?.map (·.value)).getD "" else "" := by
  have hselected : ((selectItems texts v).find? (·.selected)).map (·.value) =
      if v.offersDefault then some v.default else none := by
    -- the empty entry in front is never the selected one
    have hplaceholder : (if v.required then ([] : List SelectItem)
        else [{ value := "", label := texts.selectPlaceholder }]).find? (·.selected) = none := by
      split <;> rfl
    rw [selectItems, List.find?_append, hplaceholder, Option.none_or, List.find?_map,
      Option.map_map]
    exact v.map_value_find?_default
  have hfirst : ((selectItems texts v).head?.map (·.value)).getD "" =
      if v.required then (v.options.head?.map (·.value)).getD "" else "" := by
    rw [selectItems]
    cases v.required with
    | false => rfl
    | true => simp [List.head?_map, Function.comp_def]
  rw [selectedValue_eq, hselected, hfirst]
  split
  · rfl
  · rfl

/-- A slider is at the default, or else at the lower bound, or else at zero. -/
theorem sliderValue_eq :
    sliderValue v = ([v.default, v.min?.getD ""].find? (· != "")).getD "0" := by
  rw [sliderValue, nonemptyOr]
  by_cases hdefault : v.default = ""
  · cases hmin : v.min? with
    | none => simp [hdefault, bound?]
    | some m => by_cases hm : m = "" <;> simp [hdefault, bound?, nonempty?, hm]
  · simp [hdefault]

/-- A widget that is no box and no group of boxes submits the text that it starts with. -/
theorem initialValues_text (hbox : v.kind ≠ .checkbox) (hgroup : v.kind ≠ .checkboxGroup)
    (h : ofVariable texts v = .ok w) : w.initialValues = v.startText?.toList := by
  rw [ofVariable] at h
  rw [Variable.startText?]
  cases hkind : v.kind with
  | checkbox => exact absurd hkind hbox
  | checkboxGroup => exact absurd hkind hgroup
  | select =>
    rw [hkind] at h
    obtain rfl := Except.ok.inj h
    simp only [initialValues, selectedValue_selectItems]
    split
    · rfl
    · split <;> rfl
  | radio =>
    rw [hkind] at h
    obtain rfl := Except.ok.inj h
    simp only [initialValues, checkedValue?_radioItems]
  | range =>
    rw [hkind] at h
    obtain rfl := Except.ok.inj h
    simp only [initialValues, sliderValue_eq, Option.toList_some]
  | _ =>
    rw [hkind] at h
    obtain rfl := Except.ok.inj h
    simp only [initialValues, getD_nonempty?, Option.toList_some]

end Widget

/-! ### What a form submits at the start -/

namespace Schema

variable {schema : Schema} {v : Variable}

/-- A form shows variables of its schema only. -/
theorem mem_definitions_of_mem_shown (h : v ∈ schema.shown) : v ∈ schema.definitions.values := by
  obtain ⟨plan, hplan, hv⟩ := List.mem_flatMap.1 h
  have hplain : plan = schema.plainPlan → v ∈ schema.definitions.values := by
    rintro rfl
    exact hv
  rw [plans] at hplan
  split at hplan
  · split at hplan
    · exact hplain (List.mem_singleton.1 hplan)
    · obtain ⟨s, -, rfl⟩ := List.mem_map.1 hplan
      obtain ⟨name, -, hget⟩ := List.mem_filterMap.1 hv
      exact Table.mem_values_of_get? hget
  · exact hplain (List.mem_singleton.1 hplan)

end Schema

namespace FormData

/-- A text that is submitted a number of times is kept as such. -/
theorem grouped_replicate (x : String) (times : Nat) :
    grouped (List.replicate times (.text x)) = repeated x times := by
  match times with
  | 0 => rfl
  | 1 => rfl
  | times + 2 => rfl

end FormData

theorem any_flatten_replicate {α : Type} (times : Nat) (xs : List α) (p : α → Bool) :
    (List.replicate times xs).flatten.any p = (decide (0 < times) && xs.any p) := by
  rw [List.any_flatten, List.any_replicate]
  by_cases h : times = 0
  · simp [h]
  · simp [h, Nat.pos_of_ne_zero h]

namespace Variable

open FormData

variable {texts : Texts} {v : Variable} {w : Widget}

/-- The choices that a group of boxes submits are checked, and no others. -/
theorem checkedChoices_replicate (v : Variable) (defaults : List String) (times : Nat) :
    checkedChoices v (List.replicate times ((v.chosen defaults).map Value.text)).flatten =
      if times = 0 then [] else (v.chosen defaults).map .text := by
  have hany : ∀ o ∈ v.options,
      (List.replicate times ((v.chosen defaults).map Value.text)).flatten.any (· == .text o.value) =
        (decide (0 < times) && defaults.contains o.value) := by
    intro o ho
    -- another choice of the same value may have submitted it, which is why values are compared
    rw [any_flatten_replicate, Bool.eq_iff_iff]
    simp only [chosen, Bool.and_eq_true, List.map_map, List.any_map, List.any_eq_true,
      List.mem_filter, Function.comp_apply, Value.beq_text, beq_iff_eq]
    constructor
    · rintro ⟨htimes, o', ⟨-, hcontains⟩, hvalue⟩
      rw [hvalue] at hcontains
      exact ⟨htimes, hcontains⟩
    · rintro ⟨htimes, hcontains⟩
      exact ⟨htimes, o, ⟨ho, hcontains⟩, rfl⟩
  rw [checkedChoices, List.filter_congr hany]
  by_cases h : times = 0
  · simp [h]
  · simp [h, Nat.pos_of_ne_zero h, chosen, Function.comp_def]

/-- A variable is untouched when the values of its widget are submitted a number of times. -/
theorem untouched_of_ofVariable (hw : Widget.ofVariable texts v = .ok w) (times : Nat) :
    let values := (List.replicate times (w.initialValues.map Value.text)).flatten
    v.Untouched times ((decided? v values).or (grouped values)) := by
  intro values
  rw [Untouched]
  cases hkind : v.kind with
  | checkbox =>
    have hvalues := Widget.initialValues_checkbox hkind hw
    have hchecked : isChecked (.text Widget.checkedText) = true := by decide +kernel
    have hany : values.any isChecked = (v.default == "true" && decide (0 < times)) := by
      simp only [values]
      rw [any_flatten_replicate, hvalues, Bool.and_comm]
      cases v.default == "true" with
      | false => rfl
      | true => simp [hchecked]
    simp only [decided?, hkind, hany, Option.some_or]
  | checkboxGroup =>
    obtain ⟨defaults, hdefaults, hvalues⟩ := Widget.initialValues_checkboxGroup hkind hw
    refine ⟨defaults, hdefaults, ?_⟩
    simp only [decided?, hkind, values, hvalues, checkedChoices_replicate, Option.some_or]
  | _ =>
    have hvalues : w.initialValues = v.startText?.toList :=
      Widget.initialValues_text (by simp [hkind]) (by simp [hkind]) hw
    simp only [decided?, hkind, values, hvalues, Option.none_or]
    cases v.startText? with
    | none => simp [grouped]
    | some x => simp [grouped_replicate]

end Variable

namespace Form

open FormData Submission

/-- An untouched form submits the values of a field as often as it shows the field. -/
theorem valuesOf_initial {form : Form} {name : String} {values : List String}
    (hname : ∀ f ∈ form.fields, f.widget.name = f.name)
    (hvalues : ∀ f ∈ form.fields, f.name = name → f.widget.initialValues = values) :
    valuesOf name (form.initial.map fun pair => (.text pair.1, .text pair.2)) =
      (List.replicate (form.occurrences name) (values.map .text)).flatten := by
  rw [initial, occurrences]
  generalize form.fields = fields at hname hvalues
  induction fields with
  | nil => rfl
  | cons f fields ih =>
    obtain ⟨hfname, hname⟩ := List.forall_mem_cons.1 hname
    obtain ⟨hfvalues, hvalues⟩ := List.forall_mem_cons.1 hvalues
    rw [List.flatMap_cons, List.map_append, valuesOf_append, ih hname hvalues, List.countP_cons,
      hfname]
    by_cases hf : f.name = name
    · rw [if_pos (by simp [hf]), Nat.add_comm, List.replicate_add, List.flatten_append, hfvalues hf]
      simp [valuesOf, hf, List.filter_map, Function.comp_def]
    · rw [if_neg (by simp [hf])]
      simp [valuesOf, hf, List.filter_map, Function.comp_def]

variable {texts : Texts} {schema : Schema} {form : Form}

/-- The values that an untouched form submits for a variable, when it can be made. -/
theorem valuesOf_initial_of_ofSchema (hkeyed : schema.Keyed)
    (hform : (ofSchema texts schema).result = .ok form) {v : Variable}
    (hv : v ∈ schema.definitions.values) {w : Widget} (hw : Widget.ofVariable texts v = .ok w) :
    valuesOf v.name (form.initial.map fun pair => (.text pair.1, .text pair.2)) =
      (List.replicate (form.occurrences v.name) (w.initialValues.map .text)).flatten := by
  have hfields : ∀ f ∈ form.fields, ∃ v' ∈ schema.definitions.values, Field.Shows texts v' f := by
    intro f hf
    obtain ⟨v', hv', hshows⟩ := exists_mem_of_forall₂ (forall₂_shows_of_ofSchema hform) hf
    exact ⟨v', Schema.mem_definitions_of_mem_shown hv', hshows⟩
  refine valuesOf_initial (fun f hf => ?_) (fun f hf hname => ?_)
  · obtain ⟨v', -, hshows⟩ := hfields f hf
    obtain ⟨hname, -, hwidget⟩ := Field.shows_iff.1 hshows
    rw [Widget.name_ofVariable hwidget, hname]
  · obtain ⟨v', hv', hshows⟩ := hfields f hf
    obtain ⟨hname', -, hwidget⟩ := Field.shows_iff.1 hshows
    -- a field of this name shows this variable, and so has its widget
    obtain rfl := hkeyed.eq_of_name_eq hv hv' (hname'.symm.trans hname)
    rw [hw] at hwidget
    rw [Except.ok.inj hwidget]

/-- **An untouched form gives the declared values.** Whatever sections a schema has, its form can be
made and collected when the defaults of its groups of boxes can be read, and every variable gets what
it declares, as often as the form shows it. -/
theorem collect_initialSubmission (texts : Texts) {schema : Schema} (hkeyed : schema.Keyed)
    (hdefaults : ∀ v ∈ schema.definitions.values, v.kind = .checkboxGroup →
      ∃ defaults, decodeDefault v.default = .ok defaults) :
    ∃ form data, (ofSchema texts schema).result = .ok form ∧
      collect schema.definitions form.initialSubmission = .ok data ∧
      ∀ v ∈ schema.definitions.values,
        v.Untouched (form.occurrences v.name) (data.get? (.text v.name)) := by
  have hfield : ∀ v ∈ schema.shown, ∃ f, Field.Shows texts v f := by
    intro v hv
    obtain ⟨w, hw⟩ := Widget.exists_ofVariable (hdefaults v (Schema.mem_definitions_of_mem_shown hv))
    exact ⟨⟨v.name, v.displayLabel, w⟩, Field.shows_iff.2 ⟨rfl, rfl, hw⟩⟩
  obtain ⟨form, hform⟩ := exists_ofSchema hfield
  obtain ⟨data, hdata, hget⟩ := collect_ofPairs_get? hkeyed.nodup form.initial
  refine ⟨form, data, hform, hdata, fun v hv => ?_⟩
  obtain ⟨w, hw⟩ := Widget.exists_ofVariable (hdefaults v hv)
  rw [hget, hkeyed.get?_name hv, Option.bind_some, valuesOf_initial_of_ofSchema hkeyed hform hv hw]
  exact Variable.untouched_of_ofVariable hw (form.occurrences v.name)

/-- A survey whose first two questions are asked again, and whose last one is left out. -/
def survey : Schema where
  definitions := ⟨[
    ("colours", {
      name := "colours", kind := .checkboxGroup, default := "[\"red\", \"blue\"]"
      options := [⟨"blue", "Blue"⟩, ⟨"green", "Green"⟩, ⟨"red", "Red"⟩] }),
    ("size", { name := "size", kind := .range, min? := some "3" }),
    ("urgent", { name := "urgent", kind := .checkbox, default := "true" })]⟩
  layout? := some {
    sections := [
      { name := "Again", order := 2, fields := ["colours", "size"] },
      { name := "First", order := 1, fields := ["size", "colours", "weight"] }] }

/-- The survey, submitted untouched. -/
theorem collect_initialSubmission_survey :
    survey.Keyed ∧
      (∀ v ∈ survey.definitions.values, v.kind = .checkboxGroup →
        ∃ defaults, decodeDefault v.default = .ok defaults) ∧
      ∃ form data, (ofSchema {} survey).result = .ok form ∧
        collect survey.definitions form.initialSubmission = .ok data ∧
        ∀ v ∈ survey.definitions.values,
          v.Untouched (form.occurrences v.name) (data.get? (.text v.name)) := by
  have hkeyed : survey.Keyed := ⟨by decide, by decide⟩
  have hdefaults : ∀ v ∈ survey.definitions.values, v.kind = .checkboxGroup →
      ∃ defaults, decodeDefault v.default = .ok defaults := by
    intro v hv hkind
    have hread : decodeDefault "[\"red\", \"blue\"]" = .ok ["red", "blue"] := by decide +kernel
    simp only [survey, Table.values, List.map_cons, List.map_nil, List.mem_cons,
      List.not_mem_nil, or_false] at hv
    obtain rfl | rfl | rfl := hv
    · exact ⟨_, hread⟩
    · cases hkind
    · cases hkind
  exact ⟨hkeyed, hdefaults, collect_initialSubmission {} hkeyed hdefaults⟩

end Form

end PromptForm
