import PromptForm.Proofs.Form.Untouched

/-!
# The identifiers of items

The boxes and buttons of a form have identifiers, each made of the name of its group, an underscore and its value.
An underscore may stand in a name and in a value too, so that a name and a value can be cut out of one identifier
in several ways. Two items have one identifier only if they are cut out of it so: the name of one group goes on
where the other name ends, and the value makes up for it.

## Main definitions

* `Underscored`: a name and a value, and another cut of the text that they make.
* `Widget.toggles`, `Form.toggles`: the boxes and buttons of a widget, and those of a form under its names.

## Main results

* `append_underscore_eq_iff`: which names and values make one identifier.
* `Form.nodup_ids_of_no_underscore`: values without underscores are enough for different identifiers.
* `Form.ids_ofSchema`: which items of a form have one identifier, and when all identifiers are different.
-/

namespace PromptForm

open List (Forall₂)

/-! ### Names and values in identifiers -/

/-- A name goes on where another one ends, after an underscore, and the value of the other makes up for it. -/
def Underscored (name value longer shorter : String) : Prop :=
  ∃ middle, longer = name ++ "_" ++ middle ∧ value = middle ++ "_" ++ shorter

/-- A name and a value make the same identifier as others when they are the same, or when they are other cuts of
one text at its underscores. -/
theorem append_underscore_eq_iff {name value name' value' : String} :
    name ++ "_" ++ value = name' ++ "_" ++ value' ↔
      (name = name' ∧ value = value') ∨ Underscored name value name' value' ∨
        Underscored name' value' name value := by
  constructor
  · intro h
    have hchars : name.toList ++ '_' :: value.toList = name'.toList ++ '_' :: value'.toList := by
      simpa [String.toList_append] using congrArg String.toList h
    rw [List.append_eq_append_iff] at hchars
    -- what one name has before its underscore and the other has not is either empty or holds an underscore
    have hcut : ∀ {n x n' x' : String} {more : List Char}, n'.toList = n.toList ++ more →
        '_' :: x.toList = more ++ '_' :: x'.toList → (n = n' ∧ x = x') ∨ Underscored n x n' x' := by
      intro n x n' x' more hname hvalue
      cases more with
      | nil =>
        rw [List.append_nil] at hname
        rw [List.nil_append, List.cons.injEq] at hvalue
        exact .inl ⟨(String.toList_injective hname).symm, String.toList_injective hvalue.2⟩
      | cons c middle =>
        obtain ⟨rfl, hvalue⟩ := List.cons.inj hvalue
        refine .inr ⟨String.ofList middle, String.toList_injective ?_, String.toList_injective ?_⟩
        · simpa [String.toList_append] using hname
        · simpa [String.toList_append] using hvalue
    rcases hchars with ⟨more, hname, hvalue⟩ | ⟨more, hname, hvalue⟩
    · rcases hcut hname hvalue with hsame | hlonger
      · exact .inl hsame
      · exact .inr (.inl hlonger)
    · rcases hcut hname hvalue with ⟨rfl, rfl⟩ | hlonger
      · exact .inl ⟨rfl, rfl⟩
      · exact .inr (.inr hlonger)
  · rintro (⟨rfl, rfl⟩ | ⟨middle, rfl, rfl⟩ | ⟨middle, rfl, rfl⟩)
    · rfl
    · simp only [String.append_assoc]
    · simp only [String.append_assoc]

/-- The name that goes on and the value that makes up for it hold underscores. -/
theorem Underscored.underscore_mem {name value longer shorter : String}
    (h : Underscored name value longer shorter) : '_' ∈ longer.toList ∧ '_' ∈ value.toList := by
  obtain ⟨middle, rfl, rfl⟩ := h
  simp [String.toList_append]

/-- No name goes on where it ends itself. -/
theorem not_underscored_self (name value shorter : String) : ¬Underscored name value name shorter := by
  rintro ⟨middle, hname, -⟩
  have hlength := congrArg (fun s : String => s.toList.length) hname
  simp only [String.toList_append, List.length_append] at hlength
  have hone : "_".toList.length = 1 := rfl
  omega

/-! ### The items of widgets -/

namespace Widget

/-- The boxes or buttons of a widget. -/
def toggles : Widget → List ToggleItem
  | checkboxGroup _ items => items
  | radioGroup _ items => items
  | _ => []

/-- A widget has no boxes or buttons, or one for each option. -/
theorem toggles_ofVariable {texts : Texts} {v : Variable} {w : Widget} (h : ofVariable texts v = .ok w) :
    w.toggles = [] ∨
      w.toggles.map (fun item => (item.id, item.value)) = v.options.map fun o => (itemId v o.value, o.value) := by
  by_cases hgroup : v.kind = .checkboxGroup
  · obtain ⟨defaults, -, rfl⟩ := ofVariable_checkboxGroup hgroup h
    exact .inr (List.map_map ..)
  · obtain ⟨name, kind⟩ := v
    cases kind with
    | checkboxGroup => exact absurd rfl hgroup
    | radio =>
      obtain rfl := Except.ok.inj h
      exact .inr (List.map_map ..)
    | _ =>
      obtain rfl := Except.ok.inj h
      exact .inl rfl

end Widget

namespace Field.Shows

variable {texts : Texts} {v : Variable} {f : Field}

/-- The identifier of an item is made of the name of its field and its value. -/
theorem id_eq (h : Shows texts v f) {item : ToggleItem} (hitem : item ∈ f.widget.toggles) :
    item.id = f.name ++ "_" ++ item.value := by
  obtain ⟨hname, -, hwidget⟩ := shows_iff.1 h
  rcases Widget.toggles_ofVariable hwidget with hnone | hoptions
  · rw [hnone] at hitem
    cases hitem
  · have hmem := List.mem_map_of_mem (f := fun item => (item.id, item.value)) hitem
    rw [hoptions] at hmem
    obtain ⟨o, -, ho⟩ := List.mem_map.1 hmem
    obtain ⟨hid, hvalue⟩ := Prod.mk.inj ho
    rw [← hid, ← hvalue, hname, Widget.itemId]

/-- The items of a field have different values, if the options have. -/
theorem nodup_values (h : Shows texts v f) (hoptions : (v.options.map (·.value)).Nodup) :
    (f.widget.toggles.map (·.value)).Nodup := by
  obtain ⟨-, -, hwidget⟩ := shows_iff.1 h
  rcases Widget.toggles_ofVariable hwidget with hnone | hitems
  · rw [hnone]
    exact List.nodup_nil
  · have hvalues := congrArg (List.map Prod.snd) hitems
    simp only [List.map_map, Function.comp_def] at hvalues
    rwa [hvalues]

end Field.Shows

/-! ### The items of forms -/

namespace Form

variable {texts : Texts} {schema : Schema} {form : Form}

/-- The boxes and buttons of a form, each with the name of its field. -/
def toggles (form : Form) : List (String × ToggleItem) :=
  form.fields.flatMap fun f => f.widget.toggles.map fun item => (f.name, item)

theorem exists_shows (hform : (ofSchema texts schema).result = .ok form) {f : Field} (hf : f ∈ form.fields) :
    ∃ v ∈ schema.definitions.values, Field.Shows texts v f := by
  obtain ⟨v, hv, hshows⟩ := exists_mem_of_forall₂ (forall₂_shows_of_ofSchema hform) hf
  exact ⟨v, Schema.mem_definitions_of_mem_shown hv, hshows⟩

theorem id_of_mem_toggles (hform : (ofSchema texts schema).result = .ok form) {s : String × ToggleItem}
    (hs : s ∈ form.toggles) : s.2.id = s.1 ++ "_" ++ s.2.value := by
  obtain ⟨f, hf, hs⟩ := List.mem_flatMap.1 hs
  obtain ⟨item, hitem, rfl⟩ := List.mem_map.1 hs
  obtain ⟨v, -, hshows⟩ := exists_shows hform hf
  exact hshows.id_eq hitem

/-- Two items of a form have one identifier when their names and values make it. -/
theorem id_eq_iff (hform : (ofSchema texts schema).result = .ok form) {s t : String × ToggleItem}
    (hs : s ∈ form.toggles) (ht : t ∈ form.toggles) :
    s.2.id = t.2.id ↔
      (s.1 = t.1 ∧ s.2.value = t.2.value) ∨ Underscored s.1 s.2.value t.1 t.2.value ∨
        Underscored t.1 t.2.value s.1 s.2.value := by
  rw [id_of_mem_toggles hform hs, id_of_mem_toggles hform ht, append_underscore_eq_iff]

/-- The items of a form have different names or different values, if the fields have different names and the
options of a variable have different values. -/
theorem nodup_toggles (hform : (ofSchema texts schema).result = .ok form)
    (hoptions : ∀ v ∈ schema.definitions.values, (v.options.map (·.value)).Nodup)
    (honce : (form.fields.map (·.name)).Nodup) :
    (form.toggles.map fun s => (s.1, s.2.value)).Nodup := by
  rw [toggles, List.map_flatMap, List.nodup_flatMap]
  constructor
  · intro f hf
    obtain ⟨v, hv, hshows⟩ := exists_shows hform hf
    have hvalues := (hshows.nodup_values (hoptions v hv)).map (f := fun value => (f.name, value))
      fun _ _ h => (Prod.mk.inj h).2
    rwa [List.map_map] at hvalues ⊢
  · refine (List.pairwise_map.1 honce).imp fun {f g} hne => ?_
    -- the items of different fields have different names
    intro pair hf hg
    obtain ⟨s, hs, rfl⟩ := List.mem_map.1 hf
    obtain ⟨item, -, rfl⟩ := List.mem_map.1 hs
    obtain ⟨t, ht, hpair⟩ := List.mem_map.1 hg
    obtain ⟨other, -, rfl⟩ := List.mem_map.1 ht
    exact hne (Prod.mk.inj hpair).1.symm

theorem nodup_ids_iff (hform : (ofSchema texts schema).result = .ok form)
    (hoptions : ∀ v ∈ schema.definitions.values, (v.options.map (·.value)).Nodup)
    (honce : (form.fields.map (·.name)).Nodup) :
    (form.toggles.map (·.2.id)).Nodup ↔
      ∀ s ∈ form.toggles, ∀ t ∈ form.toggles, ¬Underscored s.1 s.2.value t.1 t.2.value := by
  have hpairs := nodup_toggles hform hoptions honce
  have hsame : ∀ s ∈ form.toggles, ∀ t ∈ form.toggles, (s.1, s.2.value) = (t.1, t.2.value) → s = t :=
    (List.nodup_map_iff_inj_on hpairs.of_map).1 hpairs
  rw [List.nodup_map_iff_inj_on hpairs.of_map]
  constructor
  · intro hids s hs t ht hcut
    obtain rfl := hids s hs t ht ((id_eq_iff hform hs ht).2 (.inr (.inl hcut)))
    exact not_underscored_self _ _ _ hcut
  · intro hcut s hs t ht hid
    rcases (id_eq_iff hform hs ht).1 hid with ⟨hname, hvalue⟩ | hst | hts
    · exact hsame s hs t ht (Prod.ext hname hvalue)
    · exact absurd hst (hcut s hs t ht)
    · exact absurd hts (hcut t ht s hs)

/-- Without underscores in the values all identifiers are different. -/
theorem nodup_ids_of_no_underscore (hform : (ofSchema texts schema).result = .ok form)
    (hoptions : ∀ v ∈ schema.definitions.values, (v.options.map (·.value)).Nodup)
    (honce : (form.fields.map (·.name)).Nodup)
    (hplain : ∀ s ∈ form.toggles, '_' ∉ s.2.value.toList) : (form.toggles.map (·.2.id)).Nodup :=
  (nodup_ids_iff hform hoptions honce).2 fun s hs _ _ hcut => hplain s hs hcut.underscore_mem.2

/-- **The identifiers of items.** Let the options of each variable have different values, and let no variable be
shown twice. Two boxes or buttons of a form have one identifier exactly when they have the same name and value, or
when the name of one goes on after an underscore where the other name ends and the value of the other makes up for
it. All identifiers are different exactly when no two items are related so. -/
theorem ids_ofSchema (hform : (ofSchema texts schema).result = .ok form)
    (hoptions : ∀ v ∈ schema.definitions.values, (v.options.map (·.value)).Nodup)
    (honce : (form.fields.map (·.name)).Nodup) :
    (∀ s ∈ form.toggles, ∀ t ∈ form.toggles,
        s.2.id = t.2.id ↔
          (s.1 = t.1 ∧ s.2.value = t.2.value) ∨ Underscored s.1 s.2.value t.1 t.2.value ∨
            Underscored t.1 t.2.value s.1 s.2.value) ∧
      ((form.toggles.map (·.2.id)).Nodup ↔
        ∀ s ∈ form.toggles, ∀ t ∈ form.toggles, ¬Underscored s.1 s.2.value t.1 t.2.value) :=
  ⟨fun _ hs _ ht => id_eq_iff hform hs ht, nodup_ids_iff hform hoptions honce⟩

/-- A group of boxes and a group of buttons. -/
def twoGroups (boxes buttons : List String) : Schema :=
  let choices := List.map fun value => { value, label := value : Choice }
  { definitions := .ofPairs [
      ("a", { name := "a", kind := .checkboxGroup, options := choices boxes }),
      ("a_b", { name := "a_b", kind := .radio, options := choices buttons })] }

/-- A value may hold an underscore, as long as no name goes on with what stands before it. -/
theorem ids_ofSchema_twoGroups :
    (∀ v ∈ (twoGroups ["b", "d_c"] ["c"]).definitions.values, (v.options.map (·.value)).Nodup) ∧
      ∃ form, (ofSchema {} (twoGroups ["b", "d_c"] ["c"])).result = .ok form ∧
        (form.fields.map (·.name)).Nodup ∧ form.toggles.map (·.2.id) = ["a_b", "a_d_c", "a_b_c"] ∧
        ∀ s ∈ form.toggles, ∀ t ∈ form.toggles, ¬Underscored s.1 s.2.value t.1 t.2.value := by
  refine ⟨by decide, _, rfl, by decide, rfl, ?_⟩
  exact (@ids_ofSchema {} (twoGroups ["b", "d_c"] ["c"]) _ rfl (by decide) (by decide)).2.1 (by decide)

/-- The box of one group and the button of another one have the same identifier. -/
theorem ids_ofSchema_underscored :
    (∀ v ∈ (twoGroups ["b_c"] ["c"]).definitions.values, (v.options.map (·.value)).Nodup) ∧
      ∃ form, (ofSchema {} (twoGroups ["b_c"] ["c"])).result = .ok form ∧
        (form.fields.map (·.name)).Nodup ∧ form.toggles.map (·.2.id) = ["a_b_c", "a_b_c"] :=
  ⟨by decide, _, rfl, by decide, rfl⟩

end Form

end PromptForm
