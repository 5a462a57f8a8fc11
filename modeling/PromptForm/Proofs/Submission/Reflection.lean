import Mathlib.Data.List.Induction
import Mathlib.Data.List.Nodup
import PromptForm.Proofs.Submission.Answers

/-!
# Form data reflect what was answered

The two passes of collecting have a meaning that speaks of one name at a time: a group of boxes has
those of its choices that were submitted, a box tells whether it was checked, and every other name has
its answers as they are. The names come as they were first answered, and after them the boxes and
groups of boxes without an answer. Form data with this meaning are determined by the answers.

## Main definitions

* `Kind.hasBoxes`: the kinds whose variables have a value also without an answer.
* `FormData.Reflects`: form data say of every name what was answered.

## Main results

* `FormData.collect_reflects`: what is collected reflects the answers, and nothing else does.
-/

namespace PromptForm

/-- Whether variables of a kind are collected as their boxes say. -/
def Kind.hasBoxes : Kind → Bool
  | .checkbox | .checkboxGroup => true
  | _ => false

theorem Kind.hasBoxes_eq_false {k : Kind} (hgroup : k ≠ .checkboxGroup) (hbox : k ≠ .checkbox) :
    k.hasBoxes = false := by
  cases k with
  | checkboxGroup => exact absurd rfl hgroup
  | checkbox => exact absurd rfl hbox
  | _ => rfl

namespace FormData

open Submission

/-- A name is that of a group of boxes, or of a box, or of a variable without boxes or none. -/
theorem boxes_cases (definitions : Table String Variable) (name : String) :
    (∃ v, definitions.get? name = some v ∧ v.kind = .checkboxGroup) ∨
      (∃ v, definitions.get? name = some v ∧ v.kind = .checkbox) ∨
      ∀ v, definitions.get? name = some v → v.kind.hasBoxes = false := by
  cases hv : definitions.get? name with
  | none => exact .inr (.inr fun v h => by cases h)
  | some v =>
    by_cases hgroup : v.kind = .checkboxGroup
    · exact .inl ⟨v, rfl, hgroup⟩
    · by_cases hbox : v.kind = .checkbox
      · exact .inr (.inl ⟨v, rfl, hbox⟩)
      · refine .inr (.inr ?_)
        rintro w ⟨⟩
        exact Kind.hasBoxes_eq_false hgroup hbox

/-- The names of form data: those with answers, in the order of their first ones, and the variables
with boxes that have none. -/
def namesOf (definitions : Table String Variable) (answers : List (String × Answer)) : List String :=
  (answers.map Prod.fst).eraseDups ++
    (definitions.entries.filter fun entry =>
      entry.2.kind.hasBoxes && decide (entry.1 ∉ answers.map Prod.fst)).map Prod.fst

/-- Form data say of every name what was answered. -/
structure Reflects (definitions : Table String Variable) (answers : List (String × Answer))
    (data : FormData) : Prop where
  /-- A group of boxes has the values among its answers, in the order of its choices. -/
  group : ∀ {name v}, definitions.get? name = some v → v.kind = .checkboxGroup →
    data.get? (.text name) = some (.list
      ((v.options.filter fun o => Answer.text o.value ∈ answersTo name answers).map
        fun o => .text o.value))
  /-- A box is true when one of its answers checks it. -/
  box : ∀ {name v}, definitions.get? name = some v → v.kind = .checkbox →
    data.get? (.text name) =
      some (.bool (decide (∃ a ∈ answersTo name answers, isChecked a.value = true)))
  /-- Another name has its answer, or the list of its answers when there are several. -/
  plain : ∀ {name}, (∀ v, definitions.get? name = some v → v.kind.hasBoxes = false) →
    data.get? (.text name) = grouped ((answersTo name answers).map Answer.value)
  keys : data.keys = (namesOf definitions answers).map .text

/-! ### Names -/

/-- A last name counts unless it has come before. -/
theorem eraseDups_append_singleton (names : List String) (n : String) :
    (names ++ [n]).eraseDups = if n ∈ names then names.eraseDups else names.eraseDups ++ [n] := by
  rw [List.eraseDups_append]
  by_cases h : n ∈ names <;> simp [List.removeAll, h, List.eraseDups_cons]

theorem nodup_eraseDups (names : List String) : names.eraseDups.Nodup := by
  induction names using List.reverseRecOn with
  | nil => exact List.nodup_nil
  | append_singleton names n ih =>
    rw [eraseDups_append_singleton]
    split
    · exact ih
    · next h =>
      refine ih.append (List.nodup_singleton n) (List.disjoint_singleton.2 fun hn => ?_)
      exact h (List.mem_eraseDups.1 hn)

theorem nodup_namesOf {definitions : Table String Variable} (hnodup : definitions.keys.Nodup)
    (answers : List (String × Answer)) : (namesOf definitions answers).Nodup := by
  refine List.nodup_append.2 ⟨nodup_eraseDups _, ?_, ?_⟩
  · exact hnodup.sublist (List.filter_sublist.map Prod.fst)
  · rintro name hname other hother rfl
    obtain ⟨entry, hentry, rfl⟩ := List.mem_map.1 hother
    have hnew := (List.mem_filter.1 hentry).2
    rw [Bool.and_eq_true, decide_eq_true_iff] at hnew
    exact hnew.2 (List.mem_eraseDups.1 hname)

theorem Reflects.nodup_keys {definitions : Table String Variable} (hnodup : definitions.keys.Nodup)
    {answers : List (String × Answer)} {data : FormData} (h : Reflects definitions answers data) :
    data.keys.Nodup := by
  rw [h.keys]
  exact (nodup_namesOf hnodup answers).map fun _ _ he => Value.text.inj he

/-- An entry of form data is what they say of a name. -/
theorem Reflects.exists_name {definitions : Table String Variable} (hnodup : definitions.keys.Nodup)
    {answers : List (String × Answer)} {data : FormData} (h : Reflects definitions answers data)
    {entry : Value × Value} (hentry : entry ∈ data.entries) :
    ∃ name, entry.1 = .text name ∧ data.get? (.text name) = some entry.2 := by
  have hkey : entry.1 ∈ data.keys := List.mem_map_of_mem hentry
  rw [h.keys] at hkey
  obtain ⟨name, -, hname⟩ := List.mem_map.1 hkey
  refine ⟨name, hname.symm, ?_⟩
  rw [Table.get?_eq_some_iff (Value.exact_text name) (h.nodup_keys hnodup), hname]
  exact hentry

/-- The first pass has the names in the order of their first answers. -/
theorem keys_gather (answers : List (String × Answer)) :
    (gather ((answers.map pairOf).map single)).keys =
      ((answers.map Prod.fst).eraseDups).map .text := by
  induction answers using List.reverseRecOn with
  | nil => rfl
  | append_singleton answers a ih =>
    have hexact := Value.exact_text a.1
    rw [List.map_append, List.map_append, gather, List.foldl_append]
    change (Table.put (gather ((answers.map pairOf).map single)) (.text a.1) _).keys = _
    rw [List.map_append, List.map_singleton, eraseDups_append_singleton]
    by_cases h : a.1 ∈ answers.map Prod.fst
    · -- the name has an answer already, and keeps its place
      have hmem : Value.text a.1 ∈ (gather ((answers.map pairOf).map single)).keys := by
        rw [ih]
        exact List.mem_map_of_mem (List.mem_eraseDups.2 h)
      rw [Table.keys_put_of_mem hexact hmem, ih, if_pos h]
    · have hmem : Value.text a.1 ∉ (gather ((answers.map pairOf).map single)).keys := by
        rw [ih, List.mem_map_of_injective fun _ _ he => Value.text.inj he, List.mem_eraseDups]
        exact h
      rw [Table.put_of_not_mem hexact hmem, Table.keys, List.map_append, if_neg h, List.map_append,
        ← ih]
      rfl

/-- Settling puts a value exactly under the names of variables with boxes. -/
theorem decided?_eq_none_iff {v : Variable} {values : List Value} :
    decided? v values = none ↔ v.kind.hasBoxes = false := by
  cases hkind : v.kind <;> simp [decided?, Kind.hasBoxes, hkind]

/-- The second pass adds the variables with boxes that have no answer, in their order. -/
theorem keys_foldlM_settle {pairs : List (Value × Value)}
    (h : ∀ name, ∀ w ∈ valuesOf name pairs, w.isName = true) {entries : List (String × Variable)}
    (hnodup : (entries.map Prod.fst).Nodup) {names : List String} {data result : FormData}
    (hkeys : data.keys = names.map .text)
    (hresult : entries.foldlM (settle pairs) data = .ok result) :
    result.keys = (names ++ (entries.filter fun entry =>
      entry.2.kind.hasBoxes && decide (entry.1 ∉ names)).map Prod.fst).map .text := by
  induction entries generalizing data names with
  | nil =>
    obtain rfl := Except.ok.inj hresult
    simpa using hkeys
  | cons entry entries ih =>
    obtain ⟨n, v⟩ := entry
    obtain ⟨hn, hrest⟩ := List.nodup_cons.1 hnodup
    have hexact := Value.exact_text n
    rw [List.foldlM_cons, settle_eq_ok data v (h n)] at hresult
    change entries.foldlM (settle pairs) _ = .ok result at hresult
    cases hd : decided? v (valuesOf n pairs) with
    | none =>
      rw [hd] at hresult
      rw [ih hrest hkeys hresult, List.filter_cons_of_neg]
      simp [decided?_eq_none_iff.1 hd]
    | some w =>
      have hboxes : v.kind.hasBoxes = true := by
        cases hb : v.kind.hasBoxes with
        | true => rfl
        | false => rw [decided?_eq_none_iff.2 hb] at hd; cases hd
      rw [hd] at hresult
      change entries.foldlM (settle pairs) (data.put (.text n) w) = .ok result at hresult
      by_cases hname : n ∈ names
      · have hmem : Value.text n ∈ data.keys := by
          rw [hkeys]
          exact List.mem_map_of_mem hname
        rw [ih hrest ((Table.keys_put_of_mem hexact hmem w).trans hkeys) hresult,
          List.filter_cons_of_neg]
        simp [hname]
      · have hmem : Value.text n ∉ data.keys := by
          rw [hkeys, List.mem_map_of_injective fun _ _ he => Value.text.inj he]
          exact hname
        have hkeys' : (data.put (.text n) w).keys = (names ++ [n]).map .text := by
          rw [Table.put_of_not_mem hexact hmem, Table.keys, List.map_append, List.map_append,
            ← hkeys]
          rfl
        -- no later variable has this name
        have hlater : entries.filter (fun entry =>
              entry.2.kind.hasBoxes && decide (entry.1 ∉ names ++ [n])) =
            entries.filter fun entry => entry.2.kind.hasBoxes && decide (entry.1 ∉ names) := by
          refine List.filter_congr fun entry hentry => ?_
          have hne : entry.1 ≠ n := fun he => hn (List.mem_map.2 ⟨entry, hentry, he⟩)
          simp [hne]
        rw [ih hrest hkeys' hresult, List.filter_cons_of_pos (by simp [hboxes, hname]), hlater,
          List.map_cons, List.append_assoc, List.singleton_append]

/-! ### Values -/

theorem value_beq_text (a : Answer) (s : String) :
    (a.value == .text s) = decide (Answer.text s = a) := by
  cases a with
  | text t => simp [Answer.value, Bool.beq_eq_decide_eq, eq_comm]
  | truth b => exact (decide_eq_false (by simp)).symm

theorem checkedChoices_map_value (v : Variable) (answers : List Answer) :
    checkedChoices v (answers.map Answer.value) =
      (v.options.filter fun o => Answer.text o.value ∈ answers).map fun o => .text o.value := by
  rw [checkedChoices]
  congr 1
  refine List.filter_congr fun o _ => ?_
  rw [Bool.eq_iff_iff]
  simp [value_beq_text]

/-- What a submission of answers is collected as reflects the answers. -/
theorem exists_reflects {definitions : Table String Variable} (hnodup : definitions.keys.Nodup)
    {submission : Value} {answers : List (String × Answer)} (h : ConsistsOf submission answers) :
    ∃ data, collect definitions submission = .ok data ∧ Reflects definitions answers data := by
  have hvalues : ∀ name, ∀ w ∈ valuesOf name (answers.map pairOf), w.isName = true := by
    intro name w hw
    rw [valuesOf_map_pairOf] at hw
    obtain ⟨a, -, rfl⟩ := List.mem_map.1 hw
    exact a.isName_value
  have hflatten : flatten ((answers.map pairOf).map single) = answers.map pairOf :=
    flatten_singletons (answers.map pairOf)
  obtain ⟨data, hdata, hget⟩ :=
    foldlM_settle hvalues hnodup (gather ((answers.map pairOf).map single))
  have hgather : ∀ name, (gather ((answers.map pairOf).map single)).get? (.text name) =
      grouped ((answersTo name answers).map Answer.value) := by
    intro name
    rw [get?_gather, hflatten, valuesOf_map_pairOf]
    · intro entry hentry
      obtain ⟨pair, hpair, rfl⟩ := List.mem_map.1 hentry
      obtain ⟨answer, -, rfl⟩ := List.mem_map.1 hpair
      exact ⟨answer.1, rfl⟩
    · rw [hflatten]
      rintro v hv vs rfl
      exact Bool.false_ne_true (hvalues name _ hv)
  simp only [valuesOf_map_pairOf, hgather] at hget
  refine ⟨data, ?_, ?_, ?_, ?_, ?_⟩
  · rw [collect_of_consistsOf h, ofEntries, hflatten]
    exact hdata
  · intro name v hv hkind
    rw [hget, hv, Option.bind_some, decided?, hkind, ← checkedChoices_map_value]
    rfl
  · intro name v hv hkind
    have hany : ((answersTo name answers).map Answer.value).any isChecked =
        decide (∃ a ∈ answersTo name answers, isChecked a.value = true) := by
      rw [Bool.eq_iff_iff]
      simp
    rw [hget, hv, Option.bind_some, decided?, hkind, ← hany]
    rfl
  · intro name hplain
    rw [hget]
    cases hv : definitions.get? name with
    | none => rfl
    | some v => rw [Option.bind_some, decided?_eq_none_iff.2 (hplain v hv), Option.none_or]
  · rw [keys_foldlM_settle hvalues hnodup (keys_gather answers) hdata, namesOf]
    simp only [List.mem_eraseDups]

/-! ### Answers that are the same under every name -/

section Rearranged

variable {definitions : Table String Variable} {answers rearranged : List (String × Answer)}
  {data other : FormData}

/-- What form data say of a name depends only on its answers. -/
theorem Reflects.get?_congr (h : Reflects definitions answers data)
    (h' : Reflects definitions rearranged other) {name : String}
    (hsame : answersTo name rearranged = answersTo name answers) :
    other.get? (.text name) = data.get? (.text name) := by
  rcases boxes_cases definitions name with ⟨v, hv, hkind⟩ | ⟨v, hv, hkind⟩ | hplain
  · rw [h.group hv hkind, h'.group hv hkind, hsame]
  · rw [h.box hv hkind, h'.box hv hkind, hsame]
  · rw [h.plain hplain, h'.plain hplain, hsame]

/-- Form data are what they say of their names. -/
theorem Reflects.entries_eq (hnodup : definitions.keys.Nodup)
    (h : Reflects definitions answers data) :
    data.entries = (namesOf definitions answers).filterMap fun name =>
      (data.get? (.text name)).map (Prod.mk (.text name)) := by
  have hexact : ∀ key ∈ data.keys, Table.Exact key := by
    rw [h.keys]
    intro key hkey
    obtain ⟨name, -, rfl⟩ := List.mem_map.1 hkey
    exact Value.exact_text name
  rw [Table.entries_eq_filterMap hexact (h.nodup_keys hnodup), h.keys, List.filterMap_map]
  rfl

/-- Form data that say the same of every name differ in the order of the names only. -/
theorem Reflects.perm_of_get?_eq (hnodup : definitions.keys.Nodup)
    (h : Reflects definitions answers data) (h' : Reflects definitions rearranged other)
    (hget : ∀ name, other.get? (.text name) = data.get? (.text name)) :
    other.entries.Perm data.entries := by
  refine Table.perm_of_get?_eq (h.nodup_keys hnodup) (h'.nodup_keys hnodup) fun key hkey => ?_
  rw [h.keys, h'.keys, ← List.mem_append, ← List.map_append] at hkey
  obtain ⟨name, -, rfl⟩ := List.mem_map.1 hkey
  exact ⟨Value.exact_text name, hget name⟩

theorem Reflects.perm (hnodup : definitions.keys.Nodup) (h : Reflects definitions answers data)
    (h' : Reflects definitions rearranged other)
    (hsame : ∀ name, answersTo name rearranged = answersTo name answers) :
    other.entries.Perm data.entries :=
  h.perm_of_get?_eq hnodup h' fun name => h.get?_congr h' (hsame name)

theorem Reflects.eq (hnodup : definitions.keys.Nodup) (h : Reflects definitions answers data)
    (h' : Reflects definitions answers other) : other = data := by
  have hentries : other.entries = data.entries := by
    rw [h.entries_eq hnodup, h'.entries_eq hnodup]
    simp only [h.get?_congr h' rfl]
  exact congrArg Table.mk hentries

/-- **What is collected reflects the answers.** A submission of answers is collected as the only form
data that say of every name what was answered; interchanging answers to different names changes
nothing in them but the order of the names. -/
theorem collect_reflects (hnodup : definitions.keys.Nodup) {submission : Value}
    (h : ConsistsOf submission answers) :
    ∃ data, collect definitions submission = .ok data ∧ Reflects definitions answers data ∧
      (∀ other, Reflects definitions answers other → other = data) ∧
      ∀ again rearranged, Relation.ReflTransGen Interchange answers rearranged →
        ConsistsOf again rearranged →
          ∃ other, collect definitions again = .ok other ∧ other.entries.Perm data.entries := by
  obtain ⟨data, hdata, hreflects⟩ := exists_reflects hnodup h
  refine ⟨data, hdata, hreflects, fun other hother => hreflects.eq hnodup hother, ?_⟩
  intro again rearranged hinterchange hagain
  obtain ⟨other, hother, hreflects'⟩ := exists_reflects hnodup hagain
  exact ⟨other, hother, hreflects.perm hnodup hreflects' (answersTo_eq_of_interchanged hinterchange)⟩

end Rearranged

/-- A request for a sample: what for, in which colours, and whether as a gift. -/
def sample : Table String Variable :=
  ⟨[("colours", {
      name := "colours", kind := .checkboxGroup,
      options := [⟨"red", "Red"⟩, ⟨"green", "Green"⟩, ⟨"blue", "Blue"⟩] }),
    ("gift", { name := "gift", kind := .checkbox }),
    ("use", { name := "use" })]⟩

/-- Answers to the request, some of them more than once, and one that was not asked for. -/
def sampleAnswers : List (String × Answer) :=
  [("use", .text ""), ("colours", .text "blue"), ("note", .truth true), ("use", .text "wall"),
    ("colours", .text "red"), ("colours", .text "grey")]

/-- The request, answered by pairs, also with its first two answers interchanged. -/
theorem collect_reflects_sample :
    let interchanged := sampleAnswers[1] :: sampleAnswers[0] :: sampleAnswers.drop 2
    sample.keys.Nodup ∧ ConsistsOf (ofPairs (sampleAnswers.map pairOf)) sampleAnswers ∧
      ∃ data, collect sample (ofPairs (sampleAnswers.map pairOf)) = .ok data ∧
        Reflects sample sampleAnswers data ∧
        data.get? (.text "colours") = some (.list [.text "red", .text "blue"]) ∧
        data.get? (.text "use") = some (.list [.text "", .text "wall"]) ∧
        ∃ other, collect sample (ofPairs (interchanged.map pairOf)) = .ok other ∧
          other.entries.Perm data.entries := by
  have hnodup : sample.keys.Nodup := by decide
  have hanswers : ConsistsOf (ofPairs (sampleAnswers.map pairOf)) sampleAnswers := ⟨_, rfl, rfl⟩
  obtain ⟨data, hdata, hreflects, -, hagain⟩ := collect_reflects hnodup hanswers
  refine ⟨hnodup, hanswers, data, hdata, hreflects, ?_, ?_, ?_⟩
  · rw [hreflects.group rfl rfl]
    rfl
  · rw [hreflects.plain (by rintro v ⟨⟩; rfl)]
    rfl
  · exact hagain _ _ (.single (.swap [] _ (by decide))) ⟨_, rfl, rfl⟩

end FormData

end PromptForm
