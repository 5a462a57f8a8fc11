import PromptForm.Proofs.Submission.Reflection
import PromptForm.Proofs.Traced

/-!
# Form data submitted again

Form data can be given as a submission themselves: a mapping from names to a text, a truth value,
or a list of texts and truth values. What a name submits then are its answers, for a box its truth
value, and for a group of boxes the choices that were checked. These answers decide the same as
those before, so that collecting form data again changes at most the order of the names.

## Main definitions

* `FormData.resubmitted`: the values that form data submit under a name.

## Main results

* `FormData.collect_resubmitted`: form data are collected again as the same mapping.
-/

namespace PromptForm

namespace FormData

open Submission

/-- The values that form data submit under a name. -/
def resubmitted (data : FormData) (name : String) : List Value :=
  ((data.get? (.text name)).map submitted).getD []

theorem Answer.value_injective : Function.Injective Answer.value := by
  intro a b h
  cases a <;> cases b <;> cases h <;> rfl

/-! ### Values under a name -/

/-- Form data with different names submit what their entries submit. -/
theorem valuesOf_ofMapping {data : FormData} (hnodup : data.keys.Nodup) (name : String) :
    valuesOf name (flatten (ofMapping data.entries)) = resubmitted data name := by
  have hexact := Value.exact_text name
  obtain ⟨entries⟩ := data
  induction entries with
  | nil => rfl
  | cons entry entries ih =>
    obtain ⟨hkey, hrest⟩ := List.nodup_cons.1 hnodup
    have hflatten : flatten (ofMapping (entry :: entries)) =
        Entry.pairs ⟨entry.1, submitted entry.2⟩ ++ flatten (ofMapping entries) := rfl
    rw [hflatten, valuesOf_append, valuesOf_pairs, ih hrest, resubmitted, resubmitted, Table.get?_cons]
    by_cases h : entry.1 = .text name
    · -- no later entry has this name
      have hnone : (⟨entries⟩ : FormData).get? (.text name) = none := by
        rw [h] at hkey
        exact (Table.get?_eq_none_iff hexact).2 hkey
      rw [if_pos ((hexact _).2 h), if_pos ((hexact _).2 h), hnone]
      exact List.append_nil _
    · rw [hexact.beq_eq_false h]
      rfl

/-- Answers that were kept as one value or as a list are submitted as they are. -/
theorem submitted_grouped (answers : List Answer) :
    ((grouped (answers.map Answer.value)).map submitted).getD [] = answers.map Answer.value := by
  match answers with
  | [] => rfl
  | [.text s] => rfl
  | [.truth b] => rfl
  | a :: b :: rest => rfl

/-! ### Answers to a name -/

section Resubmitted

variable {definitions : Table String Variable} {answers again : List (String × Answer)}
  {data other : FormData} {name : String} {v : Variable}

/-- A group of boxes submits the values of its checked choices. -/
theorem Reflects.resubmitted_group (h : Reflects definitions answers data)
    (hv : definitions.get? name = some v) (hkind : v.kind = .checkboxGroup) :
    resubmitted data name =
      ((v.options.filter fun o => Answer.text o.value ∈ answersTo name answers).map
        fun o => Answer.text o.value).map Answer.value := by
  rw [resubmitted, h.group hv hkind, List.map_map]
  rfl

/-- A box submits its truth value. -/
theorem Reflects.resubmitted_box (h : Reflects definitions answers data)
    (hv : definitions.get? name = some v) (hkind : v.kind = .checkbox) :
    resubmitted data name =
      [Answer.truth (decide (∃ a ∈ answersTo name answers, isChecked a.value = true))].map
        Answer.value := by
  rw [resubmitted, h.box hv hkind]
  rfl

/-- Another name submits its answers. -/
theorem Reflects.resubmitted_plain (h : Reflects definitions answers data)
    (hplain : ∀ v, definitions.get? name = some v → v.kind.hasBoxes = false) :
    resubmitted data name = (answersTo name answers).map Answer.value := by
  rw [resubmitted, h.plain hplain, submitted_grouped]

/-- Every name submits answers. -/
theorem Reflects.exists_resubmitted (h : Reflects definitions answers data) (name : String) :
    ∃ as : List Answer, resubmitted data name = as.map Answer.value := by
  rcases boxes_cases definitions name with ⟨v, hv, hkind⟩ | ⟨v, hv, hkind⟩ | hplain
  · exact ⟨_, h.resubmitted_group hv hkind⟩
  · exact ⟨_, h.resubmitted_box hv hkind⟩
  · exact ⟨_, h.resubmitted_plain hplain⟩

/-- Form data are a submission of answers. -/
theorem Reflects.exists_consistsOf (hnodup : definitions.keys.Nodup)
    (h : Reflects definitions answers data) :
    ∃ again, ConsistsOf (.mapping data.entries) again ∧
      ∀ name, (answersTo name again).map Answer.value = resubmitted data name := by
  have hpairs : ∀ pair ∈ flatten (ofMapping data.entries), ∃ answer, pair = pairOf answer := by
    intro pair hpair
    obtain ⟨_, hsource, hpair⟩ := List.mem_flatMap.1 hpair
    obtain ⟨entry, hentry, rfl⟩ := List.mem_map.1 hsource
    obtain ⟨w, hw, rfl⟩ := List.mem_map.1 hpair
    obtain ⟨name, hname, hv⟩ := h.exists_name hnodup hentry
    obtain ⟨as, has⟩ := h.exists_resubmitted name
    have hsubmitted : submitted entry.2 = as.map Answer.value := by
      rw [← has, resubmitted, hv]
      rfl
    rw [hsubmitted] at hw
    obtain ⟨a, -, rfl⟩ := List.mem_map.1 hw
    exact ⟨(name, a), congrArg (·, a.value) hname⟩
  obtain ⟨again, hagain⟩ := exists_map_eq hpairs
  refine ⟨again, ⟨_, rfl, hagain⟩, fun name => ?_⟩
  rw [← valuesOf_map_pairOf, ← hagain, valuesOf_ofMapping (h.nodup_keys hnodup)]

/-- What form data submit decides the same of every name as the answers before. -/
theorem Reflects.get?_eq_of_resubmitted (h : Reflects definitions answers data)
    (h' : Reflects definitions again other)
    (hagain : ∀ name, (answersTo name again).map Answer.value = resubmitted data name)
    (name : String) : other.get? (.text name) = data.get? (.text name) := by
  have hanswers : ∀ as : List Answer, resubmitted data name = as.map Answer.value →
      answersTo name again = as := by
    intro as has
    exact Answer.value_injective.list_map ((hagain name).trans has)
  rcases boxes_cases definitions name with ⟨v, hv, hkind⟩ | ⟨v, hv, hkind⟩ | hplain
  · have hchecked : ∀ o ∈ v.options,
        Answer.text o.value ∈ ((v.options.filter fun o =>
            Answer.text o.value ∈ answersTo name answers).map fun o => Answer.text o.value) ↔
          Answer.text o.value ∈ answersTo name answers := by
      intro o ho
      simp only [List.mem_map, List.mem_filter, decide_eq_true_eq]
      constructor
      · rintro ⟨p, ⟨-, hp⟩, hvalue⟩
        exact hvalue ▸ hp
      · exact fun hmem => ⟨o, ⟨ho, hmem⟩, rfl⟩
    rw [h'.group hv hkind, h.group hv hkind, hanswers _ (h.resubmitted_group hv hkind)]
    congr 3
    exact List.filter_congr fun o ho => decide_eq_decide.2 (hchecked o ho)
  · rw [h'.box hv hkind, h.box hv hkind, hanswers _ (h.resubmitted_box hv hkind)]
    simp [Answer.value, isChecked]
  · rw [h'.plain hplain, h.plain hplain, hanswers _ (h.resubmitted_plain hplain)]

/-- **Form data can be submitted again.** What is collected from a submission of answers is a
submission itself, and is collected as the same mapping, the order of the names aside. -/
theorem collect_resubmitted (hnodup : definitions.keys.Nodup) {submission : Value}
    (hanswers : ConsistsOf submission answers) :
    ∃ data other, collect definitions submission = .ok data ∧
      collect definitions (.mapping data.entries) = .ok other ∧
      data.keys.Nodup ∧ other.entries.Perm data.entries := by
  obtain ⟨data, hdata, h⟩ := exists_reflects hnodup hanswers
  obtain ⟨again, hagain, hsame⟩ := h.exists_consistsOf hnodup
  obtain ⟨other, hother, h'⟩ := exists_reflects hnodup hagain
  refine ⟨data, other, hdata, hother, h.nodup_keys hnodup, ?_⟩
  exact h.perm_of_get?_eq hnodup h' (h.get?_eq_of_resubmitted h' hsame)

end Resubmitted

/-- A sample of answers, and what is collected of it again: a choice that is none of the
variable's is gone with the first collection, a box without an answer has one with the second. -/
theorem collect_resubmitted_sample :
    let data : FormData :=
      ⟨[(.text "use", .list [.text "", .text "wall"]),
        (.text "colours", .list [.text "red", .text "blue"]),
        (.text "note", .bool true), (.text "gift", .bool false)]⟩
    let submission := ofPairs (sampleAnswers.map pairOf)
    sample.keys.Nodup ∧ ConsistsOf submission sampleAnswers ∧
      collect sample submission = .ok data ∧ data.keys.Nodup ∧
      ∃ other, collect sample (.mapping data.entries) = .ok other ∧
        other.entries.Perm data.entries := by
  have hnodup : sample.keys.Nodup := by decide
  have hanswers : ConsistsOf (ofPairs (sampleAnswers.map pairOf)) sampleAnswers := ⟨_, rfl, rfl⟩
  obtain ⟨data, other, hdata, hother, hkeys, hperm⟩ := collect_resubmitted hnodup hanswers
  obtain rfl := Except.ok.inj (hdata.symm.trans (by rfl))
  exact ⟨hnodup, hanswers, hdata, hkeys, other, hother, hperm⟩

end FormData

end PromptForm
