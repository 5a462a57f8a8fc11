import PromptForm.Proofs.Submission.Reflection
import PromptForm.Proofs.Traced

/-!
# Edits merged into a submission

An edit says what a field submits from now on: one answer, several, or nothing. Merging edits into a
submission takes all answers of the edited fields out of it and puts those of the edits after the
rest, so that a name has the answers of its edit, or else the ones it had. As form data reflect the
answers of each name, what is collected changes under the edited names and nowhere else, and edits
made one after the other do the same as all of them made at once.

## Main definitions

* `Submission.Edit`, `Submission.Edits`: the edit of a field, and edits of several fields.
* `Submission.merged`: the submission of the pairs that merging gives.
* `Submission.edited`: the answers after edits.

## Main results

* `FormData.collect_merged`: what is collected after merging.
-/

namespace PromptForm

namespace Submission

/-- What an edit makes of a field. -/
inductive Edit where
  /-- The field submits nothing. -/
  | clear
  | one (a : Answer)
  | several (as : List Answer)
  deriving DecidableEq, Repr

namespace Edit

def value : Edit → Value
  | clear => .null
  | one a => a.value
  | several as => .list (as.map Answer.value)

def answers : Edit → List Answer
  | clear => []
  | one a => [a]
  | several as => as

theorem submitted_value (e : Edit) : submitted e.value = e.answers.map Answer.value := by
  cases e with
  | clear => rfl
  | one a => cases a <;> rfl
  | several as => rfl

end Edit

/-- Edits by the names of their fields. -/
abbrev Edits := Table String Edit

namespace Edits

/-- Edits as they are given to be merged. -/
def updates (edits : Edits) : Table Value Value :=
  ⟨edits.entries.map fun entry => (.text entry.1, entry.2.value)⟩

/-- The answers that edits put in. -/
def answers (edits : Edits) : List (String × Answer) :=
  edits.entries.flatMap fun entry => entry.2.answers.map (Prod.mk entry.1)

end Edits

/-- The answers after edits: those of other fields, and then those of the edits. -/
def edited (edits : Edits) (answers : List (String × Answer)) : List (String × Answer) :=
  (answers.filter fun answer => decide (answer.1 ∉ edits.keys)) ++ edits.answers

/-- The submission of the pairs that merging gives. -/
def merged (base : Value) (updates : Table Value Value) : Except Fault Value :=
  (merge base updates).map fun entries => ofPairs (flatten entries)

/-! ### The answers of edits -/

section Edits

variable {edits : Edits}

/-- Edits answer a name as its edit says. -/
theorem answersTo_edits (hnodup : edits.keys.Nodup) (name : String) :
    answersTo name edits.answers = ((edits.get? name).map Edit.answers).getD [] := by
  obtain ⟨entries⟩ := edits
  induction entries with
  | nil => rfl
  | cons entry entries ih =>
    obtain ⟨hnew, hrest⟩ := List.nodup_cons.1 hnodup
    have hanswers : Edits.answers ⟨entry :: entries⟩ =
        entry.2.answers.map (Prod.mk entry.1) ++ Edits.answers ⟨entries⟩ := rfl
    rw [hanswers, answersTo_append, ih hrest, Table.get?_cons]
    by_cases hname : entry.1 = name
    · subst hname
      have hnone : (⟨entries⟩ : Edits).get? entry.1 = none :=
        (Table.get?_eq_none_iff (Table.exact_of_lawful _)).2 hnew
      rw [hnone, if_pos (beq_self_eq_true _)]
      simp [answersTo, List.filter_map, Function.comp_def]
    · rw [if_neg (by simpa using hname)]
      simp [answersTo, List.filter_map, Function.comp_def, hname]

/-- A name that is edited has the answers of its edit, and another one those it had. -/
theorem answersTo_edited (hnodup : edits.keys.Nodup) (answers : List (String × Answer))
    (name : String) :
    answersTo name (edited edits answers) =
      ((edits.get? name).map Edit.answers).getD (answersTo name answers) := by
  have hexact := Table.exact_of_lawful name
  rw [edited, answersTo_append, answersTo_edits hnodup]
  cases hedit : edits.get? name with
  | none =>
    have hname := (Table.get?_eq_none_iff hexact).1 hedit
    have hall : answersTo name (answers.filter fun answer => decide (answer.1 ∉ edits.keys)) =
        answersTo name answers := by
      rw [answersTo, answersTo, List.filter_filter]
      congr 1
      refine List.filter_congr fun answer _ => ?_
      by_cases hn : answer.1 = name
      · simp [hn, hname]
      · simp [hn]
    rw [hall]
    exact List.append_nil _
  | some edit =>
    -- the answers that the name had are taken out
    have hname : name ∈ edits.keys := by
      by_contra hno
      rw [(Table.get?_eq_none_iff hexact).2 hno] at hedit
      cases hedit
    have hnone : answersTo name (answers.filter fun answer => decide (answer.1 ∉ edits.keys)) =
        [] := by
      simp only [answersTo, List.filter_filter, List.map_eq_nil_iff, List.filter_eq_nil_iff]
      rintro ⟨n, a⟩ - h
      simp only [Bool.and_eq_true, beq_iff_eq, decide_eq_true_eq] at h
      exact h.2 (h.1 ▸ hname)
    rw [hnone]
    rfl

/-- The same edits once more change nothing. -/
theorem edited_edited (edits : Edits) (answers : List (String × Answer)) :
    edited edits (edited edits answers) = edited edits answers := by
  have hown : ∀ answer ∈ edits.answers, answer.1 ∈ edits.keys := by
    intro answer hanswer
    obtain ⟨entry, hentry, hanswer⟩ := List.mem_flatMap.1 hanswer
    obtain ⟨a, -, rfl⟩ := List.mem_map.1 hanswer
    exact List.mem_map_of_mem hentry
  -- the answers of the edits bear edited names, so the second time they go first
  have hgone : edits.answers.filter (fun answer => decide (answer.1 ∉ edits.keys)) = [] := by
    rw [List.filter_eq_nil_iff]
    intro answer hanswer
    simpa using hown answer hanswer
  rw [edited, edited, List.filter_append, hgone, List.append_nil, List.filter_filter]
  simp only [Bool.and_self]

/-- Edits after edits answer every name as all of them at once. -/
theorem answersTo_edited_override {later : Edits} (hedits : edits.keys.Nodup)
    (hlater : later.keys.Nodup) (answers : List (String × Answer)) (name : String) :
    answersTo name (edited (edits.override later) answers) =
      answersTo name (edited later (edited edits answers)) := by
  rw [answersTo_edited (Table.nodup_keys_override hedits later), answersTo_edited hlater,
    answersTo_edited hedits, Table.get?_override edits hlater]
  cases later.get? name <;> rfl

end Edits

/-! ### Merging -/

/-- Pairs of answers are a submission of these. -/
theorem consistsOf_ofPairs (answers : List (String × Answer)) :
    ConsistsOf (ofPairs (answers.map pairOf)) answers := by
  refine ⟨_, FormData.entries_ofPairs fun pair hpair => ?_, FormData.flatten_singletons _⟩
  obtain ⟨answer, -, rfl⟩ := List.mem_map.1 hpair
  rfl

/-- Entries are kept by their names with all their pairs. -/
theorem flatten_filter {entries : List Entry} (keep : Value → Bool) :
    flatten (entries.filter fun entry => keep entry.name) =
      (flatten entries).filter fun pair => keep pair.1 := by
  induction entries with
  | nil => rfl
  | cons entry entries ih =>
    have hflatten : ∀ entry : Entry, ∀ entries,
        flatten (entry :: entries) = entry.pairs ++ flatten entries := fun _ _ => rfl
    have hpairs : entry.pairs.filter (fun pair => keep pair.1) =
        if keep entry.name then entry.pairs else [] := by
      rw [Entry.pairs, List.filter_map]
      cases h : keep entry.name <;> simp [Function.comp_def, h]
    rw [hflatten, List.filter_append, hpairs, ← ih, List.filter_cons]
    cases keep entry.name <;> rfl

theorem flatten_updates (edits : Edits) :
    flatten (ofMapping edits.updates.entries) = edits.answers.map pairOf := by
  simp only [flatten, ofMapping, Edits.updates, Edits.answers, List.flatMap_map, List.map_flatMap]
  refine List.flatMap_congr fun entry _ => ?_
  simp [Entry.pairs, Edit.submitted_value, pairOf]

/-- Edits are a submission themselves. -/
theorem consistsOf_updates (edits : Edits) : ConsistsOf (.mapping edits.updates.entries) edits.answers :=
  ⟨_, rfl, flatten_updates edits⟩

theorem contains_updates (edits : Edits) (name : String) :
    edits.updates.contains (.text name) = decide (name ∈ edits.keys) := by
  rw [Bool.eq_iff_iff, decide_eq_true_iff]
  simp [Table.contains, Edits.updates, Table.keys]

/-- Merging edits takes out the answers of their names, and puts in their own. -/
theorem merged_eq {base : Value} {answers : List (String × Answer)} (h : ConsistsOf base answers)
    (edits : Edits) :
    merged base edits.updates = .ok (ofPairs ((edited edits answers).map pairOf)) := by
  obtain ⟨entries, hentries, hflatten⟩ := h
  have hkept : flatten (entries.filter fun entry => !edits.updates.contains entry.name) =
      (flatten entries).filter fun pair => !edits.updates.contains pair.1 :=
    flatten_filter (fun name => !edits.updates.contains name)
  have hfilter : (answers.map pairOf).filter (fun pair => !edits.updates.contains pair.1) =
      (answers.filter fun answer => decide (answer.1 ∉ edits.keys)).map pairOf := by
    rw [List.filter_map]
    congr 1
    refine List.filter_congr fun answer _ => ?_
    simp [pairOf, contains_updates]
  rw [merged, merge, hentries]
  change Except.ok (ofPairs (flatten (_ ++ _))) = _
  rw [edited, List.map_append, ← flatten_updates, ← hfilter, ← hflatten, ← hkept, flatten, flatten,
    flatten, List.flatMap_append]

end Submission

/-! ### What is collected after merging -/

/-- What variables of a kind are collected as without an answer. -/
def Kind.unanswered? : Kind → Option Value
  | .checkbox => some (.bool false)
  | .checkboxGroup => some (.list [])
  | _ => none

theorem Kind.unanswered?_eq_none {k : Kind} (h : k.hasBoxes = false) : k.unanswered? = none := by
  cases k with
  | checkbox => cases h
  | checkboxGroup => cases h
  | _ => rfl

namespace FormData

open Submission

variable {definitions : Table String Variable} {answers : List (String × Answer)} {edits later : Edits}
  {base : Value}

/-- What is collected under a name without an answer depends only on the kind of its variable. -/
theorem Reflects.get?_of_unanswered {data : FormData} (h : Reflects definitions answers data)
    {name : String} (hnone : answersTo name answers = []) :
    data.get? (.text name) = (definitions.get? name).bind fun v => v.kind.unanswered? := by
  rcases boxes_cases definitions name with ⟨v, hv, hkind⟩ | ⟨v, hv, hkind⟩ | hplain
  · simp [h.group hv hkind, hv, hkind, hnone, Kind.unanswered?]
  · simp [h.box hv hkind, hv, hkind, hnone, Kind.unanswered?]
  · rw [h.plain hplain, hnone]
    cases hv : definitions.get? name with
    | none => rfl
    | some v => exact (Kind.unanswered?_eq_none (hplain v hv)).symm

/-- **Merging edits changes the edited fields only.** Edits can be merged into every submission of
answers. A name that is not edited is then collected as from the submission alone, and an edited one
as from the edits alone; a cleared one as without an answer. Merging the same edits again gives the
same pairs, and merging other edits afterwards is collected as merging all of them at once. -/
theorem collect_merged (hnodup : definitions.keys.Nodup) (hbase : ConsistsOf base answers)
    (hedits : edits.keys.Nodup) (hlater : later.keys.Nodup) :
    ∃ submission before own data,
      merged base edits.updates = .ok submission ∧ collect definitions base = .ok before ∧
      collect definitions (.mapping edits.updates.entries) = .ok own ∧
      collect definitions submission = .ok data ∧
      (∀ name, name ∉ edits.keys → data.get? (.text name) = before.get? (.text name)) ∧
      (∀ name, name ∈ edits.keys → data.get? (.text name) = own.get? (.text name)) ∧
      (∀ name, edits.get? name = some .clear →
        data.get? (.text name) = (definitions.get? name).bind fun v => v.kind.unanswered?) ∧
      merged submission edits.updates = .ok submission ∧
      ∃ twice once other another,
        merged submission later.updates = .ok twice ∧
        merged base (Edits.updates (edits.override later)) = .ok once ∧
        collect definitions twice = .ok other ∧ collect definitions once = .ok another ∧
        other.keys.Nodup ∧ another.entries.Perm other.entries := by
  have hmerged := merged_eq hbase edits
  have hconsists := consistsOf_ofPairs (edited edits answers)
  have hagain := merged_eq hconsists edits
  rw [edited_edited] at hagain
  obtain ⟨before, hbefore, hreflectsBefore⟩ := exists_reflects hnodup hbase
  obtain ⟨own, hown, hreflectsOwn⟩ := exists_reflects hnodup (consistsOf_updates edits)
  obtain ⟨data, hdata, hreflects⟩ := exists_reflects hnodup hconsists
  obtain ⟨other, hother, hreflectsOther⟩ :=
    exists_reflects hnodup (consistsOf_ofPairs (edited later (edited edits answers)))
  obtain ⟨another, hanother, hreflectsAnother⟩ :=
    exists_reflects hnodup (consistsOf_ofPairs (edited (edits.override later) answers))
  refine ⟨_, before, own, data, hmerged, hbefore, hown, hdata, fun name hname => ?_,
    fun name hname => ?_, fun name hclear => ?_, hagain, _, _, other, another,
    merged_eq hconsists later, merged_eq hbase _, hother, hanother,
    hreflectsOther.nodup_keys hnodup, ?_⟩
  · have hnone := (Table.get?_eq_none_iff (Table.exact_of_lawful name)).2 hname
    refine hreflectsBefore.get?_congr hreflects ?_
    rw [answersTo_edited hedits, hnone]
    rfl
  · refine hreflectsOwn.get?_congr hreflects ?_
    rw [answersTo_edited hedits, answersTo_edits hedits]
    cases hedit : edits.get? name with
    | none => exact absurd hname ((Table.get?_eq_none_iff (Table.exact_of_lawful name)).1 hedit)
    | some edit => rfl
  · refine hreflects.get?_of_unanswered ?_
    rw [answersTo_edited hedits, hclear]
    rfl
  · exact hreflectsOther.perm hnodup hreflectsAnother
      (answersTo_edited_override hedits hlater answers)

/-- Edits of the request for a sample: other colours, no gift, and a note of words. -/
def sampleEdits : Edits :=
  ⟨[("colours", .several [.text "green", .text "grey", .text "blue"]), ("gift", .clear),
    ("note", .one (.text "soon"))]⟩

/-- Edits that come later, in the other order. -/
def laterEdits : Edits := ⟨[("gift", .one (.text "on")), ("colours", .clear)]⟩

/-- The answered request for a sample after its edits: the use is left alone, and of the colours and
the note nothing is left. -/
theorem collect_merged_sample :
    let base := ofPairs (sampleAnswers.map pairOf)
    sample.keys.Nodup ∧ ConsistsOf base sampleAnswers ∧ sampleEdits.keys.Nodup ∧
      laterEdits.keys.Nodup ∧
      ∃ submission data, merged base sampleEdits.updates = .ok submission ∧
        collect sample submission = .ok data ∧
        data.get? (.text "use") = some (.list [.text "", .text "wall"]) ∧
        data.get? (.text "colours") = some (.list [.text "green", .text "blue"]) ∧
        data.get? (.text "note") = some (.text "soon") ∧
        data.get? (.text "gift") = some (.bool false) ∧
        merged submission sampleEdits.updates = .ok submission ∧
        ∃ twice once other another,
          merged submission laterEdits.updates = .ok twice ∧
          merged base (Edits.updates (sampleEdits.override laterEdits)) = .ok once ∧
          collect sample twice = .ok other ∧ collect sample once = .ok another ∧
          other.keys.Nodup ∧ another.entries.Perm other.entries := by
  have hnodup : sample.keys.Nodup := by decide
  have hbase : ConsistsOf (ofPairs (sampleAnswers.map pairOf)) sampleAnswers := ⟨_, rfl, rfl⟩
  have hedits : sampleEdits.keys.Nodup := by decide
  have hlater : laterEdits.keys.Nodup := by decide
  obtain ⟨submission, before, own, data, hmerged, hbefore, hown, hdata, hframe, hedited, hclear,
    hagain, hcompose⟩ := collect_merged hnodup hbase hedits hlater
  obtain rfl := Except.ok.inj (hbefore.symm.trans (by rfl))
  obtain rfl := Except.ok.inj (hown.symm.trans (by rfl))
  refine ⟨hnodup, hbase, hedits, hlater, submission, data, hmerged, hdata, ?_, ?_, ?_, ?_, hagain,
    hcompose⟩
  · rw [hframe "use" (by decide)]
    rfl
  · rw [hedited "colours" (by decide)]
    rfl
  · rw [hedited "note" (by decide)]
    rfl
  · rw [hclear "gift" (by decide)]
    rfl

end FormData

end PromptForm
