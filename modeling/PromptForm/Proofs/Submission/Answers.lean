import Mathlib.Logic.Relation
import PromptForm.Proofs.Submission.Collect

/-!
# Submissions of answers

A form submits answers: texts and truth values, each under a name. However a submission gives them,
as pairs or as a mapping from names to one value or several, only the sequence of its answers counts
when it is collected. Neighbouring answers to different names can be interchanged without any name
noticing.

## Main definitions

* `Submission.Answer`: what a field submits.
* `Submission.ConsistsOf`: a submission gives a sequence of answers.
* `Submission.answersTo`: the answers that a sequence has under a name.
* `Submission.Interchange`: two neighbouring answers to different names change places.
-/

namespace PromptForm

namespace Submission

/-- What a field submits. -/
inductive Answer where
  | text (s : String)
  | truth (b : Bool)
  deriving DecidableEq, Repr

def Answer.value : Answer → Value
  | text s => .text s
  | truth b => .bool b

/-- The answers under a name, in the order of their submission. -/
def answersTo (name : String) (answers : List (String × Answer)) : List Answer :=
  (answers.filter fun answer => answer.1 == name).map Prod.snd

def pairOf (answer : String × Answer) : Value × Value :=
  (.text answer.1, answer.2.value)

/-- A submission gives these answers, one after the other. -/
def ConsistsOf (submission : Value) (answers : List (String × Answer)) : Prop :=
  ∃ entries, Submission.entries submission = .ok entries ∧ flatten entries = answers.map pairOf

/-- Two neighbouring answers to different names change places. -/
inductive Interchange : List (String × Answer) → List (String × Answer) → Prop
  | swap (before after : List (String × Answer)) {a b : String × Answer} (h : a.1 ≠ b.1) :
      Interchange (before ++ a :: b :: after) (before ++ b :: a :: after)

/-! ### Answers under a name -/

theorem Answer.isName_value (a : Answer) : a.value.isName = true := by
  cases a <;> rfl

theorem answersTo_append (name : String) (answers more : List (String × Answer)) :
    answersTo name (answers ++ more) = answersTo name answers ++ answersTo name more := by
  simp [answersTo]

theorem valuesOf_map_pairOf (name : String) (answers : List (String × Answer)) :
    FormData.valuesOf name (answers.map pairOf) = (answersTo name answers).map Answer.value := by
  simp [FormData.valuesOf, answersTo, pairOf, List.filter_map, Function.comp_def]

/-- Interchanged answers are the same under every name. -/
theorem Interchange.answersTo_eq {answers rearranged : List (String × Answer)}
    (h : Interchange answers rearranged) (name : String) :
    answersTo name rearranged = answersTo name answers := by
  obtain ⟨before, after, hab⟩ := h
  next a b =>
  have hfront : answersTo name [b, a] = answersTo name [a, b] := by
    by_cases ha : a.1 = name
    · have hb : b.1 ≠ name := fun hb => hab (ha.trans hb.symm)
      simp [answersTo, ha, hb]
    · by_cases hb : b.1 = name <;> simp [answersTo, ha, hb]
  have hsplit : ∀ x y : String × Answer, before ++ x :: y :: after = before ++ ([x, y] ++ after) :=
    fun _ _ => rfl
  rw [hsplit, hsplit, answersTo_append, answersTo_append, answersTo_append name before,
    answersTo_append, hfront]

theorem answersTo_eq_of_interchanged {answers rearranged : List (String × Answer)}
    (h : Relation.ReflTransGen Interchange answers rearranged) (name : String) :
    answersTo name rearranged = answersTo name answers := by
  induction h with
  | refl => rfl
  | tail _ hswap ih => rw [hswap.answersTo_eq, ih]

end Submission

namespace FormData

open Submission

/-! ### Entries as single pairs -/

/-- A pair as an entry of its own. -/
def single (pair : Value × Value) : Entry := ⟨pair.1, [pair.2]⟩

/-- An entry without values adds nothing. -/
theorem add_nil (data : FormData) (name : Value) : add data ⟨name, []⟩ = data := by
  rw [add]
  cases h : data.get? name with
  | none => rfl
  | some v => exact Table.put_of_get? h

theorem add_single (data : FormData) (name v : Value) :
    add data ⟨name, [v]⟩ = data.put name ((data.get? name).elim v fun before => joined before v) :=
  rfl

/-- An entry of several values adds them one after the other. -/
theorem add_cons (data : FormData) {name : Value} (h : Table.Exact name) (v : Value)
    (values : List Value) :
    add data ⟨name, v :: values⟩ = add (add data ⟨name, [v]⟩) ⟨name, values⟩ := by
  rw [add_single]
  generalize hkept : (data.get? name).elim v (fun before => joined before v) = kept
  have hstep : keep (data.get? name) v = some kept := congrArg some hkept
  obtain ⟨w, hw⟩ := foldl_keep_some kept values
  simp only [add, List.foldl_cons, hstep, Table.get?_put_self h, hw, Table.put_put h]

/-- Adding entries is adding their pairs. -/
theorem foldl_add_eq (data : FormData) {entries : List Entry}
    (h : ∀ pair ∈ flatten entries, Table.Exact pair.1) :
    entries.foldl add data = ((flatten entries).map single).foldl add data := by
  have hentry : ∀ (data : FormData) (name : Value) (values : List Value),
      (∀ pair ∈ Entry.pairs ⟨name, values⟩, Table.Exact pair.1) →
        add data ⟨name, values⟩ = ((Entry.pairs ⟨name, values⟩).map single).foldl add data := by
    intro data name values
    induction values generalizing data with
    | nil => exact fun _ => add_nil data name
    | cons v values ih =>
      intro hpairs
      have hname : Table.Exact name := hpairs (name, v) List.mem_cons_self
      rw [add_cons data hname, ih _ fun pair hpair => hpairs pair (List.mem_cons_of_mem _ hpair)]
      rfl
  induction entries generalizing data with
  | nil => rfl
  | cons entry entries ih =>
    have hflatten : flatten (entry :: entries) = entry.pairs ++ flatten entries := rfl
    rw [hflatten] at h ⊢
    rw [List.foldl_cons, hentry data entry.name entry.values fun pair hpair =>
        h pair (List.mem_append_left _ hpair),
      ih _ fun pair hpair => h pair (List.mem_append_right _ hpair), List.map_append,
      List.foldl_append]

/-- What is collected from a submission depends only on its answers. -/
theorem collect_of_consistsOf {submission : Value} {answers : List (String × Answer)}
    (h : ConsistsOf submission answers) (definitions : Table String Variable) :
    collect definitions submission =
      ofEntries definitions ((answers.map pairOf).map single) := by
  obtain ⟨entries, hentries, hflatten⟩ := h
  have hexact : ∀ pair ∈ flatten entries, Table.Exact pair.1 := by
    rw [hflatten]
    intro pair hpair
    obtain ⟨answer, -, rfl⟩ := List.mem_map.1 hpair
    exact Value.exact_text answer.1
  have hgather : gather entries = gather ((answers.map pairOf).map single) := by
    rw [gather, gather, foldl_add_eq ∅ hexact, hflatten]
  rw [collect, hentries]
  change ofEntries definitions entries = _
  rw [ofEntries, ofEntries, hgather, hflatten]
  exact congrArg (fun pairs => definitions.entries.foldlM (settle pairs) _)
    (flatten_singletons (answers.map pairOf)).symm

end FormData

end PromptForm
