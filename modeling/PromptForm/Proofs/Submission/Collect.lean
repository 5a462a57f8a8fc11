import PromptForm.Proofs.Table
import PromptForm.Submission.Collect

/-!
# What is collected under a name

The first pass of collecting folds over the entries of a submission, but what it keeps under a name
depends only on the values submitted under that name: nothing, one value as it is, or several as a
list. The second pass writes under the names of boxes and groups of boxes, and leaves the rest alone.

## Main definitions

* `FormData.grouped`: what is kept of the values of a name.
* `FormData.decided?`: what the kind of a variable makes of the values of its name.
-/

namespace PromptForm

namespace FormData

open Submission

/-- What is kept of the values of a name: one value as it is, several as a list. -/
def grouped : List Value → Option Value
  | [] => none
  | [v] => some v
  | vs => some (.list vs)

def IsSingle (v : Value) : Prop := ∀ vs, v ≠ .list vs

/-- What the kind of a variable makes of the values of its name, when it decides on them. -/
def decided? (v : Variable) (values : List Value) : Option Value :=
  match v.kind with
  | .checkboxGroup => some (.list (checkedChoices v values))
  | .checkbox => some (.bool (values.any isChecked))
  | _ => none

/-! ### The first pass -/

theorem foldl_keep_list (before values : List Value) :
    values.foldl keep (some (.list before)) = some (.list (before ++ values)) := by
  induction values generalizing before with
  | nil => rw [List.append_nil, List.foldl_nil]
  | cons v values ih =>
    have hstep : keep (some (.list before)) v = some (.list (before ++ [v])) := rfl
    rw [List.foldl_cons, hstep, ih, List.append_assoc, List.singleton_append]

/-- Keeping single values one after the other groups them. -/
theorem foldl_keep_none {values : List Value} (h : ∀ v ∈ values, IsSingle v) :
    values.foldl keep none = grouped values := by
  cases values with
  | nil => rfl
  | cons v values =>
    cases values with
    | nil => rfl
    | cons w values =>
      have hjoin : joined v w = .list [v, w] := by
        cases v with
        | list vs => exact absurd rfl (h _ List.mem_cons_self vs)
        | _ => rfl
      have hstep : keep (keep none v) w = some (.list [v, w]) := congrArg some hjoin
      rw [List.foldl_cons, List.foldl_cons, hstep, foldl_keep_list]
      rfl

theorem foldl_keep_some (before : Value) (values : List Value) :
    ∃ v, values.foldl keep (some before) = some v := by
  induction values generalizing before with
  | nil => exact ⟨before, rfl⟩
  | cons v values ih => exact ih (joined before v)

@[simp] theorem valuesOf_nil (name : String) : valuesOf name [] = [] := rfl

theorem valuesOf_append (name : String) (pairs more : List (Value × Value)) :
    valuesOf name (pairs ++ more) = valuesOf name pairs ++ valuesOf name more := by
  simp [valuesOf]

/-- The values of an entry under a name: all of them, or none under another name. -/
theorem valuesOf_pairs (name : String) (entry : Entry) :
    valuesOf name entry.pairs = if entry.name == .text name then entry.values else [] := by
  rw [valuesOf, Entry.pairs]
  cases h : entry.name == .text name <;> simp [List.filter_map, Function.comp_def, h]

/-- An entry adds its values to those of its name, and leaves other names alone. -/
theorem get?_add (data : FormData) {entry : Entry} {entryName : String}
    (hentry : entry.name = .text entryName) (name : String) :
    (add data entry).get? (.text name) =
      (valuesOf name entry.pairs).foldl keep (data.get? (.text name)) := by
  obtain ⟨_, values⟩ := entry
  subst hentry
  rw [valuesOf_pairs, add]
  by_cases h : entryName = name
  · subst h
    rw [if_pos (by simp)]
    split
    · next v hv => rw [Table.get?_put_self (Value.exact_text _), ← hv]
    · -- nothing is kept only when nothing was kept before and the entry is empty
      next hnone =>
      cases hdata : data.get? (.text entryName) with
      | none => rw [← hdata, hnone, hdata]
      | some before =>
        obtain ⟨v, hv⟩ := foldl_keep_some before values
        rw [hdata, hv] at hnone
        cases hnone
  · rw [if_neg (by simpa using h), List.foldl_nil]
    have hne : Value.text entryName ≠ .text name := fun he => h (Value.text.inj he)
    split
    · exact Table.get?_put_of_ne (Value.exact_text _) (Value.exact_text _) hne data _
    · rfl

/-- What the first pass keeps under a name are the values of that name, grouped. -/
theorem get?_foldl_add (data : FormData) {entries : List Entry}
    (hnames : ∀ entry ∈ entries, ∃ n, entry.name = .text n) (name : String) :
    (entries.foldl add data).get? (.text name) =
      (valuesOf name (flatten entries)).foldl keep (data.get? (.text name)) := by
  induction entries generalizing data with
  | nil => rfl
  | cons entry entries ih =>
    obtain ⟨⟨n, hn⟩, hrest⟩ := List.forall_mem_cons.1 hnames
    have hflatten : flatten (entry :: entries) = entry.pairs ++ flatten entries := rfl
    rw [List.foldl_cons, ih (add data entry) hrest, get?_add data hn, hflatten, valuesOf_append,
      List.foldl_append]

theorem get?_gather {entries : List Entry} (hnames : ∀ entry ∈ entries, ∃ n, entry.name = .text n)
    {name : String} (hsingle : ∀ v ∈ valuesOf name (flatten entries), IsSingle v) :
    (gather entries).get? (.text name) = grouped (valuesOf name (flatten entries)) := by
  rw [gather, get?_foldl_add ∅ hnames, Table.get?_empty, foldl_keep_none hsingle]

/-! ### The second pass -/

/-- Settling writes what the kind of a variable decides on, when all values can be names. -/
theorem settle_eq_ok {pairs : List (Value × Value)} (data : FormData) {name : String}
    (v : Variable) (h : ∀ w ∈ valuesOf name pairs, w.isName = true) :
    settle pairs data (name, v) =
      .ok (((decided? v (valuesOf name pairs)).map (data.put (.text name))).getD data) := by
  rw [settle, decided?]
  cases v.kind with
  | checkboxGroup => exact if_pos (List.all_eq_true.2 h)
  | _ => rfl

/-- After the second pass, a name has what its variable decides on, and else what it had. -/
theorem foldlM_settle {pairs : List (Value × Value)}
    (h : ∀ name, ∀ w ∈ valuesOf name pairs, w.isName = true) {definitions : Table String Variable}
    (hnodup : definitions.keys.Nodup) (data : FormData) :
    ∃ result, definitions.entries.foldlM (settle pairs) data = .ok result ∧
      ∀ name, result.get? (.text name) =
        ((definitions.get? name).bind fun v => decided? v (valuesOf name pairs)).or
          (data.get? (.text name)) := by
  obtain ⟨entries⟩ := definitions
  induction entries generalizing data with
  | nil => exact ⟨data, rfl, fun name => rfl⟩
  | cons entry entries ih =>
    obtain ⟨n, v⟩ := entry
    obtain ⟨hn, hrest⟩ := List.nodup_cons.1 hnodup
    let settled := ((decided? v (valuesOf n pairs)).map (data.put (.text n))).getD data
    have hself : settled.get? (.text n) =
        (decided? v (valuesOf n pairs)).or (data.get? (.text n)) := by
      cases hd : decided? v (valuesOf n pairs) with
      | none => simp [settled, hd]
      | some w => simp [settled, hd, Table.get?_put_self (Value.exact_text n)]
    have hother : ∀ name, n ≠ name → settled.get? (.text name) = data.get? (.text name) := by
      intro name hne
      have hne' : Value.text n ≠ .text name := fun he => hne (Value.text.inj he)
      cases hd : decided? v (valuesOf n pairs) with
      | none => simp [settled, hd]
      | some w =>
        simp [settled, hd, Table.get?_put_of_ne (Value.exact_text n) (Value.exact_text name) hne']
    obtain ⟨result, hresult, hget⟩ := ih settled hrest
    -- the name of this entry comes no more, so that what was settled stays
    refine ⟨result, ?_, fun name => ?_⟩
    · rw [List.foldlM_cons, settle_eq_ok data v (h n)]
      exact hresult
    · rw [hget, Table.get?_cons]
      by_cases hname : n = name
      · subst hname
        have hnone : (⟨entries⟩ : Table String Variable).get? n = none :=
          (Table.get?_eq_none_iff (Table.exact_of_lawful n)).2 hn
        rw [hnone, if_pos (beq_self_eq_true n), hself]
        rfl
      · rw [if_neg (by simpa using hname), hother name hname]

/-- **What is collected under a name.** A variable that decides on its values has what it decides on;
every other name has its values, grouped. -/
theorem ofEntries_get? {definitions : Table String Variable} (hnodup : definitions.keys.Nodup)
    {entries : List Entry} (hnames : ∀ entry ∈ entries, ∃ n, entry.name = .text n)
    (hvalues : ∀ entry ∈ entries, ∀ v ∈ entry.values, v.isName = true) :
    ∃ data, ofEntries definitions entries = .ok data ∧
      ∀ name, data.get? (.text name) =
        ((definitions.get? name).bind fun v =>
          decided? v (valuesOf name (flatten entries))).or
            (grouped (valuesOf name (flatten entries))) := by
  have hisName : ∀ name, ∀ w ∈ valuesOf name (flatten entries), w.isName = true := by
    intro name w hw
    simp only [valuesOf, flatten, List.mem_map, List.mem_filter, List.mem_flatMap, Entry.pairs] at hw
    obtain ⟨_, ⟨⟨entry, hentry, v, hv, rfl⟩, -⟩, rfl⟩ := hw
    exact hvalues entry hentry v hv
  obtain ⟨data, hdata, hget⟩ := foldlM_settle hisName hnodup (gather entries)
  refine ⟨data, hdata, fun name => ?_⟩
  have hsingle : ∀ v ∈ valuesOf name (flatten entries), IsSingle v := by
    rintro v hv vs rfl
    exact Bool.false_ne_true (hisName name _ hv)
  rw [hget, get?_gather hnames hsingle]

/-! ### Pairs of texts -/

/-- Pairs are entries of their own, one for each pair. -/
theorem entries_ofPairs {pairs : List (Value × Value)} (h : ∀ pair ∈ pairs, pair.1.isName = true) :
    Submission.entries (ofPairs pairs) = .ok (pairs.map fun pair => ⟨pair.1, [pair.2]⟩) := by
  change (pairs.map asValue).mapM entry = _
  induction pairs with
  | nil => rfl
  | cons pair pairs ih =>
    obtain ⟨hpair, hrest⟩ := List.forall_mem_cons.1 h
    have hentry : entry (asValue pair) = .ok ⟨pair.1, [pair.2]⟩ := if_pos hpair
    rw [List.map_cons, List.mapM_cons, hentry, ih hrest]
    rfl

theorem flatten_singletons (pairs : List (Value × Value)) :
    flatten (pairs.map fun pair => ⟨pair.1, [pair.2]⟩) = pairs := by
  simp [flatten, Entry.pairs, List.flatMap_map]

/-- Pairs of texts are collected, under each name as its variable decides or else grouped. -/
theorem collect_ofPairs_get? {definitions : Table String Variable} (hnodup : definitions.keys.Nodup)
    (pairs : List (String × String)) :
    let submitted := pairs.map fun pair => (Value.text pair.1, Value.text pair.2)
    ∃ data, collect definitions (ofPairs submitted) = .ok data ∧
      ∀ name, data.get? (.text name) =
        ((definitions.get? name).bind fun v => decided? v (valuesOf name submitted)).or
          (grouped (valuesOf name submitted)) := by
  intro submitted
  have hsubmitted : ∀ pair ∈ submitted, ∃ name value : String, pair = (.text name, .text value) := by
    rintro _ hpair
    obtain ⟨⟨name, value⟩, -, rfl⟩ := List.mem_map.1 hpair
    exact ⟨name, value, rfl⟩
  have hentries : Submission.entries (ofPairs submitted) =
      .ok (submitted.map fun pair => ⟨pair.1, [pair.2]⟩) := by
    refine entries_ofPairs fun pair hpair => ?_
    obtain ⟨name, value, rfl⟩ := hsubmitted pair hpair
    rfl
  have hshape : ∀ entry ∈ submitted.map fun pair => (⟨pair.1, [pair.2]⟩ : Entry),
      ∃ name value : String, entry = ⟨.text name, [.text value]⟩ := by
    intro entry hentry
    obtain ⟨pair, hpair, rfl⟩ := List.mem_map.1 hentry
    obtain ⟨name, value, rfl⟩ := hsubmitted pair hpair
    exact ⟨name, value, rfl⟩
  have hnames : ∀ entry ∈ submitted.map fun pair => (⟨pair.1, [pair.2]⟩ : Entry),
      ∃ name, entry.name = .text name := by
    intro entry hentry
    obtain ⟨name, value, rfl⟩ := hshape entry hentry
    exact ⟨name, rfl⟩
  have hvalues : ∀ entry ∈ submitted.map fun pair => (⟨pair.1, [pair.2]⟩ : Entry),
      ∀ v ∈ entry.values, v.isName = true := by
    intro entry hentry v hv
    obtain ⟨name, value, rfl⟩ := hshape entry hentry
    obtain rfl := List.mem_singleton.1 hv
    rfl
  obtain ⟨data, hdata, hget⟩ := ofEntries_get? hnodup hnames hvalues
  rw [flatten_singletons] at hget
  refine ⟨data, ?_, hget⟩
  rw [collect, hentries]
  exact hdata

end FormData

end PromptForm
