import Mathlib.Data.List.Forall2
import PromptForm.Schema.Check

/-!
# Readings of lists and mappings

A list or a mapping is read when each of its parts is, and otherwise all issues of its parts are
gathered: every issue is about a part that cannot be read, and begins with the step that leads there.
-/

namespace PromptForm

namespace Checked

variable {α β : Type}

theorem seq_eq_ok_iff {f : Checked (α → β)} {a : Checked α} {b : β} :
    f <*> a = ok b ↔ ∃ g x, f = ok g ∧ a = ok x ∧ g x = b := by
  have hseq : f <*> a = apply f a := rfl
  rw [hseq]
  constructor
  · intro h
    cases f with
    | error issues => cases a <;> cases h
    | ok g =>
      cases a with
      | error issues => cases h
      | ok x => exact ⟨g, x, rfl, rfl, Except.ok.inj h⟩
  · rintro ⟨g, x, rfl, rfl, rfl⟩
    rfl

theorem map_eq_ok_iff {f : α → β} {a : Checked α} {b : β} :
    f <$> a = ok b ↔ ∃ x, a = ok x ∧ f x = b := by
  have hmap : f <$> a = ok f <*> a := rfl
  rw [hmap, seq_eq_ok_iff]
  constructor
  · rintro ⟨g, x, hg, ha, rfl⟩
    obtain rfl := Except.ok.inj hg
    exact ⟨x, ha, rfl⟩
  · rintro ⟨x, ha, rfl⟩
    exact ⟨f, x, rfl, ha, rfl⟩

theorem within_eq_ok_iff {step : String} {a : Checked α} {x : α} :
    within step a = ok x ↔ a = ok x := by
  cases a with
  | ok y => exact Iff.rfl
  | error issues => exact ⟨(nomatch ·), (nomatch ·)⟩

/-- Items are read when each of them is. -/
theorem itemsFrom_eq_ok_iff {read : Value → Checked α} {i : Nat} {items : List Value} {as : List α} :
    itemsFrom read i items = ok as ↔ List.Forall₂ (fun v a => read v = ok a) items as := by
  induction items generalizing i as with
  | nil =>
    rw [itemsFrom, List.forall₂_nil_left_iff]
    exact ⟨fun h => (Except.ok.inj h).symm, fun h => congrArg Except.ok h.symm⟩
  | cons v vs ih =>
    rw [itemsFrom, seq_eq_ok_iff, List.forall₂_cons_left_iff]
    constructor
    · rintro ⟨g, rest, hhead, hrest, rfl⟩
      obtain ⟨a, ha, rfl⟩ := map_eq_ok_iff.1 hhead
      exact ⟨a, rest, within_eq_ok_iff.1 ha, ih.1 hrest, rfl⟩
    · rintro ⟨a, rest, ha, hrest, rfl⟩
      exact ⟨_, rest, map_eq_ok_iff.2 ⟨a, within_eq_ok_iff.2 ha, rfl⟩, ih.2 hrest, rfl⟩

/-- An entry is read when its key and its value are. -/
def ReadsAs (readKey : Value → Checked α) (read : Value → Checked β) (entry : Value × Value)
    (pair : α × β) : Prop :=
  readKey entry.1 = ok pair.1 ∧ read entry.2 = ok pair.2

variable {readKey : Value → Checked α} {read : Value → Checked β}

theorem entry_eq_ok_iff {entry : Value × Value} {pair : α × β} :
    within (stepOf entry.1) (Prod.mk <$> within "[key]" (readKey entry.1) <*> read entry.2) =
      ok pair ↔ ReadsAs readKey read entry pair := by
  rw [within_eq_ok_iff, seq_eq_ok_iff]
  constructor
  · rintro ⟨g, y, hg, hy, rfl⟩
    obtain ⟨x, hx, rfl⟩ := map_eq_ok_iff.1 hg
    exact ⟨within_eq_ok_iff.1 hx, hy⟩
  · rintro ⟨hx, hy⟩
    exact ⟨_, pair.2, map_eq_ok_iff.2 ⟨pair.1, within_eq_ok_iff.2 hx, rfl⟩, hy, rfl⟩

theorem entriesOf_eq_ok_iff {entries : List (Value × Value)} {pairs : List (α × β)} :
    entriesOf readKey read entries = ok pairs ↔
      List.Forall₂ (ReadsAs readKey read) entries pairs := by
  induction entries generalizing pairs with
  | nil =>
    rw [entriesOf, List.forall₂_nil_left_iff]
    exact ⟨fun h => (Except.ok.inj h).symm, fun h => congrArg Except.ok h.symm⟩
  | cons entry entries ih =>
    obtain ⟨key, v⟩ := entry
    rw [entriesOf, seq_eq_ok_iff, List.forall₂_cons_left_iff]
    constructor
    · rintro ⟨g, rest, hhead, hrest, rfl⟩
      obtain ⟨pair, hpair, rfl⟩ := map_eq_ok_iff.1 hhead
      exact ⟨pair, rest, entry_eq_ok_iff.1 hpair, ih.1 hrest, rfl⟩
    · rintro ⟨pair, rest, hpair, hrest, rfl⟩
      exact ⟨_, rest, map_eq_ok_iff.2 ⟨pair, entry_eq_ok_iff.2 hpair, rfl⟩, ih.2 hrest, rfl⟩

/-! ### Issues -/

def issuesOf : Checked α → List Issue
  | .ok _ => []
  | .error issues => issues

/-- An issue, one step further out. -/
def outward (step : String) (issue : Issue) : Issue :=
  ⟨step :: issue.location, issue.kind⟩

theorem ne_ok_of_mem_issuesOf {a : Checked α} {issue : Issue} (h : issue ∈ issuesOf a) (x : α) :
    a ≠ ok x := by
  rintro rfl
  cases h

theorem issuesOf_seq (f : Checked (α → β)) (a : Checked α) :
    issuesOf (f <*> a) = issuesOf f ++ issuesOf a := by
  have hseq : f <*> a = apply f a := rfl
  rw [hseq]
  cases f with
  | ok g => cases a <;> rfl
  | error issues =>
    cases a with
    | ok x => exact (List.append_nil issues).symm
    | error more => rfl

theorem issuesOf_map (f : α → β) (a : Checked α) : issuesOf (f <$> a) = issuesOf a := by
  cases a <;> rfl

theorem issuesOf_within (step : String) (a : Checked α) :
    issuesOf (within step a) = (issuesOf a).map (outward step) := by
  cases a <;> rfl

/-- The issues of a mapping are those of its entries, each under its key. -/
theorem issuesOf_entriesOf (entries : List (Value × Value)) :
    issuesOf (entriesOf readKey read entries) = entries.flatMap fun entry =>
      ((issuesOf (readKey entry.1)).map (outward "[key]") ++ issuesOf (read entry.2)).map
        (outward (stepOf entry.1)) := by
  induction entries with
  | nil => rfl
  | cons entry entries ih =>
    obtain ⟨key, v⟩ := entry
    rw [entriesOf, issuesOf_seq, issuesOf_map, issuesOf_within, issuesOf_seq, issuesOf_map,
      issuesOf_within, ih, List.flatMap_cons]

end Checked

end PromptForm
