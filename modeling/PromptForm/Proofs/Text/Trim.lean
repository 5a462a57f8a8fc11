import Mathlib.Data.List.DropRight
import PromptForm.Text.Blank

/-!
# Trimmed texts

Trimming takes blanks off the two ends of a text and leaves a text without blanks there. Texts that
are trimmed already are exactly those that trimming leaves alone.

## Main definitions

* `Text.Trimmed`: a text neither begins nor ends with a blank.
-/

namespace PromptForm

namespace Text

/-- A text that neither begins nor ends with a blank. -/
def Trimmed (s : List Char) : Prop :=
  (∀ c ∈ s.head?, isBlank c = false) ∧ ∀ c ∈ s.getLast?, isBlank c = false

theorem trimEnd_eq_rdropWhile (s : List Char) : trimEnd s = s.rdropWhile isBlank := rfl

theorem trimStart_eq_self_iff {s : List Char} :
    trimStart s = s ↔ ∀ c ∈ s.head?, isBlank c = false := by
  cases s with
  | nil => simp [trimStart]
  | cons c s => simp [trimStart]

theorem trimEnd_eq_self_iff {s : List Char} :
    trimEnd s = s ↔ ∀ c ∈ s.getLast?, isBlank c = false := by
  rw [trimEnd_eq_rdropWhile, List.rdropWhile_eq_self_iff]
  constructor
  · intro h c hc
    obtain ⟨hne, rfl⟩ := List.mem_getLast?_eq_getLast hc
    simpa using h hne
  · intro h hne
    simpa using h _ (List.getLast_mem_getLast? hne)

/-- The front of a text is kept by trimming its end, unless nothing is left. -/
theorem head?_trimEnd {s : List Char} {c : Char} (h : c ∈ (trimEnd s).head?) : c ∈ s.head? := by
  obtain ⟨w, hw⟩ : trimEnd s <+: s := List.rdropWhile_prefix isBlank s
  cases ht : trimEnd s with
  | nil => simp [ht] at h
  | cons d t =>
    rw [ht] at h hw
    rw [← hw]
    exact h

theorem trimmed_trim (s : List Char) : Trimmed (trim s) := by
  have hstart : ∀ c ∈ (trimStart s).head?, isBlank c = false :=
    trimStart_eq_self_iff.1 (List.dropWhile_idempotent isBlank s)
  have hend : ∀ c ∈ (trim s).getLast?, isBlank c = false :=
    trimEnd_eq_self_iff.1 (List.rdropWhile_idempotent isBlank (trimStart s))
  exact ⟨fun c hc => hstart c (head?_trimEnd hc), hend⟩

theorem trim_eq_self_iff {s : List Char} : trim s = s ↔ Trimmed s := by
  constructor
  · intro h
    rw [← h]
    exact trimmed_trim s
  · rintro ⟨hhead, hlast⟩
    rw [trim, trimStart_eq_self_iff.2 hhead, trimEnd_eq_self_iff.2 hlast]

/-- What is left by trimming stands in the text. -/
theorem trim_infix (s : List Char) : trim s <:+: s :=
  (List.rdropWhile_prefix isBlank _).isInfix.trans (List.dropWhile_suffix isBlank).isInfix

theorem Trimmed.of_append_left {w s : List Char} (h : Trimmed (w ++ s)) (hw : ∀ c ∈ w, isBlank c) :
    w = [] := by
  cases w with
  | nil => rfl
  | cons c w => simpa [hw c List.mem_cons_self] using h.1 c rfl

theorem Trimmed.of_append_right {s w : List Char} (h : Trimmed (s ++ w)) (hw : ∀ c ∈ w, isBlank c) :
    w = [] := by
  by_contra hne
  have hlast := h.2 (w.getLast hne) (by simp [List.getLast?_append, List.getLast?_eq_some_getLast hne])
  rw [hw _ (List.getLast_mem hne)] at hlast
  exact Bool.noConfusion hlast

/-! ### Blanks at the ends -/

theorem trimStart_append {w : List Char} (hw : ∀ c ∈ w, isBlank c) (s : List Char) :
    trimStart (w ++ s) = trimStart s :=
  List.dropWhile_append_of_pos hw

theorem trimEnd_eq_nil_iff {s : List Char} : trimEnd s = [] ↔ ∀ c ∈ s, isBlank c := by
  rw [trimEnd_eq_rdropWhile, List.rdropWhile_eq_nil_iff]

/-- The end of a text is trimmed on its own, unless nothing is left of it. -/
theorem trimEnd_append (s t : List Char) :
    trimEnd (s ++ t) = if trimEnd t = [] then trimEnd s else s ++ trimEnd t := by
  simp only [trimEnd, List.reverse_append, List.dropWhile_append, List.isEmpty_iff,
    List.reverse_eq_nil_iff]
  split <;> simp

theorem trimEnd_append_congr {t u : List Char} (h : trimEnd t = trimEnd u) (s : List Char) :
    trimEnd (s ++ t) = trimEnd (s ++ u) := by
  rw [trimEnd_append, trimEnd_append, h]

theorem trim_append_left {w : List Char} (hw : ∀ c ∈ w, isBlank c) (s : List Char) :
    trim (w ++ s) = trim s := by
  rw [trim, trimStart_append hw, trim]

theorem trim_append_right (s : List Char) {w : List Char} (hw : ∀ c ∈ w, isBlank c) :
    trim (s ++ w) = trim s := by
  rw [trim, trim, trimStart, List.dropWhile_append]
  split
  · next hs =>
    have hblank : ∀ c ∈ w.dropWhile isBlank, isBlank c :=
      fun c hc => hw c ((List.dropWhile_suffix isBlank).subset hc)
    rw [trimStart, List.isEmpty_iff.1 hs, trimEnd_eq_nil_iff.2 hblank]
    rfl
  · rw [trimEnd_append, if_pos (trimEnd_eq_nil_iff.2 hw)]
    rfl

theorem trim_of_blank {s : List Char} (hs : ∀ c ∈ s, isBlank c) : trim s = [] := by
  rw [← List.append_nil s, trim_append_left hs, trim_nil]

/-- Texts that differ in the blanks at their ends only are the same when they are trimmed. -/
theorem trim_eq_of_trimEnd_eq {s t : List Char} (h : trimEnd s = trimEnd t) : trim s = trim t := by
  have hsplit : ∀ u : List Char, trim u = trim (trimEnd u) := by
    intro u
    have hu : trimEnd u ++ u.rtakeWhile isBlank = u := List.rdropWhile_append_rtakeWhile
    rw [← trim_append_right (trimEnd u) (fun _ hc => List.mem_rtakeWhile_imp hc), hu]
  rw [hsplit s, hsplit t, h]

/-- What is dropped from the front does not count among the elements without the property. -/
theorem filter_not_dropWhile {α : Type} (p : α → Bool) (l : List α) :
    (l.dropWhile p).filter (fun a => !p a) = l.filter fun a => !p a := by
  induction l with
  | nil => rfl
  | cons a l ih => cases h : p a <;> simp [h, ih]

/-- Trimming takes away nothing but blanks. -/
theorem filter_trim (s : List Char) :
    (trim s).filter (fun c => !isBlank c) = s.filter fun c => !isBlank c := by
  rw [trim, trimEnd, List.filter_reverse, filter_not_dropWhile, List.filter_reverse,
    List.reverse_reverse, trimStart, filter_not_dropWhile]

end Text

end PromptForm
