import PromptForm.Text.Cut

/-!
# Passing over text without a pattern

Cutting, replacing and every other search from the left have one thing in common: they copy the
characters at which the pattern does not begin. `Avoids` says that the pattern begins nowhere inside
a text, whatever follows the text, and it is closed under appending, so that the searches can be
followed piece by piece.

## Main definitions

* `Text.Avoids`: no occurrence of a pattern begins inside a text.
* `Text.FirstAfter`: a pattern occurs first right after a text.
-/

namespace PromptForm

namespace Text

/-- No occurrence of the pattern begins inside the text, whatever follows the text. -/
def Avoids (pattern s : List Char) : Prop :=
  ∀ a c b t, s = a ++ c :: b → afterPrefix? pattern (c :: (b ++ t)) = none

theorem avoids_nil (pattern : List Char) : Avoids pattern [] := by
  intro a c b t h
  simp at h

theorem avoids_cons_iff {pattern : List Char} {c : Char} {s : List Char} :
    Avoids pattern (c :: s) ↔
      (∀ t, afterPrefix? pattern (c :: (s ++ t)) = none) ∧ Avoids pattern s := by
  constructor
  · intro h
    refine ⟨fun t => h [] c s t rfl, ?_⟩
    intro a d b t hs
    exact h (c :: a) d b t (by rw [hs]; rfl)
  · rintro ⟨hhead, htail⟩ a d b t hs
    cases a with
    | nil =>
      obtain ⟨rfl, rfl⟩ := List.cons.inj hs
      exact hhead t
    | cons e a =>
      obtain ⟨rfl, rfl⟩ := List.cons.inj hs
      exact htail a d b t rfl

theorem Avoids.append {pattern s t : List Char} (hs : Avoids pattern s) (ht : Avoids pattern t) :
    Avoids pattern (s ++ t) := by
  induction s with
  | nil => exact ht
  | cons c s ih =>
    obtain ⟨hhead, htail⟩ := avoids_cons_iff.1 hs
    rw [List.cons_append]
    refine avoids_cons_iff.2 ⟨fun u => ?_, ih htail⟩
    rw [List.append_assoc]
    exact hhead (t ++ u)

/-! ### The searches on a text that avoids the pattern -/

theorem afterPrefix?_append (pattern rest : List Char) :
    afterPrefix? pattern (pattern ++ rest) = some rest :=
  afterPrefix?_eq_some_iff.2 rfl

theorem cut?_append_self (pattern rest : List Char) :
    cut? pattern (pattern ++ rest) = some ([], rest) := by
  have h := afterPrefix?_append pattern rest
  cases hs : pattern ++ rest with
  | nil =>
    rw [hs] at h
    rw [cut?, h]
    rfl
  | cons c cs =>
    rw [hs] at h
    rw [cut?, h]

/-- The first occurrence comes after a text that avoids the pattern. -/
theorem cut?_append_of_avoids {pattern s : List Char} (h : Avoids pattern s) (t : List Char) :
    cut? pattern (s ++ t) = (cut? pattern t).map fun (before, rest) => (s ++ before, rest) := by
  induction s with
  | nil => simp
  | cons c s ih =>
    obtain ⟨hhead, htail⟩ := avoids_cons_iff.1 h
    rw [List.cons_append, cut?, hhead t, ih htail]
    simp [Function.comp_def]

@[simp] theorem replaceAll_nil (pattern replacement : List Char) :
    replaceAll pattern replacement [] = [] := by
  simp [replaceAll, replaceFrom]

theorem replaceFrom_length (pattern replacement w s : List Char) :
    replaceFrom pattern replacement w.length (w ++ s) = replaceFrom pattern replacement 0 s := by
  induction w with
  | nil => rfl
  | cons c w ih => exact ih

/-- An occurrence at the start is replaced, and the rest of the text after it. -/
theorem replaceAll_append_self {pattern : List Char} (hne : pattern ≠ []) (replacement s : List Char) :
    replaceAll pattern replacement (pattern ++ s) =
      replacement ++ replaceAll pattern replacement s := by
  cases pattern with
  | nil => exact absurd rfl hne
  | cons c p =>
    have h := afterPrefix?_append (c :: p) s
    rw [List.cons_append] at h
    rw [replaceAll, List.cons_append, replaceFrom, h]
    exact congrArg (replacement ++ ·) (replaceFrom_length (c :: p) replacement p s)

theorem replaceAll_append_of_avoids {pattern s : List Char} (h : Avoids pattern s)
    (replacement t : List Char) :
    replaceAll pattern replacement (s ++ t) = s ++ replaceAll pattern replacement t := by
  induction s with
  | nil => rfl
  | cons c s ih =>
    obtain ⟨hhead, htail⟩ := avoids_cons_iff.1 h
    rw [List.cons_append, replaceAll, replaceFrom, hhead t]
    exact congrArg (c :: ·) (ih htail)

/-! ### First occurrences -/

/-- In the text that goes on with the pattern and a rest, the pattern does not begin before that. -/
def FirstAfter (pattern before rest : List Char) : Prop :=
  ∀ a b, before ++ (pattern ++ rest) = a ++ (pattern ++ b) → before.length ≤ a.length

theorem cut?_eq_none_iff {pattern s : List Char} :
    cut? pattern s = none ↔ ∀ a b, s ≠ a ++ (pattern ++ b) := by
  constructor
  · rintro h a b rfl
    induction a with
    | nil =>
      rw [List.nil_append, cut?_append_self] at h
      cases h
    | cons c a ih =>
      rw [List.cons_append, cut?] at h
      split at h
      · cases h
      · exact ih (Option.map_eq_none_iff.1 h)
  · intro h
    cases hcut : cut? pattern s with
    | none => rfl
    | some found =>
      obtain ⟨before, rest⟩ := found
      have hs := eq_of_cut?_eq_some hcut
      rw [List.append_assoc] at hs
      exact absurd hs (h before rest)

/-- A pattern that does not occur in a text does not occur in the end of the text either. -/
theorem cut?_eq_none_of_suffix {pattern s t : List Char} (h : cut? pattern s = none) (ht : t <:+ s) :
    cut? pattern t = none := by
  obtain ⟨u, rfl⟩ := ht
  refine cut?_eq_none_iff.2 fun a b hab => cut?_eq_none_iff.1 h (u ++ a) b ?_
  rw [hab, List.append_assoc]

/-- What is cut off ends where the pattern occurs first. -/
theorem firstAfter_of_cut?_eq_some {pattern s before rest : List Char}
    (h : cut? pattern s = some (before, rest)) : FirstAfter pattern before rest := by
  intro a b hab
  have hs := eq_of_cut?_eq_some h
  rw [List.append_assoc, hab] at hs
  clear hab
  induction s generalizing before a with
  | nil =>
    rw [cut?, Option.map_eq_some_iff] at h
    obtain ⟨_, -, hfound⟩ := h
    rw [← (Prod.mk.inj hfound).1]
    exact Nat.zero_le _
  | cons c s ih =>
    rw [cut?] at h
    split at h
    · rw [← (Prod.mk.inj (Option.some.inj h)).1]
      exact Nat.zero_le _
    · next hnone =>
      obtain ⟨⟨before', rest'⟩, hcut, hfound⟩ := Option.map_eq_some_iff.1 h
      obtain ⟨rfl, rfl⟩ := Prod.mk.inj hfound
      cases a with
      | nil =>
        -- the pattern would begin at once
        rw [hs, List.nil_append, afterPrefix?_append] at hnone
        cases hnone
      | cons d a =>
        obtain ⟨rfl, htail⟩ := List.cons.inj hs
        exact Nat.succ_le_succ (ih hcut a htail)

theorem cut?_append_of_firstAfter {pattern before rest : List Char}
    (h : FirstAfter pattern before rest) :
    cut? pattern (before ++ (pattern ++ rest)) = some (before, rest) := by
  cases hcut : cut? pattern (before ++ (pattern ++ rest)) with
  | none => exact absurd rfl (cut?_eq_none_iff.1 hcut before rest)
  | some found =>
    obtain ⟨before', rest'⟩ := found
    have hs := eq_of_cut?_eq_some hcut
    rw [List.append_assoc] at hs
    -- neither of the two occurrences comes before the other one
    have hlength : before.length = before'.length :=
      Nat.le_antisymm (h before' rest' hs) (firstAfter_of_cut?_eq_some hcut before rest hs.symm)
    obtain ⟨rfl, htail⟩ := List.append_inj hs hlength
    rw [List.append_cancel_left htail]

end Text

end PromptForm
