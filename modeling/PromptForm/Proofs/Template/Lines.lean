import Mathlib.Data.List.ModifyLast
import PromptForm.Proofs.Template.Cleanup

/-!
# Reducing blank lines line by line

Reducing looks for line breaks with only blanks between them, and passes over blanks of all kinds at
once. Its meaning is said by lines: every run of blank lines becomes one empty line, every other line
stays as it is, and then the text is trimmed. The two differ before trimming: a first or a last blank
line is emptied by the one and kept by the other.

## Main definitions

* `Template.squeeze`: the lines with every run of blank ones replaced by one empty line.
* `Template.textLines`: the lines of a text that are not blank.

## Main results

* `Template.normalize_eq_squeeze`: reducing is done line by line; the lines that are not blank stay,
  and only blanks are taken away.
-/

namespace PromptForm

namespace Template

open Text

def blankLine (line : List Char) : Bool := line.all isBlank

/-- The lines with every run of blank ones replaced by one empty line. -/
def squeeze : List (List Char) → List (List Char)
  | [] => []
  | line :: lines =>
    if blankLine line then [] :: squeeze (lines.dropWhile blankLine) else line :: squeeze lines
termination_by lines => lines.length
decreasing_by
  · exact Nat.lt_succ_of_le (length_dropWhile_le blankLine lines)
  · exact Nat.lt_succ_self lines.length

/-- The lines of a text that are not blank. -/
def textLines (s : List Char) : List (List Char) :=
  (splitOn '\n' s).filter fun line => !blankLine line

theorem blankLine_iff {line : List Char} : blankLine line = true ↔ ∀ c ∈ line, isBlank c :=
  List.all_eq_true

/-! ### Runs of blank lines -/

@[simp] theorem squeeze_nil : squeeze [] = [] := by
  rw [squeeze]

theorem squeeze_cons_of_blank {line : List Char} (h : blankLine line = true)
    (lines : List (List Char)) :
    squeeze (line :: lines) = [] :: squeeze (lines.dropWhile blankLine) := by
  rw [squeeze, if_pos h]

theorem squeeze_cons_of_not_blank {line : List Char} (h : blankLine line ≠ true)
    (lines : List (List Char)) : squeeze (line :: lines) = line :: squeeze lines := by
  rw [squeeze, if_neg h]

theorem squeeze_ne_nil {lines : List (List Char)} (h : lines ≠ []) : squeeze lines ≠ [] := by
  cases lines with
  | nil => exact absurd rfl h
  | cons line lines =>
    rw [squeeze]
    split <;> exact List.cons_ne_nil _ _

/-- A run of blank lines becomes one empty line, with the blank lines after it. -/
theorem squeeze_append_of_blank {run : List (List Char)} (hne : run ≠ [])
    (h : ∀ line ∈ run, blankLine line = true) (lines : List (List Char)) :
    squeeze (run ++ lines) = [] :: squeeze (lines.dropWhile blankLine) := by
  cases run with
  | nil => exact absurd rfl hne
  | cons line run =>
    obtain ⟨hline, hrun⟩ := List.forall_mem_cons.1 h
    rw [List.cons_append, squeeze_cons_of_blank hline, List.dropWhile_append_of_pos hrun]

/-- Squeezed lines are lines from before, or empty ones. -/
theorem mem_of_mem_squeeze {lines : List (List Char)} {line : List Char}
    (h : line ∈ squeeze lines) : line = [] ∨ line ∈ lines := by
  fun_induction squeeze lines with
  | case1 => cases h
  | case2 first lines hblank ih =>
    rcases List.mem_cons.1 h with rfl | h
    · exact .inl rfl
    · refine (ih h).imp_right fun hmem => List.mem_cons_of_mem first ?_
      exact (List.dropWhile_suffix blankLine).subset hmem
  | case3 first lines hblank ih =>
    rcases List.mem_cons.1 h with rfl | h
    · exact .inr List.mem_cons_self
    · exact (ih h).imp_right (List.mem_cons_of_mem first)

/-- Squeezing takes away blank lines only. -/
theorem filter_squeeze (lines : List (List Char)) :
    (squeeze lines).filter (fun line => !blankLine line) =
      lines.filter fun line => !blankLine line := by
  fun_induction squeeze lines with
  | case1 => rfl
  | case2 first lines hblank ih =>
    have hnil : blankLine [] = true := rfl
    rw [filter_not_dropWhile] at ih
    simp only [List.filter_cons, hnil, hblank, Bool.not_true, Bool.false_eq_true, if_false, ih]
  | case3 first lines hblank ih => rw [List.filter_cons, ih, List.filter_cons]

/-! ### Reducing by lines -/

/-- A first blank line makes no difference to the trimmed text. -/
theorem trim_joinWith_cons {line : List Char} (h : blankLine line = true)
    (lines : List (List Char)) :
    trim (joinWith ['\n'] (line :: lines)) = trim (joinWith ['\n'] lines) := by
  rw [blankLine_iff] at h
  cases lines with
  | nil => exact trim_of_blank h
  | cons next lines =>
    rw [joinWith_cons (List.cons_ne_nil next lines)]
    refine trim_append_left (fun c hc => ?_) _
    rcases List.mem_append.1 hc with hc | hc
    · exact h c hc
    · rw [List.mem_singleton.1 hc]
      decide

theorem trim_joinWith_squeeze_cons (line : List Char) (lines : List (List Char)) :
    trim (joinWith ['\n'] (line :: squeeze lines)) =
      trim (joinWith ['\n'] (squeeze (line :: lines))) := by
  by_cases h : blankLine line = true
  · rw [squeeze_cons_of_blank h, trim_joinWith_cons h, trim_joinWith_cons rfl]
    cases lines with
    | nil => rfl
    | cons next lines =>
      by_cases hnext : blankLine next = true
      · rw [squeeze_cons_of_blank hnext, trim_joinWith_cons rfl, List.dropWhile_cons_of_pos hnext]
      · rw [List.dropWhile_cons_of_neg hnext]
  · rw [squeeze_cons_of_not_blank h]

/-- A blank line that no line break follows among the blanks is the last one. -/
theorem lines_eq_nil_of_blank {s line : List Char} {lines : List (List Char)}
    (h : afterLastBreak? s = none) (hs : splitOn '\n' s = line :: lines)
    (hblank : blankLine line = true) : lines = [] := by
  cases lines with
  | nil => rfl
  | cons next lines =>
    have hjoin := joinWith_splitOn '\n' s
    rw [hs, joinWith_cons (List.cons_ne_nil next lines), List.append_assoc] at hjoin
    exact absurd (blankLine_iff.1 hblank) (not_blank_of_afterLastBreak? h hjoin.symm)

/-- Reducing keeps the first line and squeezes the others, up to the blanks at the end. -/
theorem trimEnd_collapse {s line : List Char} {lines : List (List Char)}
    (hs : splitOn '\n' s = line :: lines) :
    trimEnd (collapse s) = trimEnd (joinWith ['\n'] (line :: squeeze lines)) := by
  -- behind a line break, the first line of a text is squeezed too
  have hsqueeze : ∀ {s : List Char}, afterLastBreak? s = none →
      (∀ {line lines}, splitOn '\n' s = line :: lines →
        trimEnd (collapse s) = trimEnd (joinWith ['\n'] (line :: squeeze lines))) →
      trimEnd (collapse s) = trimEnd (joinWith ['\n'] (squeeze (splitOn '\n' s))) := by
    intro s hbreak ih
    obtain ⟨line, lines, hs⟩ := List.exists_cons_of_ne_nil (splitOn_ne_nil '\n' s)
    rw [ih hs, hs]
    by_cases hblank : blankLine line = true
    · obtain rfl := lines_eq_nil_of_blank hbreak hs hblank
      rw [squeeze_cons_of_blank hblank, List.dropWhile_nil, squeeze_nil]
      exact trimEnd_eq_nil_iff.2 (blankLine_iff.1 hblank)
    · rw [squeeze_cons_of_not_blank hblank]
  fun_induction collapse s generalizing line lines with
  | case1 =>
    obtain ⟨rfl, rfl⟩ := List.cons.inj hs
    rw [squeeze_nil]
    rfl
  | case2 s rest hbreak ih =>
    obtain ⟨w, hw, rfl, hrest⟩ := exists_of_afterLastBreak? hbreak
    rw [splitOn_cons_self, splitOn_append_cons] at hs
    obtain ⟨rfl, rfl⟩ := List.cons.inj hs
    have hrun : ∀ line ∈ splitOn '\n' w, blankLine line = true := fun line hline =>
      blankLine_iff.2 fun c hc => hw c (mem_of_mem_splitOn hline hc)
    obtain ⟨next, more, hnext⟩ := List.exists_cons_of_ne_nil (splitOn_ne_nil '\n' rest)
    rw [squeeze_append_of_blank (splitOn_ne_nil '\n' w) hrun, joinWith_cons (List.cons_ne_nil _ _)]
    by_cases hblank : blankLine next = true
    · -- only blanks are left, which the end of the text loses
      obtain rfl := lines_eq_nil_of_blank hrest hnext hblank
      rw [hnext, List.dropWhile_cons_of_pos hblank, List.dropWhile_nil, squeeze_nil]
      have hnil : trimEnd (collapse rest) = trimEnd [] := by
        rw [ih hnext, squeeze_nil]
        exact trimEnd_eq_nil_iff.2 (blankLine_iff.1 hblank)
      exact trimEnd_append_congr hnil ['\n', '\n']
    · have hsame : (splitOn '\n' rest).dropWhile blankLine = splitOn '\n' rest := by
        rw [hnext, List.dropWhile_cons_of_neg hblank]
      rw [hsame, joinWith_cons (squeeze_ne_nil (splitOn_ne_nil '\n' rest))]
      exact trimEnd_append_congr (hsqueeze hrest ih) ['\n', '\n']
  | case3 s hbreak ih =>
    rw [splitOn_cons_self] at hs
    obtain ⟨rfl, rfl⟩ := List.cons.inj hs
    rw [joinWith_cons (squeeze_ne_nil (splitOn_ne_nil '\n' s))]
    exact trimEnd_append_congr (hsqueeze hbreak ih) ['\n']
  | case4 c s hc ih =>
    obtain ⟨part, parts, hparts⟩ := List.exists_cons_of_ne_nil (splitOn_ne_nil '\n' s)
    rw [splitOn_cons_of_ne hc hparts] at hs
    obtain ⟨rfl, rfl⟩ := List.cons.inj hs
    rw [joinWith_cons_cons]
    exact trimEnd_append_congr (ih hparts) [c]

/-! ### What is kept -/

/-- Reducing takes away nothing but blanks. -/
theorem filter_collapse (s : List Char) :
    (collapse s).filter (fun c => !isBlank c) = s.filter fun c => !isBlank c := by
  have hbreak : isBlank '\n' = true := by decide
  fun_induction collapse s with
  | case1 => rfl
  | case2 s rest h ih =>
    obtain ⟨w, hw, rfl, -⟩ := exists_of_afterLastBreak? h
    have hnil : w.filter (fun c => !isBlank c) = [] := by
      rw [List.filter_eq_nil_iff]
      intro c hc
      rw [hw c hc]
      exact Bool.false_ne_true
    simp only [List.filter_cons, List.filter_append, hbreak, hnil, ih, Bool.not_true,
      Bool.false_eq_true, if_false, List.nil_append]
  | case3 s h ih =>
    simp only [List.filter_cons, hbreak, ih, Bool.not_true, Bool.false_eq_true, if_false]
  | case4 c s hc ih => rw [List.filter_cons, ih, List.filter_cons]

theorem textLines_joinWith_squeeze (s : List Char) :
    textLines (joinWith ['\n'] (squeeze (splitOn '\n' s))) = textLines s := by
  have hbreaks : ∀ line ∈ squeeze (splitOn '\n' s), '\n' ∉ line := by
    intro line hline
    rcases mem_of_mem_squeeze hline with rfl | hline
    · exact List.not_mem_nil
    · exact not_mem_of_mem_splitOn hline
  rw [textLines, splitOn_joinWith (squeeze_ne_nil (splitOn_ne_nil '\n' s)) hbreaks, filter_squeeze,
    textLines]

/-- Trimming the start of a text trims the start of its first line that is not blank. -/
theorem textLines_trimStart (s : List Char) :
    textLines (trimStart s) = (textLines s).modifyHead trimStart := by
  induction s with
  | nil => rfl
  | cons c s ih =>
    obtain ⟨part, parts, hparts⟩ := List.exists_cons_of_ne_nil (splitOn_ne_nil '\n' s)
    by_cases hc : isBlank c = true
    · have hskip : ∀ u, trimStart (c :: u) = trimStart u := fun _ => List.dropWhile_cons_of_pos hc
      rw [hskip, ih]
      by_cases hbreak : c = '\n'
      · subst hbreak
        rw [textLines, textLines, splitOn_cons_self]
        rfl
      · -- the blank joins the first line, which is blank with it or without it
        have hfirst : blankLine (c :: part) = blankLine part := by
          rw [blankLine, List.all_cons, hc, Bool.true_and, blankLine]
        rw [textLines, textLines, splitOn_cons_of_ne hbreak hparts, hparts, List.filter_cons,
          List.filter_cons, hfirst]
        split
        · rw [List.modifyHead_cons, List.modifyHead_cons, hskip]
        · rfl
    · have hkeep : ∀ u, trimStart (c :: u) = c :: u := fun _ => List.dropWhile_cons_of_neg hc
      have hbreak : c ≠ '\n' := by
        rintro rfl
        exact hc (by decide)
      have hfirst : blankLine (c :: part) = false := by
        rw [blankLine, List.all_cons, Bool.eq_false_iff.2 hc, Bool.false_and]
      rw [hkeep, textLines, splitOn_cons_of_ne hbreak hparts, List.filter_cons, hfirst,
        Bool.not_false, if_pos rfl, List.modifyHead_cons, hkeep]

theorem textLines_reverse (s : List Char) :
    textLines s.reverse = ((textLines s).map List.reverse).reverse := by
  simp only [textLines, splitOn_reverse, List.filter_reverse, List.filter_map, Function.comp_def,
    blankLine, List.all_reverse]

/-- Trimming the end of a text trims the end of its last line that is not blank. -/
theorem textLines_trimEnd (s : List Char) :
    textLines (trimEnd s) = (textLines s).modifyLast trimEnd := by
  have hbackwards : trimEnd s = (trimStart s.reverse).reverse := rfl
  rw [hbackwards, textLines_reverse, textLines_trimStart, textLines_reverse]
  rcases List.eq_nil_or_concat (textLines s) with hs | ⟨lines, last, hs⟩
  · rw [hs]
    rfl
  · rw [hs, List.concat_eq_append, List.modifyLast_concat]
    simp [trimEnd, trimStart]

/-- **Blank lines are reduced line by line.** Every run of blank lines becomes one empty line, and
the text is trimmed. So the lines that are not blank stay as they are, but for the start of the
first and the end of the last one, and no characters but blanks are taken away. -/
theorem normalize_eq_squeeze (s : List Char) :
    normalize s = trim (joinWith ['\n'] (squeeze (splitOn '\n' s))) ∧
      textLines (normalize s) = ((textLines s).modifyHead trimStart).modifyLast trimEnd ∧
      (normalize s).filter (fun c => !isBlank c) = s.filter fun c => !isBlank c := by
  have hnormal : normalize s = trim (joinWith ['\n'] (squeeze (splitOn '\n' s))) := by
    obtain ⟨line, lines, hs⟩ := List.exists_cons_of_ne_nil (splitOn_ne_nil '\n' s)
    rw [normalize, trim_eq_of_trimEnd_eq (trimEnd_collapse hs), trim_joinWith_squeeze_cons, hs]
  refine ⟨hnormal, ?_, ?_⟩
  · rw [hnormal, trim, textLines_trimEnd, textLines_trimStart, textLines_joinWith_squeeze]
  · rw [normalize, filter_trim, filter_collapse]

end Template

end PromptForm
