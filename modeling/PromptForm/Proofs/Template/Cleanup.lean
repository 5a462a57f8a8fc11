import PromptForm.Proofs.Template.Passes
import PromptForm.Proofs.Text.Split
import PromptForm.Proofs.Text.Trim
import PromptForm.Template.Compile

/-!
# The normal form of a prompt

A clean text has no tokens, no blanks at its ends, and of consecutive blank lines only one empty line.
Cleaning up leaves a clean text, and leaves a text alone exactly when it is clean. Erasing runs until
no token is left; reducing blank lines replaces blanks by blanks, so that it joins nothing that was
apart, and no token comes back.

## Main definitions

* `Template.TokenFree`: no token stands in a text.
* `Template.Tight`: two line breaks with only blanks between them are next to each other.
* `Template.Clean`: the normal form, said by the lines of a text.

## Main results

* `Template.cleanup_normalForm`: cleaning up leads to the normal form and stays there.
-/

namespace PromptForm

namespace Template

open Text

/-- No part of the text is two opening braces, characters other than a closing brace, and two closing
braces. -/
def TokenFree (s : List Char) : Prop :=
  ∀ before inside after, s = before ++ token inside ++ after → '\x7d' ∈ inside

/-- Two line breaks between which only blanks stand are next to each other. -/
def Tight (s : List Char) : Prop :=
  ∀ before w after, s = before ++ '\n' :: (w ++ '\n' :: after) → (∀ c ∈ w, isBlank c) → w = []

/-- A text in normal form: no tokens, no blanks at the ends, no blank lines but single empty ones. -/
structure Clean (s : List Char) : Prop where
  tokenFree : TokenFree s
  trimmed : Trimmed s
  eq_nil_of_blank : ∀ line ∈ splitOn '\n' s, (∀ c ∈ line, isBlank c) → line = []
  not_blank_pair : ∀ line next, [line, next] <:+: splitOn '\n' s →
    ¬((∀ c ∈ line, isBlank c) ∧ ∀ c ∈ next, isBlank c)

/-! ### Tokens -/

theorem TokenFree.mono {s t : List Char} (h : TokenFree s) (hts : t <:+: s) : TokenFree t := by
  obtain ⟨a, b, rfl⟩ := hts
  intro before inside after ht
  exact h (a ++ before) inside (after ++ b) (by rw [ht]; simp only [List.append_assoc])

theorem tokenFree_nil : TokenFree [] := by
  intro before inside after h
  simp [token, open2] at h

theorem tokenFree_cons_iff {c : Char} {s : List Char} :
    TokenFree (c :: s) ↔ afterToken? (c :: s) = none ∧ TokenFree s := by
  constructor
  · intro h
    refine ⟨?_, h.mono (List.suffix_cons c s).isInfix⟩
    rw [Option.eq_none_iff_forall_not_mem]
    intro rest hrest
    obtain ⟨inside, hinside, hs⟩ := afterToken?_eq_some_iff.1 hrest
    exact hinside (h [] inside rest hs)
  · rintro ⟨hhead, htail⟩ before inside after hs
    -- a token begins at the front of the text or stands in its rest
    cases before with
    | nil =>
      by_contra hinside
      rw [afterToken?_eq_some_iff.2 ⟨inside, hinside, hs⟩] at hhead
      cases hhead
    | cons d before => exact htail before inside after (List.cons.inj hs).2

/-- A pass takes something away, unless there is no token. -/
theorem erasePass_length_lt_or (s : List Char) :
    (erasePass s).length < s.length ∨ erasePass s = s ∧ TokenFree s := by
  fun_induction erasePass s with
  | case1 s rest h ih =>
    have hlt := length_lt_of_afterToken?_eq_some h
    left
    rcases ih with ih | ih
    · omega
    · rw [ih.1]
      exact hlt
  | case2 => exact .inr ⟨rfl, tokenFree_nil⟩
  | case3 c s h ih =>
    rcases ih with ih | ⟨ih, hfree⟩
    · left
      simp only [List.length_cons]
      omega
    · right
      rw [ih]
      exact ⟨rfl, tokenFree_cons_iff.2 ⟨h, hfree⟩⟩

theorem tokenFree_erase (s : List Char) : TokenFree (erase s) := by
  fun_induction erase s with
  | case1 s t h ih => exact ih
  | case2 s t h =>
    -- the last pass took nothing away, so that there was no token left
    rcases erasePass_length_lt_or s with hlt | ⟨heq, hfree⟩
    · exact absurd hlt h
    · change TokenFree (erasePass s)
      rwa [heq]

theorem erasePass_of_tokenFree {s : List Char} (h : TokenFree s) : erasePass s = s := by
  induction s with
  | nil => exact erasePass_nil
  | cons c s ih =>
    obtain ⟨hhead, htail⟩ := tokenFree_cons_iff.1 h
    rw [erasePass_cons_of_none hhead, ih htail]

theorem erase_of_tokenFree {s : List Char} (h : TokenFree s) : erase s = s := by
  rw [erase, erasePass_of_tokenFree h, dif_neg (Nat.lt_irrefl _)]

theorem erase_length_le (s : List Char) : (erase s).length ≤ s.length := by
  fun_induction erase s with
  | case1 s t h ih => exact Nat.le_trans ih (Nat.le_of_lt h)
  | case2 s t h =>
    rcases erasePass_length_lt_or s with hlt | ⟨heq, -⟩
    · exact Nat.le_of_lt hlt
    · exact Nat.le_of_eq (congrArg List.length heq)

/-- Erasing takes something away from a text with a token. -/
theorem erase_length_lt {s : List Char} (h : ¬TokenFree s) : (erase s).length < s.length := by
  rcases erasePass_length_lt_or s with hlt | ⟨-, hfree⟩
  · rw [erase, dif_pos hlt]
    exact Nat.lt_of_le_of_lt (erase_length_le _) hlt
  · exact absurd hfree h

/-! ### Line breaks with blanks between them -/

/-- The last line break among the leading blanks has only blanks before it, and no other line break
follows among the blanks. -/
theorem exists_of_afterLastBreak? {s rest : List Char} (h : afterLastBreak? s = some rest) :
    ∃ w, (∀ c ∈ w, isBlank c) ∧ s = w ++ '\n' :: rest ∧ afterLastBreak? rest = none := by
  induction s with
  | nil => simp [afterLastBreak?] at h
  | cons c s ih =>
    rw [afterLastBreak?] at h
    split at h
    · next hc =>
      split at h
      · next r hr =>
        obtain ⟨w, hw, hs, hrest⟩ := ih (hr.trans h)
        exact ⟨c :: w, List.forall_mem_cons.2 ⟨hc, hw⟩, congrArg (c :: ·) hs, hrest⟩
      · next hnone =>
        split at h
        · next hbreak =>
          rw [← Option.some.inj h]
          exact ⟨[], by simp, by rw [hbreak]; rfl, hnone⟩
        · simp at h
    · simp at h

theorem not_blank_of_afterLastBreak? {s w after : List Char} (h : afterLastBreak? s = none)
    (hs : s = w ++ '\n' :: after) : ¬∀ c ∈ w, isBlank c := by
  intro hw
  induction w generalizing s with
  | nil =>
    subst hs
    rw [List.nil_append, afterLastBreak?, if_pos (by decide)] at h
    split at h <;> simp at h
  | cons c w ih =>
    subst hs
    obtain ⟨hc, hw⟩ := List.forall_mem_cons.1 hw
    rw [List.cons_append, afterLastBreak?, if_pos hc] at h
    split at h
    · simp at h
    · next hnone => exact ih hnone rfl hw

theorem Tight.mono {s t : List Char} (h : Tight s) (hts : t <:+: s) : Tight t := by
  obtain ⟨a, b, rfl⟩ := hts
  intro before w after ht
  exact h (a ++ before) w (after ++ b) (by rw [ht]; simp)

theorem tight_nil : Tight [] := by
  intro before w after h
  simp at h

/-- A text is tight when its rest is, and a line break at its front is. -/
theorem Tight.cons {c : Char} {s : List Char} (h : Tight s)
    (hc : c = '\n' → ∀ w after, s = w ++ '\n' :: after → (∀ d ∈ w, isBlank d) → w = []) :
    Tight (c :: s) := by
  intro before w after hs hw
  cases before with
  | nil =>
    obtain ⟨hbreak, hs⟩ := List.cons.inj hs
    exact hc hbreak w after hs hw
  | cons d before => exact h before w after (List.cons.inj hs).2 hw

/-! ### Reducing blank lines -/

@[simp] theorem collapse_nil : collapse [] = [] := by
  rw [collapse]

theorem collapse_cons_of_ne {c : Char} (hc : c ≠ '\n') (s : List Char) :
    collapse (c :: s) = c :: collapse s := by
  rw [collapse, if_neg hc]

/-- Reducing brings no line break to the front of a text. -/
theorem afterLastBreak?_collapse {s : List Char} (h : afterLastBreak? s = none) :
    afterLastBreak? (collapse s) = none := by
  induction s with
  | nil => rw [collapse_nil, h]
  | cons c s ih =>
    have hc : c ≠ '\n' := by
      rintro rfl
      exact not_blank_of_afterLastBreak? h (List.nil_append _).symm (by simp)
    rw [collapse_cons_of_ne hc, afterLastBreak?]
    rw [afterLastBreak?] at h
    split at h
    · next hblank =>
      split at h
      · simp at h
      · next hnone => rw [if_pos hblank, ih hnone, if_neg hc]
    · next hblank => rw [if_neg hblank]

theorem tight_collapse (s : List Char) : Tight (collapse s) := by
  fun_induction collapse s with
  | case1 => exact tight_nil
  | case2 s rest h ih =>
    obtain ⟨_, _, _, hrest⟩ := exists_of_afterLastBreak? h
    have hnone := afterLastBreak?_collapse hrest
    -- after the second of the two line breaks, no further one stands behind blanks
    refine (ih.cons fun _ w after hs hw => ?_).cons fun _ w after hs hw => ?_
    · exact absurd hw (not_blank_of_afterLastBreak? hnone hs)
    · cases w with
      | nil => rfl
      | cons d w =>
        exact absurd (List.forall_mem_cons.1 hw).2
          (not_blank_of_afterLastBreak? hnone (List.cons.inj hs).2)
  | case3 s h ih =>
    refine ih.cons fun _ w after hs hw => ?_
    exact absurd hw (not_blank_of_afterLastBreak? (afterLastBreak?_collapse h) hs)
  | case4 c s hc ih => exact ih.cons fun hbreak => absurd hbreak hc

theorem collapse_of_tight {s : List Char} (h : Tight s) : collapse s = s := by
  fun_induction collapse s with
  | case1 => rfl
  | case2 s rest hbreak ih =>
    obtain ⟨w, hw, rfl, _⟩ := exists_of_afterLastBreak? hbreak
    have hnil : w = [] := h [] w rest rfl hw
    subst hnil
    have hrest : rest <:+: '\n' :: '\n' :: rest := ⟨['\n', '\n'], [], by simp⟩
    rw [ih (h.mono hrest)]
    rfl
  | case3 s hbreak ih => rw [ih (h.mono (List.suffix_cons _ _).isInfix)]
  | case4 c s hc ih => rw [ih (h.mono (List.suffix_cons _ _).isInfix)]

theorem collapse_newline (s : List Char) : ∃ t, collapse ('\n' :: s) = '\n' :: t := by
  rw [collapse, if_pos rfl]
  split
  · exact ⟨_, rfl⟩
  · exact ⟨_, rfl⟩

/-- A reduced text that begins with another character than a line break comes from a text that begins
with it too. -/
theorem exists_of_collapse_eq_cons {s t : List Char} {c : Char} (hc : c ≠ '\n')
    (h : collapse s = c :: t) : ∃ u, s = c :: u ∧ collapse u = t := by
  cases s with
  | nil => simp at h
  | cons d s =>
    by_cases hd : d = '\n'
    · subst hd
      obtain ⟨u, hu⟩ := collapse_newline s
      rw [hu] at h
      exact absurd (List.cons.inj h).1.symm hc
    · rw [collapse_cons_of_ne hd] at h
      obtain ⟨rfl, rfl⟩ := List.cons.inj h
      exact ⟨s, rfl, rfl⟩

/-- The first closing brace of a reduced text is the first one of the text. -/
theorem exists_of_collapse_eq_append {s inside t : List Char} (hinside : '\x7d' ∉ inside)
    (h : collapse s = inside ++ '\x7d' :: t) :
    ∃ before u, '\x7d' ∉ before ∧ s = before ++ '\x7d' :: u ∧ collapse u = t := by
  -- a step of reducing copies a character or passes over blanks, and no blank is a brace
  have hcopy : ∀ {c : Char} {s : List Char}, c ≠ '\x7d' →
      (∃ before u, '\x7d' ∉ before ∧ s = before ++ '\x7d' :: u ∧ collapse u = t) →
      ∃ before u, '\x7d' ∉ before ∧ c :: s = before ++ '\x7d' :: u ∧ collapse u = t := by
    rintro c s hc ⟨before, u, hbefore, rfl, hu⟩
    exact ⟨c :: before, u, List.not_mem_cons_of_ne_of_not_mem hc.symm hbefore, rfl, hu⟩
  have hpass : ∀ {w s : List Char}, (∀ c ∈ w, isBlank c) →
      (∃ before u, '\x7d' ∉ before ∧ s = before ++ '\x7d' :: u ∧ collapse u = t) →
      ∃ before u, '\x7d' ∉ before ∧ w ++ s = before ++ '\x7d' :: u ∧ collapse u = t := by
    intro w s hw hs
    induction w with
    | nil => exact hs
    | cons c w ih =>
      obtain ⟨hc, hw⟩ := List.forall_mem_cons.1 hw
      refine hcopy ?_ (ih hw)
      rintro rfl
      exact absurd hc (by decide)
  fun_induction collapse s generalizing inside with
  | case1 => simp at h
  | case2 s rest hbreak ih =>
    obtain ⟨w, hw, rfl, _⟩ := exists_of_afterLastBreak? hbreak
    cases inside with
    | nil => exact absurd (List.cons.inj h).1 (by decide)
    | cons c inside =>
      cases inside with
      | nil => exact absurd (List.cons.inj (List.cons.inj h).2).1 (by decide)
      | cons d inside =>
        have hrest := ih (List.not_mem_of_not_mem_cons (List.not_mem_of_not_mem_cons hinside))
          (List.cons.inj (List.cons.inj h).2).2
        exact hcopy (by decide) (hpass hw (hcopy (by decide) hrest))
  | case3 s hbreak ih =>
    cases inside with
    | nil => exact absurd (List.cons.inj h).1 (by decide)
    | cons c inside =>
      exact hcopy (by decide) (ih (List.not_mem_of_not_mem_cons hinside) (List.cons.inj h).2)
  | case4 c s hc ih =>
    cases inside with
    | nil =>
      obtain ⟨rfl, hs⟩ := List.cons.inj h
      exact ⟨[], s, List.not_mem_nil, rfl, hs⟩
    | cons d inside =>
      obtain ⟨rfl, hs⟩ := List.cons.inj h
      exact hcopy (List.ne_of_not_mem_cons hinside).symm
        (ih (List.not_mem_of_not_mem_cons hinside) hs)

/-- Reducing brings no token to the front of a text. -/
theorem afterToken?_collapse {s : List Char} (h : afterToken? s = none) :
    afterToken? (collapse s) = none := by
  rw [Option.eq_none_iff_forall_not_mem]
  intro rest hrest
  obtain ⟨inside, hinside, hs⟩ := afterToken?_eq_some_iff.1 hrest
  rw [token_append] at hs
  obtain ⟨s₁, rfl, hs₁⟩ := exists_of_collapse_eq_cons (by decide) hs
  obtain ⟨s₂, rfl, hs₂⟩ := exists_of_collapse_eq_cons (by decide) hs₁
  obtain ⟨before, s₃, hbefore, rfl, hs₃⟩ := exists_of_collapse_eq_append hinside hs₂
  obtain ⟨s₄, rfl, _⟩ := exists_of_collapse_eq_cons (by decide) hs₃
  rw [← token_append, afterToken?_eq_some_iff.2 ⟨before, hbefore, rfl⟩] at h
  cases h

theorem TokenFree.collapse {s : List Char} (h : TokenFree s) : TokenFree (collapse s) := by
  fun_induction Template.collapse s with
  | case1 => exact tokenFree_nil
  | case2 s rest hbreak ih =>
    obtain ⟨w, _, rfl, _⟩ := exists_of_afterLastBreak? hbreak
    have hrest : rest <:+: '\n' :: (w ++ '\n' :: rest) := ⟨'\n' :: (w ++ ['\n']), [], by simp⟩
    have hbreak : ∀ s, afterToken? ('\n' :: s) = none := afterToken?_cons_of_ne (by decide)
    exact tokenFree_cons_iff.2 ⟨hbreak _, tokenFree_cons_iff.2 ⟨hbreak _, ih (h.mono hrest)⟩⟩
  | case3 s hbreak ih =>
    refine tokenFree_cons_iff.2 ⟨afterToken?_cons_of_ne (by decide) _, ih ?_⟩
    exact (tokenFree_cons_iff.1 h).2
  | case4 c s hc ih =>
    obtain ⟨hhead, htail⟩ := tokenFree_cons_iff.1 h
    refine tokenFree_cons_iff.2 ⟨?_, ih htail⟩
    rw [← collapse_cons_of_ne hc]
    exact afterToken?_collapse hhead

/-! ### Lines -/

/-- Lines of blanks that follow each other in a tight and trimmed text are together empty: they stand
neither first nor last, so that there is a line break on both sides of them. -/
theorem Tight.joinWith_eq_nil {s : List Char} {lines : List (List Char)} (h : Tight s)
    (ht : Trimmed s) (hne : lines ≠ []) (hlines : lines <:+: splitOn '\n' s)
    (hblank : ∀ c ∈ joinWith ['\n'] lines, isBlank c) : joinWith ['\n'] lines = [] := by
  obtain ⟨before, after, hsplit⟩ := hlines
  have hs := joinWith_splitOn '\n' s
  rw [← hsplit, List.append_assoc] at hs
  -- lines at the beginning or the end are blanks that trimming would have taken; others stand
  -- between two line breaks
  by_cases hbefore : before = []
  · subst hbefore
    rw [List.nil_append] at hs
    by_cases hafter : after = []
    · subst hafter
      rw [List.append_nil] at hs
      rw [← hs, ← List.append_nil (joinWith _ _)] at ht
      exact ht.of_append_left hblank
    · rw [joinWith_append hne hafter, List.append_assoc] at hs
      rw [← hs] at ht
      exact ht.of_append_left hblank
  · rw [joinWith_append hbefore (by simp [hne])] at hs
    by_cases hafter : after = []
    · subst hafter
      rw [List.append_nil] at hs
      rw [← hs] at ht
      exact ht.of_append_right hblank
    · rw [joinWith_append hne hafter, List.append_assoc, List.append_assoc] at hs
      exact h _ _ _ hs.symm hblank

/-- The lines of a tight and trimmed text are those of a clean one. -/
theorem Clean.of_tight {s : List Char} (hfree : TokenFree s) (ht : Trimmed s) (h : Tight s) :
    Clean s where
  tokenFree := hfree
  trimmed := ht
  eq_nil_of_blank := by
    intro line hline hblank
    obtain ⟨before, after, hlines⟩ := List.append_of_mem hline
    exact h.joinWith_eq_nil ht (List.cons_ne_nil line []) ⟨before, after, by simp [hlines]⟩ hblank
  not_blank_pair := by
    rintro line next hpair ⟨hline, hnext⟩
    have hblank : ∀ c ∈ joinWith ['\n'] [line, next], isBlank c := by
      intro c hc
      simp only [joinWith, List.mem_append, List.mem_singleton] at hc
      rcases hc with (hc | rfl) | hc
      · exact hline c hc
      · decide
      · exact hnext c hc
    have hnil := h.joinWith_eq_nil ht (List.cons_ne_nil line [next]) hpair hblank
    simp [joinWith] at hnil

/-- A clean text is tight: the lines between two line breaks with only blanks between them are blank,
so there is one of them, and it is empty. -/
theorem Clean.tight {s : List Char} (h : Clean s) : Tight s := by
  rintro before w after rfl hw
  have hlines : splitOn '\n' (before ++ '\n' :: (w ++ '\n' :: after)) =
      splitOn '\n' before ++ (splitOn '\n' w ++ splitOn '\n' after) := by
    rw [splitOn_append_cons, splitOn_append_cons]
  by_cases hbreak : '\n' ∈ w
  · -- the line before a line break in `w` and the line after it are blank lines in a row
    obtain ⟨a, b, rfl⟩ := List.append_of_mem hbreak
    obtain ⟨line, lines, hline⟩ : ∃ line lines, splitOn '\n' a = lines ++ [line] :=
      ⟨_, _, (List.dropLast_append_getLast (splitOn_ne_nil '\n' a)).symm⟩
    obtain ⟨next, more, hnext⟩ := List.exists_cons_of_ne_nil (splitOn_ne_nil '\n' b)
    rw [splitOn_append_cons '\n' a b, hline, hnext] at hlines
    have hmem : line ∈ splitOn '\n' a := by
      rw [hline]
      exact List.mem_append_right lines List.mem_cons_self
    have hmem' : next ∈ splitOn '\n' b := by
      rw [hnext]
      exact List.mem_cons_self
    have hblank : ∀ c ∈ line, isBlank c := by
      intro c hc
      exact hw c (List.mem_append_left _ (mem_of_mem_splitOn hmem hc))
    have hblank' : ∀ c ∈ next, isBlank c := by
      intro c hc
      exact hw c (List.mem_append_right a (List.mem_cons_of_mem _ (mem_of_mem_splitOn hmem' hc)))
    refine absurd ⟨hblank, hblank'⟩ (h.not_blank_pair line next ?_)
    rw [hlines]
    exact ⟨splitOn '\n' before ++ lines, more ++ splitOn '\n' after, by simp⟩
  · rw [splitOn_of_not_mem hbreak] at hlines
    exact h.eq_nil_of_blank w (by rw [hlines]; simp) hw

/-! ### Cleaning up -/

theorem clean_cleanup (s : List Char) : Clean (cleanup s) := by
  have hinfix : normalize (erase s) <:+: collapse (erase s) := trim_infix _
  exact .of_tight ((tokenFree_erase s).collapse.mono hinfix) (trimmed_trim _)
    ((tight_collapse _).mono hinfix)

theorem cleanup_of_clean {s : List Char} (h : Clean s) : cleanup s = s := by
  rw [cleanup, normalize, erase_of_tokenFree h.tokenFree, collapse_of_tight h.tight,
    trim_eq_self_iff.2 h.trimmed]

/-- **Cleaning up leads to the normal form.** What is left is clean, exactly the clean texts are left
as they are, and so nothing is changed by cleaning up twice; every prompt is clean. -/
theorem cleanup_normalForm :
    (∀ s, Clean (cleanup s)) ∧ (∀ s, cleanup s = s ↔ Clean s) ∧
      (∀ s, cleanup (cleanup s) = cleanup s) ∧
      ∀ (texts : Texts) (data : FormData) (template : String),
        Clean (compile texts data template).toList ∧
          cleanup (compile texts data template).toList = (compile texts data template).toList := by
  have hprompt : ∀ (texts : Texts) (data : FormData) (template : String),
      Clean (compile texts data template).toList := by
    intro texts data template
    rw [compile, String.toList_ofList, compileChars]
    exact clean_cleanup _
  refine ⟨clean_cleanup, fun s => ⟨fun h => ?_, cleanup_of_clean⟩,
    fun s => cleanup_of_clean (clean_cleanup s),
    fun texts data template => ⟨hprompt texts data template, cleanup_of_clean (hprompt _ _ _)⟩⟩
  rw [← h]
  exact clean_cleanup s

end Template

end PromptForm
