import Mathlib.Data.List.Basic
import Mathlib.Logic.Function.Iterate
import Mathlib.Logic.Relation
import PromptForm.Proofs.Template.Cleanup

/-!
# Erasing one token at a time

A pass erases many tokens before the text is looked at again from its start. The plain way is to
erase the first token, and to look again after each one. Erasing is not confluent, but the two
ways come to the same text: the text before a first token leaves no braces open, and a token after
such a text can be erased at once or later.

## Main definitions

* `Template.ErasesFirst`: one text is the other without its first token.
* `Template.Closed`: a text leaves no braces open.
* `Template.EndsIn`: where erasing the first token again and again ends.

## Main results

* `Template.erase_endsIn`: the passes come to an end, at the text where the plain way ends.
-/

namespace PromptForm

namespace Template

open Relation (ReflTransGen)

/-- The text `t` is `s` without a token before which no other one begins. -/
def ErasesFirst (s t : List Char) : Prop :=
  ∃ before inside after, '\x7d' ∉ inside ∧ s = before ++ (token inside ++ after) ∧
    t = before ++ after ∧
    ∀ before' inside' after', '\x7d' ∉ inside' → s = before' ++ (token inside' ++ after') →
      before.length ≤ before'.length

/-- A text leaves no braces open: after an opening brace comes a closing one, or at once another
character than a second opening brace. -/
def Closed (s : List Char) : Prop :=
  ∀ a b, s = a ++ '\x7b' :: b → '\x7d' ∉ b → ∃ c ∈ b.head?, c ≠ '\x7b'

/-- Erasing the first token again and again ends in a text, which has no token any more. -/
def EndsIn (s t : List Char) : Prop :=
  ReflTransGen ErasesFirst s t ∧ TokenFree t

/-! ### Texts that leave no braces open -/

theorem closed_nil : Closed [] := by
  intro a b h
  simp at h

theorem Closed.append {s t : List Char} (hs : Closed s) (ht : Closed t) : Closed (s ++ t) := by
  intro a b h hb
  rcases List.append_eq_append_iff.1 h with ⟨w, rfl, hw⟩ | ⟨w, rfl, hw⟩
  · -- the brace stands in the second text
    exact ht w b hw hb
  · cases w with
    | nil => exact ht [] b hw.symm hb
    | cons d w =>
      -- it stands in the first text, where another character follows it
      obtain ⟨rfl, rfl⟩ := List.cons.inj hw
      obtain ⟨c, hc, hne⟩ := hs a w rfl fun hmem => hb (List.mem_append_left t hmem)
      cases w with
      | nil => cases hc
      | cons e w => exact ⟨c, hc, hne⟩

theorem Closed.of_append_right {s t : List Char} (h : Closed (s ++ t)) : Closed t := by
  rintro a b rfl hb
  exact h (s ++ a) b (List.append_assoc s a _).symm hb

/-! ### First tokens -/

/-- A token after a text without tokens that leaves no braces open is the first one. -/
theorem Closed.length_le {s inside rest : List Char} (hs : Closed s) (hfree : TokenFree s)
    {before inside' after : List Char} (hinside : '\x7d' ∉ inside')
    (h : s ++ (token inside ++ rest) = before ++ (token inside' ++ after)) :
    s.length ≤ before.length := by
  rcases List.append_eq_append_iff.1 h with ⟨w, rfl, -⟩ | ⟨w, rfl, hw⟩
  · simp
  rw [token_append, token_append] at hw
  by_cases hbrace : '\x7d' ∈ w
  · -- the other token would end in `s`, where there is none
    obtain ⟨p, q, rfl, hp⟩ := List.eq_append_cons_of_mem hbrace
    have hopen : '\x7d' ∉ '\x7b' :: '\x7b' :: inside' := by simpa using hinside
    rw [List.append_assoc] at hw
    obtain ⟨rfl, hq⟩ := append_brace_inj hp hopen hw
    cases q with
    | nil => exact absurd (List.cons.inj hq).1 (by decide)
    | cons d q =>
      obtain ⟨rfl, -⟩ := List.cons.inj hq
      refine absurd (hfree before inside' q ?_) hinside
      rw [List.append_assoc, token_append]
      rfl
  · cases w with
    | nil => simp
    | cons c w =>
      -- the other token would begin in `s`, which leaves no braces open
      obtain ⟨rfl, htail⟩ := List.cons.inj hw
      obtain ⟨c, hc, hne⟩ := hs before w rfl fun hmem => hbrace (List.mem_cons_of_mem _ hmem)
      cases w with
      | nil => cases hc
      | cons d w =>
        obtain rfl : d = c := Option.some.inj hc
        exact absurd (List.cons.inj htail).1.symm hne

/-- No token begins at the front of a text when none does with more text after it. -/
theorem afterToken?_eq_none_of_append {s t : List Char} (h : afterToken? (s ++ t) = none) :
    afterToken? s = none := by
  rw [Option.eq_none_iff_forall_not_mem]
  intro rest hrest
  obtain ⟨inside, hinside, rfl⟩ := afterToken?_eq_some_iff.1 hrest
  rw [List.append_assoc, afterToken?_eq_some_iff.2 ⟨inside, hinside, rfl⟩] at h
  cases h

/-- A character before a text leaves no braces open, unless a token begins at it that takes in the
next one. -/
theorem Closed.cons {c : Char} {s inside after : List Char} (hs : Closed s)
    (hinside : '\x7d' ∉ inside)
    (h : afterToken? (c :: (s ++ (token inside ++ after))) = none) : Closed (c :: s) := by
  have hnone : ∀ inside', '\x7d' ∉ inside' →
      c :: (s ++ (token inside ++ after)) ≠ token inside' ++ after := by
    intro inside' hinside' he
    rw [afterToken?_eq_some_iff.2 ⟨inside', hinside', he⟩] at h
    cases h
  intro a b hab hb
  cases a with
  | cons d a => exact hs a b (List.cons.inj hab).2 hb
  | nil =>
    obtain ⟨rfl, rfl⟩ := List.cons.inj hab
    cases s with
    | nil =>
      exact absurd (by simp [token_append]) (hnone ('\x7b' :: inside) (by simpa using hinside))
    | cons d s =>
      refine ⟨d, rfl, ?_⟩
      rintro rfl
      refine hnone (s ++ '\x7b' :: '\x7b' :: inside) ?_ (by simp [token_append])
      simp only [List.mem_append, List.mem_cons, not_or] at hb ⊢
      exact ⟨hb.2, by decide, by decide, hinside⟩

/-- A text with a token has a first one; the text before it has no token and leaves no braces
open. -/
theorem exists_first_token {s : List Char} (h : ¬TokenFree s) :
    ∃ before inside after, '\x7d' ∉ inside ∧ s = before ++ (token inside ++ after) ∧
      TokenFree before ∧ Closed before := by
  induction s with
  | nil => exact absurd tokenFree_nil h
  | cons c s ih =>
    cases hhead : afterToken? (c :: s) with
    | some rest =>
      obtain ⟨inside, hinside, hs⟩ := afterToken?_eq_some_iff.1 hhead
      exact ⟨[], inside, rest, hinside, hs, tokenFree_nil, closed_nil⟩
    | none =>
      have htail : ¬TokenFree s := fun hfree => h (tokenFree_cons_iff.2 ⟨hhead, hfree⟩)
      obtain ⟨before, inside, after, hinside, rfl, hfree, hclosed⟩ := ih htail
      refine ⟨c :: before, inside, after, hinside, rfl, ?_, hclosed.cons hinside hhead⟩
      exact tokenFree_cons_iff.2 ⟨afterToken?_eq_none_of_append (s := c :: before) hhead, hfree⟩

/-- Erasing a token after a text without tokens that leaves no braces open. -/
theorem erasesFirst_of_closed {s inside : List Char} (hs : Closed s) (hfree : TokenFree s)
    (hinside : '\x7d' ∉ inside) (rest : List Char) :
    ErasesFirst (s ++ (token inside ++ rest)) (s ++ rest) :=
  ⟨s, inside, rest, hinside, rfl, rfl, fun _ _ _ hinside' h => hs.length_le hfree hinside' h⟩

/-- There is only one first token. -/
theorem ErasesFirst.unique {s t u : List Char} (ht : ErasesFirst s t) (hu : ErasesFirst s u) :
    t = u := by
  obtain ⟨before, inside, after, hinside, rfl, rfl, hfirst⟩ := ht
  obtain ⟨before', inside', after', hinside', hs, rfl, hfirst'⟩ := hu
  have hlength : before.length = before'.length :=
    Nat.le_antisymm (hfirst _ _ _ hinside' hs) (hfirst' _ _ _ hinside rfl)
  obtain ⟨rfl, htokens⟩ := List.append_inj hs hlength
  rw [token_append, token_append] at htokens
  have hinner := (List.cons.inj (List.cons.inj htokens).2).2
  obtain ⟨-, hafter⟩ := append_brace_inj hinside' hinside hinner
  rw [(List.cons.inj hafter).2]

theorem TokenFree.not_erasesFirst {s t : List Char} (h : TokenFree s) : ¬ErasesFirst s t := by
  rintro ⟨before, inside, after, hinside, hs, -⟩
  exact hinside (h before inside after (by rw [hs, List.append_assoc]))

/-! ### Where erasing ends -/

theorem endsIn_iff_of_erasesFirst {s u t : List Char} (h : ErasesFirst s u) :
    EndsIn s t ↔ EndsIn u t := by
  constructor
  · rintro ⟨hsteps, hfree⟩
    rcases ReflTransGen.cases_head hsteps with rfl | ⟨v, hv, hrest⟩
    · exact absurd h hfree.not_erasesFirst
    · obtain rfl := hv.unique h
      exact ⟨hrest, hfree⟩
  · rintro ⟨hsteps, hfree⟩
    exact ⟨.head h hsteps, hfree⟩

theorem endsIn_iff_of_tokenFree {s t : List Char} (h : TokenFree s) : EndsIn s t ↔ t = s := by
  constructor
  · rintro ⟨hsteps, -⟩
    rcases ReflTransGen.cases_head hsteps with rfl | ⟨v, hv, -⟩
    · rfl
    · exact absurd hv h.not_erasesFirst
  · rintro rfl
    exact ⟨.refl, h⟩

/-- A token after a text that leaves no braces open can be erased before the tokens of that text. -/
theorem endsIn_append_token {s inside : List Char} (hs : Closed s) (hinside : '\x7d' ∉ inside)
    (rest t : List Char) : EndsIn (s ++ (token inside ++ rest)) t ↔ EndsIn (s ++ rest) t := by
  induction hn : s.length using Nat.strong_induction_on generalizing s with
  | _ n ih =>
    by_cases hfree : TokenFree s
    · exact endsIn_iff_of_erasesFirst (erasesFirst_of_closed hs hfree hinside rest)
    · -- the first token of `s` goes first on both sides, and leaves no braces open
      obtain ⟨before, inside', after, hinside', rfl, hbefore, hclosed⟩ := exists_first_token hfree
      have hafter : Closed (before ++ after) := by
        refine hclosed.append (Closed.of_append_right (s := before ++ token inside') ?_)
        rwa [List.append_assoc]
      have hlt : (before ++ after).length < n := by
        rw [← hn, token_append]
        simp only [List.length_append, List.length_cons]
        omega
      have hstep : ∀ x, EndsIn (before ++ (token inside' ++ after) ++ x) t ↔
          EndsIn (before ++ after ++ x) t := by
        intro x
        rw [List.append_assoc, List.append_assoc, List.append_assoc]
        exact endsIn_iff_of_erasesFirst (erasesFirst_of_closed hclosed hbefore hinside' _)
      rw [hstep, hstep, ih _ hlt hafter rfl]

/-! ### Passes -/

theorem erasePass_append_token {s inside : List Char} (hs : Closed s) (hfree : TokenFree s)
    (hinside : '\x7d' ∉ inside) (rest : List Char) :
    erasePass (s ++ (token inside ++ rest)) = s ++ erasePass rest := by
  induction s with
  | nil => exact erasePass_of_afterToken? (afterToken?_eq_some_iff.2 ⟨inside, hinside, rfl⟩)
  | cons c s ih =>
    have hnone : afterToken? (c :: (s ++ (token inside ++ rest))) = none := by
      rw [Option.eq_none_iff_forall_not_mem]
      intro after hafter
      obtain ⟨inside', hinside', he⟩ := afterToken?_eq_some_iff.1 hafter
      have hle : (c :: s).length ≤ ([] : List Char).length := hs.length_le hfree hinside' he
      exact absurd hle (by simp)
    rw [List.cons_append, erasePass_cons_of_none hnone,
      ih (Closed.of_append_right (s := [c]) hs) (tokenFree_cons_iff.1 hfree).2]
    rfl

/-- A pass over what follows a text that leaves no braces open does not change where erasing
ends. -/
theorem endsIn_append_erasePass {s : List Char} (hs : Closed s) (rest t : List Char) :
    EndsIn (s ++ rest) t ↔ EndsIn (s ++ erasePass rest) t := by
  induction hn : rest.length using Nat.strong_induction_on generalizing s rest with
  | _ n ih =>
    by_cases hfree : TokenFree rest
    · rw [erasePass_of_tokenFree hfree]
    · obtain ⟨before, inside, after, hinside, rfl, hbefore, hclosed⟩ := exists_first_token hfree
      have hlt : after.length < n := by
        rw [← hn, token_append]
        simp only [List.length_append, List.length_cons]
        omega
      have hall : Closed (s ++ before) := hs.append hclosed
      rw [erasePass_append_token hclosed hbefore hinside, ← List.append_assoc,
        endsIn_append_token hall hinside, ih _ hlt hall after rfl, List.append_assoc]

theorem endsIn_iff_erasePass (s t : List Char) : EndsIn s t ↔ EndsIn (erasePass s) t :=
  endsIn_append_erasePass closed_nil s t

/-- Passes are repeated until one changes nothing. -/
theorem exists_iterate_erasePass (s : List Char) :
    ∃ n, erasePass^[n + 1] s = erasePass^[n] s ∧
      (∀ m < n, erasePass^[m + 1] s ≠ erasePass^[m] s) ∧ erasePass^[n + 1] s = erase s := by
  fun_induction erase s with
  | case1 s u hlt ih =>
    obtain ⟨n, hstop, hgoes, hresult⟩ := ih
    refine ⟨n + 1, hstop, fun m hm => ?_, hresult⟩
    cases m with
    | zero => exact fun he => absurd hlt (by rw [show u = s from he]; exact Nat.lt_irrefl _)
    | succ m => exact hgoes m (Nat.lt_of_succ_lt_succ hm)
  | case2 s u hle =>
    have hsame : erasePass s = s := ((erasePass_length_lt_or s).resolve_left hle).1
    exact ⟨0, hsame, fun m hm => absurd hm (Nat.not_lt_zero m), rfl⟩

/-- **Passes erase as the plain way does.** The passes come to an end, when one changes nothing, and
the text that is left is the one text without tokens that erasing the first token, again and again,
leads to. -/
theorem erase_endsIn (s : List Char) :
    (∃ n, erasePass^[n + 1] s = erasePass^[n] s ∧
      (∀ m < n, erasePass^[m + 1] s ≠ erasePass^[m] s) ∧ erasePass^[n + 1] s = erase s) ∧
      ∀ t, EndsIn s t ↔ t = erase s := by
  refine ⟨exists_iterate_erasePass s, fun t => ?_⟩
  have hend : EndsIn s t ↔ EndsIn (erase s) t := by
    fun_induction erase s with
    | case1 s u hlt ih => rw [endsIn_iff_erasePass s t, ih]
    | case2 s u hle => exact endsIn_iff_erasePass s t
  rw [hend, endsIn_iff_of_tokenFree (tokenFree_erase s)]

end Template

end PromptForm
