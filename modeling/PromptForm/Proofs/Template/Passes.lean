import PromptForm.Proofs.Template.Token

/-!
# The passes over a template

How resolving the blocks of a name and erasing tokens act on the front of a text: a character at
which nothing begins is copied, a block is decided at once, and a token is erased. Putting values in
is the replacing of `Text.replaceAll`, which has its equations there.
-/

namespace PromptForm

namespace Template

open Text

/-! ### Blocks -/

theorem blocks_of_no_opener {name s : List Char} (h : cut? (opener name) s = none) :
    blocks name s = ⟨[], s⟩ := by
  rw [blocks]
  split
  · rfl
  · next hcut => simp [h] at hcut

theorem blocks_of_no_closer {name s before rest : List Char}
    (hopen : cut? (opener name) s = some (before, rest)) (hclose : cut? (closer name) rest = none) :
    blocks name s = ⟨[], s⟩ := by
  rw [blocks]
  split
  · rfl
  · next hcut =>
    obtain ⟨rfl, rfl⟩ := Prod.mk.inj (Option.some.inj (hopen.symm.trans hcut))
    split
    · rfl
    · next hcut' => simp [hclose] at hcut'

theorem blocks_of_cut {name s before rest inside after : List Char}
    (hopen : cut? (opener name) s = some (before, rest))
    (hclose : cut? (closer name) rest = some (inside, after)) :
    blocks name s =
      ⟨(before, inside) :: (blocks name after).blocks, (blocks name after).last⟩ := by
  rw [blocks]
  split
  · next hcut => simp [hopen] at hcut
  · next hcut =>
    obtain ⟨rfl, rfl⟩ := Prod.mk.inj (Option.some.inj (hopen.symm.trans hcut))
    split
    · next hcut' => simp [hclose] at hcut'
    · next hcut' =>
      obtain ⟨rfl, rfl⟩ := Prod.mk.inj (Option.some.inj (hclose.symm.trans hcut'))
      rfl

/-- A text without an opening token is left as it is. -/
theorem resolveName_of_no_opener (keep : Bool) {name s : List Char}
    (h : cut? (opener name) s = none) : resolveName keep name s = s := by
  rw [resolveName, blocks_of_no_opener h]
  cases keep <;> simp [Blocks.kept, Blocks.dropped]

/-- A text in which no closing token follows the first opening one is left as it is. -/
theorem resolveName_of_no_closer (keep : Bool) {name s before rest : List Char}
    (hopen : cut? (opener name) s = some (before, rest)) (hclose : cut? (closer name) rest = none) :
    resolveName keep name s = s := by
  rw [resolveName, blocks_of_no_closer hopen hclose]
  cases keep <;> simp [Blocks.kept, Blocks.dropped]

/-- The first block is decided, and the text after it is resolved. -/
theorem resolveName_of_cut (keep : Bool) {name s before rest inside after : List Char}
    (hopen : cut? (opener name) s = some (before, rest))
    (hclose : cut? (closer name) rest = some (inside, after)) :
    resolveName keep name s =
      before ++ (if keep then inside else []) ++ resolveName keep name after := by
  rw [resolveName, resolveName, blocks_of_cut hopen hclose]
  cases keep <;> simp [Blocks.kept, Blocks.dropped]

/-- A text in which no opening token begins is copied. -/
theorem resolveName_append_of_avoids (keep : Bool) {name s : List Char}
    (h : Avoids (opener name) s) (t : List Char) :
    resolveName keep name (s ++ t) = s ++ resolveName keep name t := by
  have hcut := cut?_append_of_avoids h t
  cases hopen : cut? (opener name) t with
  | none =>
    rw [resolveName_of_no_opener keep hopen,
      resolveName_of_no_opener keep (by rw [hcut, hopen]; rfl)]
  | some found =>
    obtain ⟨before, rest⟩ := found
    have hopen' : cut? (opener name) (s ++ t) = some (s ++ before, rest) := by
      rw [hcut, hopen]
      rfl
    cases hclose : cut? (closer name) rest with
    | none =>
      rw [resolveName_of_no_closer keep hopen hclose, resolveName_of_no_closer keep hopen' hclose]
    | some found =>
      obtain ⟨inside, after⟩ := found
      rw [resolveName_of_cut keep hopen hclose, resolveName_of_cut keep hopen' hclose]
      simp only [List.append_assoc]

/-- A block whose inside has no closing token is kept or dropped. -/
theorem resolveName_block (keep : Bool) {name inside : List Char}
    (h : Avoids (closer name) inside) (t : List Char) :
    resolveName keep name (opener name ++ (inside ++ (closer name ++ t))) =
      (if keep then inside else []) ++ resolveName keep name t := by
  have hopen := cut?_append_self (opener name) (inside ++ (closer name ++ t))
  have hclose : cut? (closer name) (inside ++ (closer name ++ t)) = some (inside, t) := by
    rw [cut?_append_of_avoids h, cut?_append_self]
    simp
  rw [resolveName_of_cut keep hopen hclose, List.nil_append]

/-- Resolving takes something away, unless there is no block. -/
theorem resolveName_length_lt_or (keep : Bool) (name s : List Char) :
    (resolveName keep name s).length < s.length ∨ resolveName keep name s = s := by
  induction s using blocks.induct name with
  | case1 s hopen => exact .inr (resolveName_of_no_opener keep hopen)
  | case2 s before rest hopen hclose => exact .inr (resolveName_of_no_closer keep hopen hclose)
  | case3 s before rest hopen inside after hclose ih =>
    left
    have hs := congrArg List.length (eq_of_cut?_eq_some hopen)
    have hrest := congrArg List.length (eq_of_cut?_eq_some hclose)
    have hafter : (resolveName keep name after).length ≤ after.length := by
      rcases ih with ih | ih
      · exact Nat.le_of_lt ih
      · exact Nat.le_of_eq (congrArg List.length ih)
    have hinside : (if keep then inside else []).length ≤ inside.length := by
      split <;> simp
    rw [resolveName_of_cut keep hopen hclose]
    simp only [List.length_append, opener, closer, List.length_cons] at hs hrest ⊢
    omega

/-- Deciding blocks takes something away, unless there are no blocks. -/
theorem resolve_length_lt_or (data : FormData) (s : List Char) :
    (resolve data s).length < s.length ∨ resolve data s = s := by
  obtain ⟨entries⟩ := data
  induction entries generalizing s with
  | nil => exact .inr rfl
  | cons entry entries ih =>
    have hstep : resolve ⟨entry :: entries⟩ s = resolve ⟨entries⟩ (resolveEntry s entry) := rfl
    rw [hstep]
    have hrest := ih (resolveEntry s entry)
    have hfirst : (resolveEntry s entry).length < s.length ∨ resolveEntry s entry = s :=
      resolveName_length_lt_or (holds entry.2) (nameOf entry.1) s
    rcases hfirst with hfirst | hfirst
    · left
      rcases hrest with hrest | hrest
      · omega
      · rwa [hrest]
    · rw [hfirst] at hrest ⊢
      exact hrest

@[simp] theorem resolveName_nil (keep : Bool) (name : List Char) : resolveName keep name [] = [] :=
  resolveName_of_no_opener keep rfl

/-! ### Erasing -/

theorem erasePass_of_afterToken? {s rest : List Char} (h : afterToken? s = some rest) :
    erasePass s = erasePass rest := by
  rw [erasePass]
  split
  · next hrest => rw [Option.some.inj (h.symm.trans hrest)]
  · next hnone => simp [h] at hnone

theorem erasePass_cons_of_none {c : Char} {s : List Char} (h : afterToken? (c :: s) = none) :
    erasePass (c :: s) = c :: erasePass s := by
  rw [erasePass]
  split
  · next hrest => simp [h] at hrest
  · rfl

@[simp] theorem erasePass_nil : erasePass [] = [] := by
  rw [erasePass]
  split
  · next hrest => simp [afterToken?] at hrest
  · rfl

/-- A text begins with a token when it is two opening braces, a text without a closing brace, two
closing braces, and the rest. -/
theorem afterToken?_eq_some_iff {s rest : List Char} :
    afterToken? s = some rest ↔ ∃ inside, '\x7d' ∉ inside ∧ s = token inside ++ rest := by
  constructor
  · intro h
    unfold afterToken? at h
    split at h
    · next tail =>
      split at h
      · next r hr =>
        refine ⟨tail.takeWhile (fun c => decide (c ≠ '\x7d')), ?_, ?_⟩
        · intro hmem
          simpa using List.all_eq_true.1 List.all_takeWhile _ hmem
        · rw [token_append, ← Option.some.inj h, ← hr, List.takeWhile_append_dropWhile]
      · simp at h
    · simp at h
  · rintro ⟨inside, hinside, rfl⟩
    have hdrop : (inside ++ '\x7d' :: '\x7d' :: rest).dropWhile (fun c => decide (c ≠ '\x7d')) =
        '\x7d' :: '\x7d' :: rest := by
      rw [List.dropWhile_append_of_pos]
      · simp
      · intro c hc
        simpa using ne_of_mem_of_not_mem hc hinside
    rw [token_append, afterToken?, hdrop]
    rfl

/-- A character other than an opening brace begins no token. -/
theorem afterToken?_cons_of_ne {c : Char} (hc : c ≠ '\x7b') (s : List Char) :
    afterToken? (c :: s) = none := by
  rw [Option.eq_none_iff_forall_not_mem]
  intro rest hrest
  obtain ⟨inside, _, h⟩ := afterToken?_eq_some_iff.1 hrest
  rw [token_append] at h
  exact hc (List.cons.inj h).1

/-- A text in which no token begins is copied. -/
theorem erasePass_inert_append {s : List Char} (h : Inert s) (t : List Char) :
    erasePass (s ++ t) = s ++ erasePass t := by
  induction s with
  | nil => rfl
  | cons c s ih =>
    have hnone : afterToken? (c :: (s ++ t)) = none := by
      rw [Option.eq_none_iff_forall_not_mem]
      intro rest hrest
      obtain ⟨inside, hinside, hs⟩ := afterToken?_eq_some_iff.1 hrest
      have hbegins := afterPrefix?_eq_some_iff.2 hs
      rw [(avoids_cons_iff.1 (h inside hinside)).1 t] at hbegins
      cases hbegins
    rw [List.cons_append, erasePass_cons_of_none hnone, ih h.tail]
    rfl

theorem erasePass_token_append {s : List Char} (h : Braceless s) (t : List Char) :
    erasePass (token s ++ t) = erasePass t := by
  exact erasePass_of_afterToken? (afterToken?_eq_some_iff.2 ⟨s, h.not_mem_close, rfl⟩)

theorem erase_inert {s : List Char} (h : Inert s) : erase s = s := by
  have hpass := erasePass_inert_append h []
  rw [List.append_nil, erasePass_nil, List.append_nil] at hpass
  rw [erase, hpass, dif_neg (Nat.lt_irrefl _)]

end Template

end PromptForm
