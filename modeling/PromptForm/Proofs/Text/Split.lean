import PromptForm.Text.Cut

/-!
# Splitting and joining

Splitting a text at a character and joining parts with that character are inverse to each other: every
text is the joining of its parts, and parts without the character are the parts of their joining.
-/

namespace PromptForm

namespace Text

variable {separator : Char}

/-! ### Splitting -/

theorem splitOn_cons_self (separator : Char) (s : List Char) :
    splitOn separator (separator :: s) = [] :: splitOn separator s := by
  rw [splitOn]
  split
  · next h => exact absurd h (splitOn_ne_nil separator s)
  · next h => rw [h, if_pos rfl]

/-- A character that is not split at joins the first part. -/
theorem splitOn_cons_of_ne {c : Char} (hc : c ≠ separator) {s part : List Char}
    {parts : List (List Char)} (h : splitOn separator s = part :: parts) :
    splitOn separator (c :: s) = (c :: part) :: parts := by
  rw [splitOn, h]
  exact if_neg hc

/-- A text splits at any of its separators. -/
theorem splitOn_append_cons (separator : Char) (s t : List Char) :
    splitOn separator (s ++ separator :: t) = splitOn separator s ++ splitOn separator t := by
  induction s with
  | nil => exact splitOn_cons_self separator t
  | cons c s ih =>
    rw [List.cons_append]
    by_cases hc : c = separator
    · subst hc
      rw [splitOn_cons_self, splitOn_cons_self, ih]
      rfl
    · obtain ⟨part, parts, h⟩ := List.exists_cons_of_ne_nil (splitOn_ne_nil separator s)
      rw [splitOn_cons_of_ne hc h, splitOn_cons_of_ne hc (by rw [ih, h]; rfl)]
      rfl

theorem splitOn_of_not_mem {s : List Char} (h : separator ∉ s) : splitOn separator s = [s] := by
  induction s with
  | nil => rfl
  | cons c s ih =>
    have hc : c ≠ separator := (List.ne_of_not_mem_cons h).symm
    exact splitOn_cons_of_ne hc (ih (List.not_mem_of_not_mem_cons h))

theorem not_mem_of_mem_splitOn {s part : List Char} (h : part ∈ splitOn separator s) :
    separator ∉ part := by
  induction s generalizing part with
  | nil => simp_all [splitOn]
  | cons c s ih =>
    by_cases hc : c = separator
    · subst hc
      rw [splitOn_cons_self] at h
      rcases List.mem_cons.1 h with rfl | h
      · exact List.not_mem_nil
      · exact ih h
    · obtain ⟨first, parts, hs⟩ := List.exists_cons_of_ne_nil (splitOn_ne_nil separator s)
      rw [splitOn_cons_of_ne hc hs] at h
      rcases List.mem_cons.1 h with rfl | h
      · refine List.not_mem_cons_of_ne_of_not_mem (Ne.symm hc) (ih ?_)
        rw [hs]
        exact List.mem_cons_self
      · exact ih (by rw [hs]; exact List.mem_cons_of_mem _ h)

/-- The characters of a part are characters of the text. -/
theorem mem_of_mem_splitOn {s part : List Char} (h : part ∈ splitOn separator s) {c : Char}
    (hc : c ∈ part) : c ∈ s := by
  induction s generalizing part with
  | nil => simp_all [splitOn]
  | cons d s ih =>
    by_cases hd : d = separator
    · subst hd
      rw [splitOn_cons_self] at h
      rcases List.mem_cons.1 h with rfl | h
      · simp at hc
      · exact List.mem_cons_of_mem d (ih h hc)
    · obtain ⟨first, parts, hs⟩ := List.exists_cons_of_ne_nil (splitOn_ne_nil separator s)
      rw [hs] at ih
      rw [splitOn_cons_of_ne hd hs] at h
      rcases List.mem_cons.1 h with rfl | h
      · rcases List.mem_cons.1 hc with rfl | hc
        · exact List.mem_cons_self
        · exact List.mem_cons_of_mem d (ih List.mem_cons_self hc)
      · exact List.mem_cons_of_mem d (ih (List.mem_cons_of_mem first h) hc)

/-! ### Joining -/

theorem joinWith_cons {separator part : List Char} {parts : List (List Char)} (h : parts ≠ []) :
    joinWith separator (part :: parts) = part ++ separator ++ joinWith separator parts := by
  cases parts with
  | nil => exact absurd rfl h
  | cons next parts => rfl

theorem joinWith_cons_cons (separator : List Char) (c : Char) (part : List Char)
    (parts : List (List Char)) :
    joinWith separator ((c :: part) :: parts) = c :: joinWith separator (part :: parts) := by
  cases parts <;> rfl

theorem joinWith_append {separator : List Char} {parts more : List (List Char)} (hparts : parts ≠ [])
    (hmore : more ≠ []) :
    joinWith separator (parts ++ more) =
      joinWith separator parts ++ separator ++ joinWith separator more := by
  induction parts with
  | nil => exact absurd rfl hparts
  | cons part parts ih =>
    cases parts with
    | nil => exact joinWith_cons hmore
    | cons next parts =>
      have hne : next :: parts ≠ [] := List.cons_ne_nil next parts
      rw [List.cons_append, joinWith_cons (by simp), ih hne, joinWith_cons hne]
      simp only [List.append_assoc]

/-- The separator counts once between any two parts. -/
theorem length_joinWith (separator : List Char) (parts : List (List Char)) :
    (joinWith separator parts).length =
      parts.flatten.length + (parts.length - 1) * separator.length := by
  induction parts with
  | nil => simp [joinWith]
  | cons part parts ih =>
    cases parts with
    | nil => simp [joinWith]
    | cons next parts =>
      have hcount : (part :: next :: parts).length - 1 = (next :: parts).length - 1 + 1 := rfl
      have hflatten : (part :: next :: parts).flatten.length =
          part.length + (next :: parts).flatten.length := List.length_append
      rw [joinWith_cons (List.cons_ne_nil next parts), List.length_append, List.length_append, ih,
        hcount, hflatten, Nat.succ_mul]
      omega

/-- Every text is the joining of its parts. -/
theorem joinWith_splitOn (separator : Char) (s : List Char) :
    joinWith [separator] (splitOn separator s) = s := by
  induction s with
  | nil => rfl
  | cons c s ih =>
    by_cases hc : c = separator
    · subst hc
      rw [splitOn_cons_self, joinWith_cons (splitOn_ne_nil c s), ih]
      rfl
    · obtain ⟨part, parts, h⟩ := List.exists_cons_of_ne_nil (splitOn_ne_nil separator s)
      rw [splitOn_cons_of_ne hc h]
      rw [h] at ih
      cases parts with
      | nil => exact congrArg (c :: ·) ih
      | cons next parts => exact congrArg (c :: ·) ih

/-- Parts without the separator are the parts of their joining. -/
theorem splitOn_joinWith {parts : List (List Char)} (hne : parts ≠ [])
    (h : ∀ part ∈ parts, separator ∉ part) :
    splitOn separator (joinWith [separator] parts) = parts := by
  induction parts with
  | nil => exact absurd rfl hne
  | cons part parts ih =>
    obtain ⟨hpart, hparts⟩ := List.forall_mem_cons.1 h
    cases parts with
    | nil => exact splitOn_of_not_mem hpart
    | cons next parts =>
      have hnext : next :: parts ≠ [] := List.cons_ne_nil next parts
      rw [joinWith_cons hnext, List.append_assoc, List.singleton_append, splitOn_append_cons,
        splitOn_of_not_mem hpart, ih hnext hparts]
      rfl

/-! ### Texts read backwards -/

theorem joinWith_reverse (separator : Char) (parts : List (List Char)) :
    joinWith [separator] (parts.map List.reverse).reverse =
      (joinWith [separator] parts).reverse := by
  induction parts with
  | nil => rfl
  | cons part parts ih =>
    cases parts with
    | nil => rfl
    | cons next parts =>
      have hne : ((next :: parts).map List.reverse).reverse ≠ [] := by simp
      rw [List.map_cons, List.reverse_cons, joinWith_append hne (List.cons_ne_nil _ _), ih,
        joinWith_cons (List.cons_ne_nil next parts)]
      simp [joinWith]

/-- A text read backwards has its parts read backwards, in reverse order. -/
theorem splitOn_reverse (separator : Char) (s : List Char) :
    splitOn separator s.reverse = ((splitOn separator s).map List.reverse).reverse := by
  have hs : s.reverse = joinWith [separator] ((splitOn separator s).map List.reverse).reverse := by
    rw [joinWith_reverse, joinWith_splitOn]
  rw [hs, splitOn_joinWith]
  · simpa using splitOn_ne_nil separator s
  · intro part hpart
    obtain ⟨line, hline, rfl⟩ := List.mem_map.1 (List.mem_reverse.1 hpart)
    rw [List.mem_reverse]
    exact not_mem_of_mem_splitOn hline

end Text

end PromptForm
