import PromptForm.Proofs.Number.Decimal

/-!
# The grammar of whole numbers

A whole number is written with a sign or none and with digits of any script, between which single underscores
may stand; white space may stand around it. A text is read as a number exactly when it is written so and has no
more digits than may be read.

## Main definitions

* `Numeral.Digits`: digits with single underscores between them, and their values.
* `Numeral.Denotes`: a text that is written as a whole number, and the number.

## Main results

* `Numeral.readInt?_eq_some_iff`: the texts that are read as a number are those that denote it.
-/

namespace PromptForm

open Text

namespace Text

/-- Digits are no white space. The runs of digits lie apart from each of the ranges of white space. -/
theorem isWhite_of_digitValue? {c : Char} {value : Nat} (h : digitValue? c = some value) :
    isWhite c = false := by
  obtain ⟨first, hfirst, -⟩ := Option.map_eq_some_iff.1 h
  have hrange : first ≤ c.toNat ∧ c.toNat < first + 10 := by simpa using List.find?_some hfirst
  have hapart : first = 0x30 ∨ (0xA0 < first ∧ first + 10 ≤ 0x1680) ∨
      (0x1680 < first ∧ first + 10 ≤ 0x2000) ∨ 0x3000 < first := by
    have hruns : ∀ n ∈ digitZeros, n = 0x30 ∨ (0xA0 < n ∧ n + 10 ≤ 0x1680) ∨
        (0x1680 < n ∧ n + 10 ≤ 0x2000) ∨ 0x3000 < n := by decide
    exact hruns first (List.mem_of_find?_eq_some hfirst)
  simp only [isWhite, Bool.or_eq_false_iff, Bool.and_eq_false_iff, decide_eq_false_iff_not,
    beq_eq_false_iff_ne]
  omega

theorem ne_of_digitValue? {c sign : Char} {value : Nat} (h : digitValue? c = some value)
    (hsign : digitValue? sign = none) : c ≠ sign := by
  rintro rfl
  cases h.symm.trans hsign

/-- White space around a text that neither begins nor ends with it is trimmed. -/
theorem trimWhite_append {before s after : List Char} (hbefore : ∀ c ∈ before, isWhite c)
    (hs : ∀ c ∈ s, isWhite c = false) (hne : s ≠ []) (hafter : ∀ c ∈ after, isWhite c) :
    trimWhite (before ++ (s ++ after)) = s := by
  have hfront : ∀ t u : List Char, (∀ c ∈ t, isWhite c = false) → t ≠ [] →
      (t ++ u).dropWhile isWhite = t ++ u := by
    intro t u ht hne
    obtain ⟨c, t, rfl⟩ := List.exists_cons_of_ne_nil hne
    rw [List.cons_append, List.dropWhile_cons_of_neg]
    simp [ht c List.mem_cons_self]
  have hback : ∀ c ∈ s.reverse, isWhite c = false := fun c hc => hs c (List.mem_reverse.1 hc)
  rw [trimWhite, List.dropWhile_append_of_pos hbefore, hfront s after hs hne, List.reverse_append,
    List.dropWhile_append_of_pos fun c hc => hafter c (List.mem_reverse.1 hc)]
  have hdrop := hfront s.reverse [] hback (by simpa using hne)
  rw [List.append_nil] at hdrop
  rw [hdrop, List.reverse_reverse]

/-- A text is what is left by trimming its white space, with that white space around. -/
theorem exists_trimWhite (s : List Char) :
    ∃ before after, (∀ c ∈ before, isWhite c) ∧ (∀ c ∈ after, isWhite c) ∧
      before ++ (trimWhite s ++ after) = s := by
  refine ⟨s.takeWhile isWhite, (s.dropWhile isWhite).rtakeWhile isWhite,
    fun c => List.mem_takeWhile_imp, fun c => List.mem_rtakeWhile_imp, ?_⟩
  have hend : trimWhite s ++ (s.dropWhile isWhite).rtakeWhile isWhite = s.dropWhile isWhite :=
    List.rdropWhile_append_rtakeWhile
  rw [hend, List.takeWhile_append_dropWhile]

end Text

namespace Numeral

/-! ### Digits with underscores -/

/-- Digits of any script with single underscores between them, and the values of the digits. -/
inductive Digits : List Char → List Nat → Prop
  | last {c : Char} {value : Nat} (digit : digitValue? c = some value) : Digits [c] [value]
  | next {c : Char} {value : Nat} {s : List Char} {values : List Nat} (digit : digitValue? c = some value)
      (rest : Digits s values) : Digits (c :: s) (value :: values)
  | apart {c : Char} {value : Nat} {s : List Char} {values : List Nat} (digit : digitValue? c = some value)
      (rest : Digits s values) : Digits (c :: '_' :: s) (value :: values)

namespace Digits

variable {s : List Char} {values : List Nat}

theorem ne_nil (h : Digits s values) : s ≠ [] := by
  cases h <;> exact List.cons_ne_nil _ _

/-- What is written with digits begins with a digit. -/
theorem exists_head (h : Digits s values) : ∃ c value t, s = c :: t ∧ digitValue? c = some value := by
  cases h with
  | last digit => exact ⟨_, _, _, rfl, digit⟩
  | next digit => exact ⟨_, _, _, rfl, digit⟩
  | apart digit => exact ⟨_, _, _, rfl, digit⟩

theorem not_white (h : Digits s values) : ∀ c ∈ s, isWhite c = false := by
  induction h with
  | last digit =>
    intro c hc
    obtain rfl := List.mem_singleton.1 hc
    exact isWhite_of_digitValue? digit
  | next digit _ ih => exact List.forall_mem_cons.2 ⟨isWhite_of_digitValue? digit, ih⟩
  | apart digit _ ih =>
    exact List.forall_mem_cons.2 ⟨isWhite_of_digitValue? digit, List.forall_mem_cons.2 ⟨by decide, ih⟩⟩

end Digits

theorem digitRun?_of_digit {c : Char} {value : Nat} (h : digitValue? c = some value) (afterDigit : Bool)
    (s : List Char) : digitRun? afterDigit (c :: s) = (digitRun? true s).map (value :: ·) := by
  rw [digitRun?, h]
  rintro _ _ rfl
  cases h.symm.trans (show digitValue? '_' = none by decide)

/-- After a digit a single underscore is passed over, if a digit comes next. -/
theorem digitRun?_underscore {c : Char} {value : Nat} (h : digitValue? c = some value) (s : List Char) :
    digitRun? true ('_' :: c :: s) = (digitRun? true s).map (value :: ·) := by
  simp [digitRun?, h]

theorem digitRun?_of_digits {s : List Char} {values : List Nat} (h : Digits s values)
    (afterDigit : Bool) : digitRun? afterDigit s = some values := by
  induction h generalizing afterDigit with
  | last digit =>
    rw [digitRun?_of_digit digit, digitRun?]
    rfl
  | next digit _ ih =>
    rw [digitRun?_of_digit digit, ih]
    rfl
  | @apart c value s values digit rest ih =>
    obtain ⟨d, first, t, rfl, hfirst⟩ := rest.exists_head
    have hrest := ih true
    rw [digitRun?_of_digit hfirst] at hrest
    rw [digitRun?_of_digit digit, digitRun?_underscore hfirst, hrest]
    rfl

/-- What may stand after a digit: nothing, further digits, or an underscore with digits behind it. -/
inductive Tail : List Char → List Nat → Prop
  | nil : Tail [] []
  | next {s : List Char} {values : List Nat} (rest : Digits s values) : Tail s values
  | apart {s : List Char} {values : List Nat} (rest : Digits s values) : Tail ('_' :: s) values

theorem Tail.cons {s : List Char} {values : List Nat} (h : Tail s values) {c : Char} {value : Nat}
    (digit : digitValue? c = some value) : Digits (c :: s) (value :: values) := by
  cases h with
  | nil => exact .last digit
  | next rest => exact .next digit rest
  | apart rest => exact .apart digit rest

theorem tail_of_digitRun? {afterDigit : Bool} {s : List Char} {values : List Nat}
    (h : digitRun? afterDigit s = some values) : Tail s values := by
  induction afterDigit, s using digitRun?.induct generalizing values with
  | case1 afterDigit =>
    obtain rfl : [] = values := by simpa [digitRun?] using h
    exact .nil
  | case2 c rest value hvalue ih =>
    rw [digitRun?_underscore hvalue] at h
    obtain ⟨values, hrest, rfl⟩ := Option.map_eq_some_iff.1 h
    exact .apart ((ih hrest).cons hvalue)
  | case3 c rest hnone => simp [digitRun?, hnone] at h
  | case4 afterDigit c rest hno => simp [digitRun?, hno] at h
  | case5 afterDigit c rest hplain value hvalue ih =>
    rw [digitRun?_of_digit hvalue] at h
    obtain ⟨values, hrest, rfl⟩ := Option.map_eq_some_iff.1 h
    exact .next ((ih hrest).cons hvalue)
  | case6 afterDigit c rest hplain hnone =>
    rw [digitRun?.eq_3 _ _ _ hplain, hnone] at h
    cases h

theorem digits?_eq_some_iff {s : List Char} {values : List Nat} :
    digits? s = some values ↔ Digits s values := by
  constructor
  · intro h
    rw [digits?] at h
    split at h
    · cases h
    · next hempty =>
      cases tail_of_digitRun? h with
      | nil => exact absurd h hempty
      | next rest => exact rest
      | apart rest =>
        -- no underscore stands at the start
        obtain ⟨c, value, t, rfl, hvalue⟩ := rest.exists_head
        simp [digitRun?] at h
  · intro h
    have hrun := digitRun?_of_digits h false
    rw [digits?, hrun]
    cases h <;> rfl

/-! ### Whole numbers -/

/-- The text is written as the number: a sign or none and digits, with white space around. -/
inductive Denotes : List Char → Int → Prop
  | intro {before sign body after : List Char} {negative : Bool} {values : List Nat}
      (white_before : ∀ c ∈ before, isWhite c) (isSign : Sign sign negative)
      (isDigits : Digits body values) (short : values.length ≤ maxDigits)
      (white_after : ∀ c ∈ after, isWhite c) :
      Denotes (before ++ (sign ++ body ++ after)) (withSign negative (ofDigits 10 values))

theorem Sign.not_white {sign : List Char} {negative : Bool} (h : Sign sign negative) :
    ∀ c ∈ sign, isWhite c = false := by
  cases h with
  | none => exact fun _ hc => absurd hc List.not_mem_nil
  | plus => exact List.forall_mem_singleton.2 rfl
  | minus => exact List.forall_mem_singleton.2 rfl

theorem Sign.signed_digits {sign body : List Char} {negative : Bool} {values : List Nat}
    (h : Sign sign negative) (hbody : Digits body values) : signed (sign ++ body) = (negative, body) := by
  refine h.signed_append_of_ne fun c hc => ?_
  obtain ⟨d, value, t, rfl, hvalue⟩ := hbody.exists_head
  obtain rfl := Option.some.inj hc
  exact ⟨ne_of_digitValue? hvalue (by decide), ne_of_digitValue? hvalue (by decide)⟩

/-- **What is read as a whole number.** A text is read as a number exactly when it is written as that number
with no more digits than may be read. -/
theorem readInt?_eq_some_iff {s : List Char} {n : Int} : readInt? s = some n ↔ Denotes s n := by
  constructor
  · intro h
    obtain ⟨before, after, hbefore, hafter, hs⟩ := exists_trimWhite s
    obtain ⟨sign, hsign, hrest⟩ := exists_sign (trimWhite s)
    rw [← hs, ← hrest]
    rw [readInt?] at h
    generalize signed (trimWhite s) = parts at h hsign
    obtain ⟨negative, body⟩ := parts
    simp only at h hsign
    split at h
    · next values hvalues =>
      split at h
      · next hlength =>
        obtain rfl := Option.some.inj h
        exact .intro hbefore hsign (digits?_eq_some_iff.1 hvalues) hlength hafter
      · cases h
    · cases h
  · intro h
    obtain @⟨before, sign, body, after, negative, values, hbefore, hsign, hdigits, hshort, hafter⟩ := h
    have hwhite := List.forall_mem_append.2 ⟨hsign.not_white, hdigits.not_white⟩
    have hne : sign ++ body ≠ [] := List.append_ne_nil_of_right_ne_nil _ hdigits.ne_nil
    rw [readInt?, trimWhite_append hbefore hwhite hne hafter, hsign.signed_digits hdigits]
    simp only [digits?_eq_some_iff.2 hdigits, hshort, if_true]

example : Denotes " -١_2 ".toList (-12) := readInt?_eq_some_iff.1 (by decide)

end Numeral

end PromptForm
