import Mathlib.Data.List.Induction
import PromptForm.Number.Numeral
import PromptForm.Proofs.Text.Trim
import PromptForm.Schema.Document

/-!
# Reading decimal numerals

The decimal text of a whole number is read as that number, both where a number is all of a text and
where it stands at the start of one. The limit on the number of digits is met exactly by the numbers
that can be read at all.

## Main definitions

* `Numeral.InRange`: the numbers that have no more digits than may be read.
* `Section.Leads`: the digits of a whole number stand at the start of a text, after blanks and a sign.
* `Section.Orders`, `Section.Overlong`: the order that a text states, and the texts with too many digits.

## Main results

* `Numeral.readInt?_toString`, `Section.orderOf_toString`: reading decimal texts.
* `Numeral.inRange_of_readInt?`, `Section.inRange_of_orderOf`: what is read is in range.
* `Section.orderOf_eq_ok_iff`, `Section.orderOf_eq_error_iff`: which order a text gives, and which texts
  give none.
-/

namespace PromptForm

open Text

/-- The numbers that have no more digits than may be read. -/
def Numeral.InRange (n : Int) : Prop := n.natAbs < Nat.pow 10 Numeral.maxDigits

/-! ### Digits -/

namespace Text

theorem asciiDigitValue?_of_isDigit {c : Char} (h : c.isDigit = true) :
    asciiDigitValue? c = some (c.toNat - 48) := by
  obtain ⟨hlow, hhigh⟩ := Char.isDigit_iff_toNat.1 h
  exact if_pos ⟨hlow, hhigh⟩

theorem digitValue?_of_isDigit {c : Char} (h : c.isDigit = true) :
    digitValue? c = some (c.toNat - 48) := by
  obtain ⟨hlow, hhigh⟩ := Char.isDigit_iff_toNat.1 h
  have hlow' : 48 ≤ c.toNat := hlow
  have hhigh' : c.toNat < 58 := Nat.lt_succ_of_le hhigh
  -- the digits of ASCII are the first run
  simp [digitValue?, digitZeros, hlow', hhigh']

theorem isBlank_of_isDigit {c : Char} (h : c.isDigit = true) : isBlank c = false := by
  obtain ⟨hlow, hhigh⟩ := Char.isDigit_iff_toNat.1 h
  have hlow' : 48 ≤ c.toNat := hlow
  have hhigh' : c.toNat ≤ 57 := hhigh
  simp only [isBlank, isWhite, Bool.or_eq_false_iff, Bool.and_eq_false_iff, decide_eq_false_iff_not,
    beq_eq_false_iff_ne]
  omega

theorem digitValue?_lt {c : Char} {value : Nat} (h : digitValue? c = some value) : value < 10 := by
  obtain ⟨first, hfirst, rfl⟩ := Option.map_eq_some_iff.1 h
  have hrange := List.find?_some hfirst
  simp only [Bool.and_eq_true, decide_eq_true_eq] at hrange
  omega

theorem asciiDigitValue?_lt {c : Char} {value : Nat} (h : asciiDigitValue? c = some value) :
    value < 10 := by
  rw [asciiDigitValue?] at h
  split at h
  · next hrange =>
    obtain rfl := Option.some.inj h
    have hhigh : c.toNat ≤ 57 := hrange.2
    change c.toNat - 48 < 10
    omega
  · cases h

theorem ofDigits_append_singleton (digits : List Nat) (digit : Nat) :
    ofDigits 10 (digits ++ [digit]) = ofDigits 10 digits * 10 + digit := by
  simp [ofDigits]

theorem ofDigits_lt {digits : List Nat} (h : ∀ digit ∈ digits, digit < 10) :
    ofDigits 10 digits < Nat.pow 10 digits.length := by
  induction digits using List.reverseRecOn with
  | nil => simp [ofDigits]
  | append_singleton digits digit ih =>
    have hlast : digit < 10 := h digit (by simp)
    have hinit := ih fun d hd => h d (List.mem_append_left _ hd)
    have hpow : Nat.pow 10 (digits.length + 1) = Nat.pow 10 digits.length * 10 := rfl
    rw [ofDigits_append_singleton, List.length_append, List.length_singleton, hpow]
    omega

theorem ofDigits_lt_of_length_le {digits : List Nat} (h : ∀ digit ∈ digits, digit < 10) {k : Nat}
    (hk : digits.length ≤ k) : ofDigits 10 digits < Nat.pow 10 k :=
  Nat.lt_of_lt_of_le (ofDigits_lt h) (Nat.pow_le_pow_right (by decide) hk)

theorem length_toDigits_le {n k : Nat} (hk : 0 < k) (h : n < Nat.pow 10 k) :
    (Nat.toDigits 10 n).length ≤ k :=
  (Nat.length_toDigits_le_iff (by decide) hk).2 h

theorem ofDigits_toDigits (n : Nat) :
    ofDigits 10 ((Nat.toDigits 10 n).map fun c => c.toNat - 48) = n := by
  have h := @Nat.ofDigitChars_ten_toDigits n
  simp only [Nat.ofDigitChars_eq_foldl, Nat.mul_comm 10] at h
  rw [ofDigits, List.foldl_map]
  exact h

end Text

/-! ### Decimal texts -/

namespace Numeral

theorem toList_toString (n : Int) :
    (toString n).toList = (if n < 0 then ['-'] else []) ++ Nat.toDigits 10 n.natAbs := by
  cases n with
  | ofNat m =>
    have hm : ¬Int.ofNat m < 0 := Int.not_lt.2 (Int.natCast_nonneg m)
    rw [if_neg hm]
    exact Nat.toList_repr
  | negSucc m =>
    rw [if_pos (Int.negSucc_lt_zero m)]
    change ("-" ++ (m + 1).repr).toList = _
    rw [String.toList_append, Nat.toList_repr]
    rfl

theorem isDigit_of_mem_toDigits {m : Nat} {c : Char} (h : c ∈ Nat.toDigits 10 m) :
    c.isDigit = true :=
  Nat.isDigit_of_mem_toDigits (by decide) (by decide) h

/-- A sign or none, and whether it makes a number negative. -/
inductive Sign : List Char → Bool → Prop
  | none : Sign [] false
  | plus : Sign ['+'] false
  | minus : Sign ['-'] true

theorem exists_sign (s : List Char) : ∃ sign, Sign sign (signed s).1 ∧ sign ++ (signed s).2 = s := by
  rw [signed.eq_def]
  split
  · exact ⟨_, .minus, rfl⟩
  · exact ⟨_, .plus, rfl⟩
  · exact ⟨_, .none, rfl⟩

/-- A sign is read apart from what comes after it, if that is no second sign. -/
theorem Sign.signed_append_of_ne {sign s : List Char} {negative : Bool} (h : Sign sign negative)
    (hs : ∀ c ∈ s.head?, c ≠ '-' ∧ c ≠ '+') : signed (sign ++ s) = (negative, s) := by
  cases h with
  | plus => rfl
  | minus => rfl
  | none =>
    cases s with
    | nil => rfl
    | cons c s =>
      obtain ⟨hminus, hplus⟩ := hs c rfl
      simp [signed, hminus, hplus]

/-- A sign is read apart from the digits after it. -/
theorem Sign.signed_append {sign s : List Char} {negative : Bool} (h : Sign sign negative)
    (hs : ∀ c ∈ s.head?, c.isDigit = true) : signed (sign ++ s) = (negative, s) := by
  refine h.signed_append_of_ne fun c hc => ⟨?_, ?_⟩
  -- a digit is no sign
  · rintro rfl
    exact Bool.noConfusion (hs _ hc)
  · rintro rfl
    exact Bool.noConfusion (hs _ hc)

theorem Sign.not_blank {sign : List Char} {negative : Bool} (h : Sign sign negative) :
    ∀ c ∈ sign.head?, isBlank c = false := by
  cases h with
  | none =>
    rintro _ ⟨⟩
  | plus =>
    rintro _ ⟨⟩
    rfl
  | minus =>
    rintro _ ⟨⟩
    rfl

theorem sign_toString (n : Int) : Sign (if n < 0 then ['-'] else []) (decide (n < 0)) := by
  by_cases hn : n < 0
  · simpa [hn] using Sign.minus
  · simpa [hn] using Sign.none

/-- The sign of a decimal text is read apart from its digits. -/
theorem signed_toString (n : Int) :
    signed (toString n).toList = (decide (n < 0), Nat.toDigits 10 n.natAbs) := by
  rw [toList_toString]
  exact (sign_toString n).signed_append fun c hc => isDigit_of_mem_toDigits (List.mem_of_mem_head? hc)

theorem withSign_natAbs (n : Int) : withSign (decide (n < 0)) n.natAbs = n := by
  by_cases hn : n < 0
  · simp only [withSign, hn, decide_true, if_true]
    omega
  · simp only [withSign, hn, decide_false, Bool.false_eq_true, if_false]
    omega

theorem natAbs_withSign (negative : Bool) (n : Nat) : (withSign negative n).natAbs = n := by
  cases negative <;> simp [withSign]

theorem InRange.length_toDigits {n : Int} (h : InRange n) :
    (Nat.toDigits 10 n.natAbs).length ≤ maxDigits :=
  length_toDigits_le (by decide) h

/-- A number that is written with few enough digits is in range. -/
theorem inRange_withSign (negative : Bool) {digits : List Nat} (h : ∀ digit ∈ digits, digit < 10)
    (hlength : digits.length ≤ maxDigits) : InRange (withSign negative (ofDigits 10 digits)) := by
  rw [InRange, natAbs_withSign]
  exact ofDigits_lt_of_length_le h hlength

theorem isBlank_of_mem_toString {n : Int} {c : Char} (h : c ∈ (toString n).toList) :
    isBlank c = false := by
  rw [toList_toString] at h
  rcases List.mem_append.1 h with h | h
  · split at h
    · obtain rfl := List.mem_singleton.1 h
      rfl
    · cases h
  · exact isBlank_of_isDigit (isDigit_of_mem_toDigits h)

/-! ### A number that is all of a text -/

theorem digitRun?_cons {c : Char} (hc : c.isDigit = true) (afterDigit : Bool) (s : List Char) :
    digitRun? afterDigit (c :: s) = (digitRun? true s).map ((c.toNat - 48) :: ·) := by
  rw [digitRun?]
  · rw [digitValue?_of_isDigit hc]
  · rintro _ _ rfl
    exact absurd hc (by decide)

theorem digitRun?_of_isDigit {s : List Char} (h : ∀ c ∈ s, c.isDigit = true) (afterDigit : Bool) :
    digitRun? afterDigit s = some (s.map fun c => c.toNat - 48) := by
  induction s generalizing afterDigit with
  | nil => simp [digitRun?]
  | cons c s ih =>
    obtain ⟨hc, hs⟩ := List.forall_mem_cons.1 h
    rw [digitRun?_cons hc, ih hs]
    rfl

theorem digitRun?_lt {afterDigit : Bool} {s : List Char} {digits : List Nat}
    (h : digitRun? afterDigit s = some digits) : ∀ digit ∈ digits, digit < 10 := by
  induction afterDigit, s using digitRun?.induct generalizing digits with
  | case1 afterDigit =>
    simp only [digitRun?, Option.some.injEq] at h
    simp [← h]
  | case2 c rest value hvalue ih =>
    simp only [digitRun?, if_true, hvalue] at h
    obtain ⟨digits, hdigits, rfl⟩ := Option.map_eq_some_iff.1 h
    exact List.forall_mem_cons.2 ⟨digitValue?_lt hvalue, ih hdigits⟩
  | case3 c rest hnone => simp [digitRun?, hnone] at h
  | case4 afterDigit c rest hno => simp [digitRun?, hno] at h
  | case5 afterDigit c rest hplain value hvalue ih =>
    rw [digitRun?.eq_3 _ _ _ hplain, hvalue] at h
    obtain ⟨digits, hdigits, rfl⟩ := Option.map_eq_some_iff.1 h
    exact List.forall_mem_cons.2 ⟨digitValue?_lt hvalue, ih hdigits⟩
  | case6 afterDigit c rest hplain hnone =>
    rw [digitRun?.eq_3 _ _ _ hplain, hnone] at h
    cases h

/-- A number that is read has no more digits than may be read. -/
theorem inRange_of_readInt? {s : List Char} {n : Int} (h : readInt? s = some n) : InRange n := by
  rw [readInt?] at h
  -- the sign does not matter, only how many digits follow
  generalize signed (trimWhite s) = parts at h
  obtain ⟨negative, rest⟩ := parts
  simp only at h
  split at h
  · next digits hdigits =>
    split at h
    · next hlength =>
      obtain rfl := Option.some.inj h
      have hlt : ∀ digit ∈ digits, digit < 10 := by
        rw [digits?] at hdigits
        split at hdigits
        · cases hdigits
        · exact digitRun?_lt hdigits
      exact inRange_withSign _ hlt hlength
    · cases h
  · cases h

theorem trimWhite_of_not_white {s : List Char} (h : ∀ c ∈ s, isWhite c = false) :
    trimWhite s = s := by
  have hstart : ∀ {t : List Char}, (∀ c ∈ t, isWhite c = false) → t.dropWhile isWhite = t := by
    intro t ht
    cases t with
    | nil => rfl
    | cons c t => simp [ht c List.mem_cons_self]
  rw [trimWhite, hstart h, hstart fun c hc => h c (List.mem_reverse.1 hc), List.reverse_reverse]

/-- The decimal text of a number in range is read as that number. -/
theorem readInt?_toString {n : Int} (h : InRange n) : readInt? (toString n).toList = some n := by
  have hdigits : digits? (Nat.toDigits 10 n.natAbs) =
      some ((Nat.toDigits 10 n.natAbs).map fun c => c.toNat - 48) := by
    rw [digits?, digitRun?_of_isDigit fun c => isDigit_of_mem_toDigits]
    split
    · next hnil => simp at hnil
    · rfl
  have htrim : trimWhite (toString n).toList = (toString n).toList :=
    trimWhite_of_not_white fun c hc => (Bool.or_eq_false_iff.1 (isBlank_of_mem_toString hc)).1
  rw [readInt?, htrim, signed_toString]
  simp only [hdigits, List.length_map, h.length_toDigits, if_true, ofDigits_toDigits,
    withSign_natAbs]

end Numeral

/-! ### A number at the start of a text -/

namespace Numeral

theorem spanDigits_append {ds rest : List Char} (h : ∀ c ∈ ds, c.isDigit = true)
    (hrest : ∀ c ∈ rest.head?, c.isDigit = false) :
    spanDigits (ds ++ rest) = (ds.map fun c => c.toNat - 48, rest) := by
  have htake : rest.takeWhile Char.isDigit = [] := by
    cases rest with
    | nil => rfl
    | cons c rest => simp [hrest c rfl]
  have hdrop : rest.dropWhile Char.isDigit = rest := by
    cases rest with
    | nil => rfl
    | cons c rest => simp [hrest c rfl]
  have hvalues : ds.filterMap asciiDigitValue? = ds.map fun c => c.toNat - 48 := by
    rw [← List.filterMap_eq_map']
    exact List.filterMap_congr fun c hc => asciiDigitValue?_of_isDigit (h c hc)
  rw [spanDigits, List.takeWhile_append_of_pos h, List.dropWhile_append_of_pos h, htake, hdrop,
    List.append_nil, hvalues]

end Numeral

namespace Section

open Numeral

/-- The text begins with the digits of a whole number, after blanks and perhaps a sign. -/
inductive Leads : List Char → Bool → List Char → Prop
  | intro {blanks sign digits rest : List Char} {negative : Bool}
      (blank : ∀ c ∈ blanks, isBlank c = true) (sign_eq : Sign sign negative) (ne : digits ≠ [])
      (digit : ∀ c ∈ digits, c.isDigit = true) (stop : ∀ c ∈ rest.head?, c.isDigit = false) :
      Leads (blanks ++ (sign ++ (digits ++ rest))) negative digits

/-- The text begins with more digits than a number may have. -/
def Overlong (s : List Char) : Prop :=
  ∃ negative digits, Leads s negative digits ∧ maxDigits < digits.length

/-- The order that a text states: the whole number at its start, and zero without one. -/
inductive Orders (s : List Char) : Int → Prop
  | number {negative : Bool} {digits : List Char} (h : Leads s negative digits) :
      Orders s (withSign negative (ofDigits 10 (digits.map fun c => c.toNat - 48)))
  | zero (h : ∀ negative digits, ¬Leads s negative digits) : Orders s 0

variable {s : List Char} {negative : Bool} {digits : List Char}

theorem Leads.isDigit (h : Leads s negative digits) : ∀ c ∈ digits, c.isDigit = true := by
  cases h with
  | intro _ _ _ digit _ => exact digit

theorem leadingNumber?_of_leads (h : Leads s negative digits) :
    leadingNumber? s = some (negative, digits.map fun c => c.toNat - 48) := by
  obtain @⟨blanks, sign, digits, rest, negative, hblank, hsign, hne, hdigit, hstop⟩ := h
  obtain ⟨c, cs, rfl⟩ := List.exists_cons_of_ne_nil hne
  have hc : c.isDigit = true := hdigit c List.mem_cons_self
  have htrim : trimStart (blanks ++ (sign ++ (c :: cs ++ rest))) = sign ++ (c :: cs ++ rest) := by
    rw [trimStart_append hblank, trimStart_eq_self_iff]
    cases sign with
    | nil =>
      rintro _ ⟨⟩
      exact isBlank_of_isDigit hc
    | cons d ds => exact hsign.not_blank
  have hsigned : signed (sign ++ (c :: cs ++ rest)) = (negative, c :: cs ++ rest) :=
    hsign.signed_append (by rintro _ ⟨⟩; exact hc)
  rw [leadingNumber?, htrim, hsigned]
  simp only [spanDigits_append hdigit hstop]
  rfl

/-- Without digits at its start, a text has no leading number. -/
theorem leadingNumber?_of_not_leads (h : ∀ negative digits, ¬Leads s negative digits) :
    leadingNumber? s = none := by
  obtain ⟨sign, hsign, hrest⟩ := exists_sign (trimStart s)
  rw [leadingNumber?]
  generalize signed (trimStart s) = parts at hsign hrest
  obtain ⟨negative, rest⟩ := parts
  simp only at hsign hrest
  have hnone : rest.takeWhile Char.isDigit = [] := by
    by_contra hne
    refine h negative (rest.takeWhile Char.isDigit) ?_
    have hs : s.takeWhile isBlank ++ (sign ++ (rest.takeWhile Char.isDigit ++
        rest.dropWhile Char.isDigit)) = s := by
      rw [List.takeWhile_append_dropWhile, hrest, trimStart, List.takeWhile_append_dropWhile]
    rw [← hs]
    refine .intro (fun c => List.mem_takeWhile_imp) hsign hne (fun c => List.mem_takeWhile_imp) ?_
    intro c hc
    have hhead := List.head?_dropWhile_not Char.isDigit rest
    rwa [Option.mem_def.1 hc] at hhead
  simp only [spanDigits, hnone, List.filterMap_nil]

/-- The digits at the start of a text decide on the order. -/
theorem orderOf_of_leads {s : String} (h : Leads s.toList negative digits) :
    orderOf s =
      if digits.length ≤ maxDigits then
        .ok (withSign negative (ofDigits 10 (digits.map fun c => c.toNat - 48)))
      else .error .numberTooLong := by
  rw [orderOf, leadingNumber?_of_leads h]
  simp only [List.length_map]

theorem Leads.length_eq {negative' : Bool} {digits' : List Char} (h : Leads s negative digits)
    (h' : Leads s negative' digits') : digits.length = digits'.length := by
  have hsame := (leadingNumber?_of_leads h).symm.trans (leadingNumber?_of_leads h')
  have hdigits := congrArg List.length (Prod.mk.inj (Option.some.inj hsame)).2
  rwa [List.length_map, List.length_map] at hdigits

theorem Leads.not_overlong (h : Leads s negative digits) (hlength : digits.length ≤ maxDigits) :
    ¬Overlong s := by
  rintro ⟨negative', digits', h', hlong⟩
  have := h.length_eq h'
  omega

theorem exists_orders (s : List Char) : ∃ n, Orders s n := by
  by_cases hleads : ∃ negative digits, Leads s negative digits
  · obtain ⟨negative, digits, h⟩ := hleads
    exact ⟨_, .number h⟩
  · exact ⟨0, .zero fun negative digits h => hleads ⟨negative, digits, h⟩⟩

/-- **The order of a section.** A text that does not begin with too many digits gives the order that it
states. -/
theorem orderOf_eq_ok_iff {s : String} {n : Int} :
    orderOf s = .ok n ↔ ¬Overlong s.toList ∧ Orders s.toList n := by
  by_cases hleads : ∃ negative digits, Leads s.toList negative digits
  · obtain ⟨negative, digits, h⟩ := hleads
    rw [orderOf_of_leads h]
    constructor
    · intro hn
      split at hn
      · next hlength =>
        obtain rfl := Except.ok.inj hn
        exact ⟨h.not_overlong hlength, .number h⟩
      · cases hn
    · rintro ⟨hshort, horder⟩
      have hlength : digits.length ≤ maxDigits :=
        Nat.le_of_not_lt fun hlong => hshort ⟨negative, digits, h, hlong⟩
      rw [if_pos hlength]
      cases horder with
      | number h' =>
        obtain ⟨rfl, hdigits⟩ := Prod.mk.inj (Option.some.inj
          ((leadingNumber?_of_leads h).symm.trans (leadingNumber?_of_leads h')))
        rw [hdigits]
      | zero hnone => exact absurd h (hnone _ _)
  · have hnone : ∀ negative digits, ¬Leads s.toList negative digits := fun negative digits h =>
      hleads ⟨negative, digits, h⟩
    rw [orderOf, leadingNumber?_of_not_leads hnone]
    constructor
    · intro hn
      obtain rfl := Except.ok.inj hn
      exact ⟨fun ⟨negative, digits, h, _⟩ => hnone negative digits h, .zero hnone⟩
    · rintro ⟨-, horder⟩
      cases horder with
      | number h => exact absurd h (hnone _ _)
      | zero => rfl

theorem orderOf_eq_error_iff {s : String} {e : Fault} :
    orderOf s = .error e ↔ Overlong s.toList ∧ e = .numberTooLong := by
  constructor
  · intro he
    have hlong : Overlong s.toList := by
      by_contra hshort
      obtain ⟨n, hn⟩ := exists_orders s.toList
      rw [orderOf_eq_ok_iff.2 ⟨hshort, hn⟩] at he
      cases he
    obtain ⟨negative, digits, h, hlength⟩ := hlong
    rw [orderOf_of_leads h, if_neg (Nat.not_le_of_lt hlength)] at he
    exact ⟨⟨negative, digits, h, hlength⟩, (Except.error.inj he).symm⟩
  · rintro ⟨⟨negative, digits, h, hlength⟩, rfl⟩
    rw [orderOf_of_leads h, if_neg (Nat.not_le_of_lt hlength)]

theorem inRange_of_orderOf {s : String} {n : Int} (h : orderOf s = .ok n) : InRange n := by
  obtain ⟨hshort, horder⟩ := orderOf_eq_ok_iff.1 h
  cases horder with
  | zero => exact inRange_withSign false (fun _ h => absurd h List.not_mem_nil) (Nat.zero_le _)
  | @number negative digits hleads =>
    have hlength : digits.length ≤ maxDigits :=
      Nat.le_of_not_lt fun hlong => hshort ⟨negative, digits, hleads, hlong⟩
    refine inRange_withSign _ (fun digit hdigit => ?_) (by rwa [List.length_map])
    obtain ⟨c, hc, rfl⟩ := List.mem_map.1 hdigit
    exact asciiDigitValue?_lt (asciiDigitValue?_of_isDigit (hleads.isDigit c hc))

/-- A sign and digits are a text that begins with the digits. -/
theorem leads_append {sign : List Char} (hsign : Sign sign negative) (hne : digits ≠ [])
    (hdigit : ∀ c ∈ digits, c.isDigit = true) : Leads (sign ++ digits) negative digits := by
  have h := @Leads.intro [] sign digits [] negative (fun _ h => absurd h List.not_mem_nil) hsign hne
    hdigit (fun _ h => absurd h (by simp))
  rwa [List.nil_append, List.append_nil] at h

/-- A decimal text begins with all of its digits. -/
theorem leads_toString (n : Int) :
    Leads (toString n).toList (decide (n < 0)) (Nat.toDigits 10 n.natAbs) := by
  rw [toList_toString]
  exact leads_append (sign_toString n) (@Nat.toDigits_ne_nil n.natAbs 10)
    fun c => isDigit_of_mem_toDigits

/-- The decimal text of a number in range gives that number as the order. -/
theorem orderOf_toString {n : Int} (h : InRange n) : orderOf (toString n) = .ok n := by
  rw [orderOf_of_leads (leads_toString n), if_pos h.length_toDigits, ofDigits_toDigits,
    withSign_natAbs]

end Section

end PromptForm
