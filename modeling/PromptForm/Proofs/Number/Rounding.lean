import Mathlib.Algebra.Order.Archimedean.Basic
import Mathlib.Algebra.Order.Field.Power
import Mathlib.Algebra.Order.Floor.Semifield
import Mathlib.Data.Rat.Floor
import Mathlib.Tactic.FieldSimp
import Mathlib.Tactic.Linarith
import Mathlib.Tactic.Positivity
import PromptForm.Number.Binary64

/-!
# Rounding to binary numbers

A quotient of whole numbers is rounded to the nearest number with a mantissa of 53 bits, as long as its
size is one that the format has. The error is at most one part in `2 ^ 53 + 1`, and a whole number of the
same scale is not passed by rounding.

## Main definitions

* `Binary64.Nearest`: the nearest whole number, a half going to the even neighbour.
* `Binary64.Normal`: the exponent at which a number has a mantissa of 53 bits.
* `Binary64.Rounds`: a number and the nearest one with such a mantissa.
* `Binary64.Holds`: a finite number has a sign and a size.

## Main results

* `Binary64.holds_ofRatio`: what a quotient is rounded to.
* `Binary64.Rounds.dist_le`: the error of rounding.
-/

namespace PromptForm

namespace Binary64

/-! ### The nearest whole number -/

/-- The whole number is nearest to `q`, a half going to the even neighbour. -/
structure Nearest (q : ℚ) (n : ℕ) : Prop where
  dist : |q - n| ≤ 1 / 2
  even : |q - n| = 1 / 2 → Even n

/-- A division that is rounded gives the nearest whole number. -/
theorem nearest_roundDiv (num : ℕ) {den : ℕ} (hden : 0 < den) :
    Nearest (num / den) (roundDiv num den) := by
  have hpos : (0 : ℚ) < den := by exact_mod_cast hden
  obtain ⟨t, ht⟩ : ∃ t, t = num / den := ⟨_, rfl⟩
  obtain ⟨r, hr⟩ : ∃ r, r = num % den := ⟨_, rfl⟩
  have hlt : r < den := hr ▸ Nat.mod_lt num hden
  have hnum : (num : ℚ) / den = t + r / den := by
    have h : (num : ℚ) = den * t + r := by
      rw [ht, hr]
      exact_mod_cast (Nat.div_add_mod num den).symm
    rw [h]
    field_simp
  rw [hnum, roundDiv, ← ht, ← hr]
  split
  · next hup =>
    -- the rest is at least half of the divisor
    have hhalf : (den : ℚ) ≤ 2 * r := by
      have h : den ≤ 2 * r := by omega
      exact_mod_cast h
    have hdist : |(t : ℚ) + r / den - (t + 1 : ℕ)| = 1 - r / den := by
      have h : (r : ℚ) / den ≤ 1 := by
        rw [div_le_one hpos]
        exact_mod_cast hlt.le
      rw [abs_sub_comm, abs_of_nonneg] <;> push_cast <;> linarith
    refine ⟨?_, fun h => ?_⟩
    · rw [hdist, sub_le_comm, le_div_iff₀ hpos]
      linarith
    · have heq : 2 * r = den := by
        rw [hdist] at h
        have h : (r : ℚ) / den = 1 / 2 := by linarith
        rw [div_eq_iff hpos.ne'] at h
        have h : (2 * r : ℚ) = den := by linarith
        exact_mod_cast h
      have hodd : t % 2 = 1 := by omega
      exact Nat.even_iff.2 (by omega)
  · next hdown =>
    have hhalf : (2 * r : ℚ) ≤ den := by
      have h : 2 * r ≤ den := by omega
      exact_mod_cast h
    have hdist : |(t : ℚ) + r / den - (t : ℕ)| = r / den := by
      rw [add_sub_cancel_left, abs_of_nonneg (by positivity)]
    refine ⟨?_, fun h => ?_⟩
    · rw [hdist, div_le_iff₀ hpos]
      linarith
    · have heq : 2 * r = den := by
        rw [hdist, div_eq_iff hpos.ne'] at h
        have h : (2 * r : ℚ) = den := by linarith
        exact_mod_cast h
      exact Nat.even_iff.2 (by omega)

namespace Nearest

variable {q : ℚ} {n k : ℕ}

theorem bounds (h : Nearest q n) : q - 1 / 2 ≤ n ∧ (n : ℚ) ≤ q + 1 / 2 := by
  have hdist := abs_le.1 h.dist
  constructor <;> linarith

/-- A whole number that is not passed is not passed by rounding. -/
theorem le_of_le (h : Nearest q n) (hk : (k : ℚ) ≤ q) : k ≤ n := by
  have hlt : (k : ℚ) < n + 1 := by linarith [h.bounds.1]
  exact Nat.lt_succ_iff.1 (by exact_mod_cast hlt)

/-- An even number is reached from a half below it on. -/
theorem even_le_iff (h : Nearest q n) : 2 * k ≤ n ↔ (2 * k : ℕ) - 1 / 2 ≤ q := by
  constructor
  · intro hle
    have hle : ((2 * k : ℕ) : ℚ) ≤ n := by exact_mod_cast hle
    linarith [h.bounds.2]
  · intro hge
    by_contra hlt
    have hlt : (n : ℚ) + 1 ≤ (2 * k : ℕ) := by exact_mod_cast Nat.not_le.1 hlt
    -- only the odd number below is as near, and a half does not go to it
    have hhalf : q - n = 1 / 2 := by linarith [h.bounds.1]
    have hn : n + 1 = 2 * k := by
      have heq : (n : ℚ) + 1 = (2 * k : ℕ) := by linarith
      exact_mod_cast heq
    have heven := h.even (by rw [hhalf]; norm_num)
    rw [Nat.even_iff] at heven
    omega

/-- A whole number at less than a half is the nearest one. -/
theorem eq_of_dist_lt (h : Nearest q n) (hk : |q - k| < 1 / 2) : n = k := by
  obtain ⟨hlow, hhigh⟩ := abs_lt.1 hk
  have hle : (n : ℚ) < k + 1 := by linarith [h.bounds.2]
  have hge : (k : ℚ) < n + 1 := by linarith [h.bounds.1]
  have hle : n < k + 1 := by exact_mod_cast hle
  have hge : k < n + 1 := by exact_mod_cast hge
  omega

end Nearest

/-! ### The exponent of a number -/

/-- At the exponent, the number has a mantissa of 53 bits. -/
structure Normal (q : ℚ) (e : ℤ) : Prop where
  le : 2 ^ 52 * 2 ^ e ≤ q
  lt : q < 2 ^ 53 * 2 ^ e

theorem exists_normal {q : ℚ} (hq : 0 < q) : ∃ e, Normal q e := by
  obtain ⟨n, hlow, hhigh⟩ := exists_mem_Ico_zpow hq (one_lt_two : (1 : ℚ) < 2)
  refine ⟨n - 52, ?_, ?_⟩
  · rw [← zpow_natCast, ← zpow_add₀ two_ne_zero]
    simpa using hlow
  · rw [← zpow_natCast, ← zpow_add₀ two_ne_zero]
    have h : ((53 : ℕ) : ℤ) + (n - 52) = n + 1 := by push_cast; ring
    rwa [h]

namespace Normal

variable {q : ℚ} {e d : ℤ}

theorem pos (h : Normal q e) : 0 < q := by
  have hpos : (0 : ℚ) < 2 ^ 52 * 2 ^ e := by positivity
  exact hpos.trans_le h.le

/-- A power of two at which the number is not too great. -/
theorem lt_of_lt_zpow (h : Normal q e) {n : ℤ} (hq : q < 2 ^ n) : e < n - 52 := by
  have hlt := h.le.trans_lt hq
  rw [← zpow_natCast, ← zpow_add₀ two_ne_zero, zpow_lt_zpow_iff_right₀ one_lt_two] at hlt
  push_cast at hlt
  omega

theorem lt_of_zpow_le (h : Normal q e) {n : ℤ} (hq : 2 ^ n ≤ q) : n - 53 < e := by
  have hlt := hq.trans_lt h.lt
  rw [← zpow_natCast, ← zpow_add₀ two_ne_zero, zpow_lt_zpow_iff_right₀ one_lt_two] at hlt
  push_cast at hlt
  omega

theorem unique (h : Normal q e) (h' : Normal q d) : e = d := by
  have hle : ∀ {e d : ℤ}, Normal q e → Normal q d → e ≤ d := by
    intro e d h h'
    have hlt : q < 2 ^ (d + 53) := by
      have := h'.lt
      rwa [← zpow_natCast, ← zpow_add₀ two_ne_zero, add_comm] at this
    have := h.lt_of_lt_zpow hlt
    omega
  exact le_antisymm (hle h h') (hle h' h)

end Normal

/-- The parts of a quotient at an exponent. -/
theorem scaled_div (num : ℕ) {den : ℕ} (hden : 0 < den) (e : ℤ) :
    0 < (scaled num den e).2 ∧
      ((scaled num den e).1 : ℚ) / (scaled num den e).2 = num / den / 2 ^ e := by
  have htwo : ∀ n : ℕ, ((Nat.pow 2 n : ℕ) : ℚ) = 2 ^ n := fun n => by
    exact_mod_cast rfl
  constructor
  · exact Nat.mul_pos hden (Nat.pow_pos two_pos)
  · rw [scaled]
    simp only [Nat.cast_mul, htwo]
    rcases le_total 0 e with he | he
    · obtain ⟨n, rfl⟩ := Int.eq_ofNat_of_zero_le he
      simp [div_div]
    · obtain ⟨n, rfl⟩ := Int.exists_eq_neg_ofNat he
      simp only [neg_neg, Int.toNat_natCast, Int.toNat_neg_natCast, pow_zero, mul_one, zpow_neg,
        zpow_natCast]
      field_simp

/-- The size of a quotient as the numbers of bits of its parts tell it. -/
theorem log2_bounds {num den : ℕ} (hnum : 0 < num) (hden : 0 < den) :
    (2 : ℚ) ^ ((num.log2 : ℤ) - den.log2 - 1) ≤ num / den ∧
      (num : ℚ) / den < 2 ^ ((num.log2 : ℤ) - den.log2 + 1) := by
  have hpos : (0 : ℚ) < den := by exact_mod_cast hden
  have hnum₁ : (2 : ℚ) ^ num.log2 ≤ num := by exact_mod_cast Nat.log2_self_le hnum.ne'
  have hnum₂ : (num : ℚ) < 2 ^ num.log2 * 2 := by
    rw [← pow_succ]
    exact_mod_cast Nat.lt_log2_self
  have hden₁ : (2 : ℚ) ^ den.log2 ≤ den := by exact_mod_cast Nat.log2_self_le hden.ne'
  have hden₂ : (den : ℚ) < 2 ^ den.log2 * 2 := by
    rw [← pow_succ]
    exact_mod_cast Nat.lt_log2_self
  have htwo : (0 : ℚ) < 2 ^ den.log2 := by positivity
  rw [zpow_sub₀ two_ne_zero, zpow_sub₀ two_ne_zero, zpow_add₀ two_ne_zero, zpow_sub₀ two_ne_zero]
  simp only [zpow_natCast, zpow_one]
  constructor
  · rw [div_div, div_le_div_iff₀ (by positivity) hpos]
    exact mul_le_mul hnum₁ hden₂.le hpos.le (by positivity)
  · rw [div_mul_eq_mul_div, div_lt_div_iff₀ hpos htwo]
    exact mul_lt_mul hnum₂ hden₁ htwo (by positivity)

/-- The exponent that is found is the one of the number. -/
theorem exponentOf_eq {num den : ℕ} {e : ℤ} (hnum : 0 < num) (hden : 0 < den)
    (h : Normal (num / den) e) (he : minExponent ≤ e) : exponentOf num den = e := by
  obtain ⟨hlow, hhigh⟩ := log2_bounds hnum hden
  have hle := h.lt_of_lt_zpow hhigh
  have hge := h.lt_of_zpow_le hlow
  -- at an exponent that is too small the quotient has more than 53 bits
  have hsize : ∀ d : ℤ, (scaled num den d).1 / (scaled num den d).2 < Nat.pow 2 53 ↔
      (num : ℚ) / den / 2 ^ d < 2 ^ 53 := by
    intro d
    obtain ⟨hpos, hdiv⟩ := scaled_div num hden d
    have hpos' : (0 : ℚ) < (scaled num den d).2 := by exact_mod_cast hpos
    rw [← hdiv, div_lt_iff₀ hpos', Nat.div_lt_iff_lt_mul hpos]
    exact_mod_cast Iff.rfl
  have hfits : ∀ d : ℤ, (num : ℚ) / den / 2 ^ d < 2 ^ 53 ↔ e ≤ d := by
    intro d
    rw [div_lt_iff₀ (zpow_pos two_pos d)]
    constructor
    · intro hlt
      rw [← zpow_natCast, ← zpow_add₀ two_ne_zero] at hlt
      have := h.lt_of_lt_zpow hlt
      push_cast at this
      omega
    · intro hed
      refine h.lt.trans_le (mul_le_mul_of_nonneg_left ?_ (by positivity))
      exact zpow_le_zpow_right₀ one_le_two hed
  rw [exponentOf]
  simp only [hsize, hfits]
  split <;> omega

/-! ### Rounding -/

/-- The nearest number with a mantissa of 53 bits. -/
def Rounds (q p : ℚ) : Prop :=
  ∃ (e : ℤ) (n : ℕ), Normal q e ∧ Nearest (q / 2 ^ e) n ∧ p = n * 2 ^ e

/-- The finite number with a sign and a size. -/
def Holds (x : Binary64) (negative : Bool) (q : ℚ) : Prop :=
  ∃ mantissa exponent, x = .finite negative mantissa exponent ∧ (mantissa : ℚ) * 2 ^ exponent = q

namespace Rounds

variable {q p : ℚ}

/-- What is at the exponent of the number is a multiple of its last place. -/
theorem of_normal (h : Rounds q p) {e : ℤ} (he : Normal q e) :
    ∃ n : ℕ, Nearest (q / 2 ^ e) n ∧ p = n * 2 ^ e := by
  obtain ⟨d, n, hd, hn, hp⟩ := h
  obtain rfl := hd.unique he
  exact ⟨n, hn, hp⟩

/-- Rounding is off by one part in `2 ^ 53 + 1` at most. -/
theorem dist_le (h : Rounds q p) : |p - q| * (2 ^ 53 + 1) ≤ q := by
  obtain ⟨e, n, he, hn, rfl⟩ := h
  have hpos : (0 : ℚ) < 2 ^ e := zpow_pos two_pos e
  obtain ⟨v, hv⟩ : ∃ v, v = q / 2 ^ e := ⟨_, rfl⟩
  have hq : q = v * 2 ^ e := by rw [hv, div_mul_cancel₀ _ hpos.ne']
  rw [← hv] at hn
  have hlow : 2 ^ 52 ≤ v := by
    rw [hv, le_div_iff₀ hpos]
    exact he.le
  -- in units of the last place, the error is at most a half, and the mantissa is not below `2 ^ 52`
  have hn_ge : 2 ^ 52 ≤ n := hn.le_of_le (by exact_mod_cast hlow)
  have hunits : |(n : ℚ) - v| * (2 ^ 53 + 1) ≤ v := by
    rw [abs_sub_comm]
    rcases le_or_gt (n : ℚ) v with hle | hgt
    · have hn_ge' : (2 : ℚ) ^ 52 ≤ n := by exact_mod_cast hn_ge
      rw [abs_of_nonneg (sub_nonneg.2 hle)]
      linarith [hn.bounds.1]
    · have hn_gt : (2 : ℚ) ^ 52 + 1 ≤ n := by
        have hlt : (2 : ℚ) ^ 52 < n := hlow.trans_lt hgt
        have hlt : 2 ^ 52 < n := by exact_mod_cast hlt
        exact_mod_cast hlt
      rw [abs_of_neg (sub_neg.2 hgt)]
      linarith [hn.bounds.2]
  have hdist : |(n : ℚ) * 2 ^ e - q| = |(n : ℚ) - v| * 2 ^ e := by
    rw [hq, ← sub_mul, abs_mul, abs_of_pos hpos]
  rw [hdist, hq, mul_right_comm]
  exact mul_le_mul_of_nonneg_right hunits hpos.le

theorem nonneg (h : Rounds q p) : 0 ≤ p := by
  obtain ⟨e, n, -, -, rfl⟩ := h
  exact mul_nonneg n.cast_nonneg (zpow_pos two_pos e).le

/-- A whole number that is not passed is not passed by rounding, when there is a fraction. -/
theorem natCast_le (h : Rounds q p) {e : ℤ} (he : Normal q e) (hneg : e ≤ 0) {k : ℕ} (hk : k ≤ q) :
    k ≤ p := by
  obtain ⟨n, hn, rfl⟩ := h.of_normal he
  obtain ⟨f, rfl⟩ := Int.exists_eq_neg_ofNat hneg
  have hpos : (0 : ℚ) < 2 ^ f := by positivity
  rw [zpow_neg, zpow_natCast, div_inv_eq_mul] at hn
  rw [zpow_neg, zpow_natCast, ← div_eq_mul_inv, le_div_iff₀ hpos]
  have hle : k * 2 ^ f ≤ n := hn.le_of_le (by push_cast; exact mul_le_mul_of_nonneg_right hk hpos.le)
  exact_mod_cast hle

end Rounds

/-- A quotient is rounded to the nearest number, with the sign that it is given. -/
theorem holds_ofRatio (negative : Bool) {num den : ℕ} {e : ℤ} (hnum : 0 < num) (hden : 0 < den)
    (h : Normal (num / den) e) (hmin : minExponent ≤ e) (hmax : e < maxExponent) :
    ∃ p, Holds (ofRatio negative num den) negative p ∧ Rounds (num / den) p := by
  obtain ⟨hpos, hdiv⟩ := scaled_div num hden e
  have hnearest := nearest_roundDiv (scaled num den e).1 hpos
  rw [hdiv] at hnearest
  refine ⟨_, ?_, e, _, h, hnearest, rfl⟩
  have hexp := exponentOf_eq hnum hden h hmin
  rw [ofRatio, if_neg hnum.ne', hexp]
  simp only
  by_cases hcarry : roundDiv (scaled num den e).1 (scaled num den e).2 = Nat.pow 2 53
  · -- a mantissa of 54 bits is a power of two
    simp only [if_pos hcarry]
    rw [if_neg (by omega)]
    refine ⟨_, _, rfl, ?_⟩
    rw [hcarry, zpow_add₀ two_ne_zero]
    push_cast [Nat.pow_eq]
    ring
  · simp only [if_neg hcarry]
    rw [if_neg (by omega)]
    exact ⟨_, _, rfl, rfl⟩

/-! ### Products and whole parts -/

namespace Holds

variable {x y : Binary64} {s t : Bool} {p q : ℚ}

theorem toRatio?_eq (h : Holds x s q) :
    ∃ num den : ℕ, 0 < den ∧ (num : ℚ) / den = q ∧
      x.toRatio? = some (if s then -(num : ℤ) else num, den) := by
  obtain ⟨mantissa, exponent, rfl, rfl⟩ := h
  refine ⟨_, _, ?_, ?_, rfl⟩
  · exact Nat.pow_pos two_pos
  · push_cast [Nat.pow_eq]
    rcases le_total 0 exponent with he | he
    · obtain ⟨n, rfl⟩ := Int.eq_ofNat_of_zero_le he
      simp
    · obtain ⟨n, rfl⟩ := Int.exists_eq_neg_ofNat he
      simp [div_eq_mul_inv]

theorem isNegative_eq (h : Holds x s q) : x.isNegative = s := by
  obtain ⟨mantissa, exponent, rfl, -⟩ := h
  rfl

/-- The whole part of a number drops its fraction, whatever its sign. -/
theorem truncate?_eq (h : Holds x s q) :
    x.truncate? = some (if s then -(⌊q⌋₊ : ℤ) else ⌊q⌋₊) := by
  obtain ⟨num, den, hden, rfl, hratio⟩ := h.toRatio?_eq
  rw [truncate?, hratio, Nat.floor_div_eq_div]
  cases s
  · rfl
  · simp [Int.neg_tdiv]

/-- The product of two numbers is their exact product, rounded. -/
theorem mul_eq (hx : Holds x s p) (hy : Holds y t q) :
    ∃ num den : ℕ, 0 < den ∧ (num : ℚ) / den = p * q ∧
      mul x y = ofRatio (s != t) num den := by
  obtain ⟨a, b, hb, rfl, hxratio⟩ := hx.toRatio?_eq
  obtain ⟨c, d, hd, rfl, hyratio⟩ := hy.toRatio?_eq
  refine ⟨a * c, b * d, Nat.mul_pos hb hd, ?_, ?_⟩
  · push_cast
    rw [div_mul_div_comm]
  · rw [mul, hxratio, hyratio, hx.isNegative_eq, hy.isNegative_eq]
    cases s <;> cases t <;> simp [Int.natAbs_mul]

end Holds

end Binary64

end PromptForm
